import Mathlib.Data.List.Chain
import ProvingGround.Lifecycle.Basic

/-!
# The history of a run

Phases follow one another along the edges of the table. Every edge leads to a phase of a higher
rank, so that no phase is entered twice.
-/

namespace ProvingGround

/-! ### Edges -/

namespace Phase

/-- The place of a phase among all. -/
def rank : Phase → Nat
  | notStarted => 0
  | provisioning => 1
  | loggingReady => 2
  | poolScaled => 3
  | bootstrapReady => 4
  | clientsReady => 5
  | genesisSynced => 6
  | running => 7
  | reporting => 8
  | done => 9
  | skipped => 10

/-- The table has an edge between the phases. -/
def Leads (p q : Phase) : Prop := ∃ e ∈ Transition.table, e.source = p ∧ e.target = q

theorem rank_lt_of_mem_table : ∀ e ∈ Transition.table, e.source.rank < e.target.rank := by
  decide

theorem Leads.rank_lt {p q : Phase} (h : p.Leads q) : p.rank < q.rank := by
  obtain ⟨e, he, rfl, rfl⟩ := h
  exact rank_lt_of_mem_table e he

theorem leads_of_find? {p : Phase} {t : Trigger} {e : Transition}
    (h : Transition.find? p t = some e) : p.Leads e.target := by
  obtain ⟨he, hp, -⟩ := Transition.find?_eq_some h
  exact ⟨e, he, hp, rfl⟩

/-- No edge leads out of a phase at the end. -/
theorem Leads.not_isTerminal {p q : Phase} (h : p.Leads q) : p.isTerminal = false := by
  obtain ⟨e, he, rfl, -⟩ := h
  have ht : ∀ e ∈ Transition.table, e.source.isTerminal = false := by decide
  exact ht e he

theorem Leads.ne_notStarted {p q : Phase} (h : p.Leads q) : q ≠ .notStarted := by
  intro hq
  have hr := h.rank_lt
  rw [hq] at hr
  exact absurd hr (Nat.not_lt_zero _)

/-- A run is only skipped before it starts. -/
theorem Leads.of_skipped {p : Phase} (h : p.Leads .skipped) : p = .notStarted := by
  obtain ⟨e, he, rfl, hq⟩ := h
  have hs : ∀ e ∈ Transition.table, e.target = .skipped → e.source = .notStarted := by decide
  exact hs e he hq

end Phase

/-! ### Histories -/

namespace Lifecycle

/-- The history begins before the start and goes along the edges. -/
structure Regular (l : Lifecycle) : Prop where
  starts : l.history.head? = some .notStarted
  chain : l.history.IsChain Phase.Leads

variable {l : Lifecycle}

theorem getLast?_history (l : Lifecycle) : l.history.getLast? = some l.phase := by
  simp [history]

theorem regular_create (b : Blueprint) (s : Settings) (draws : SuffixDraws) (now : Timestamp) :
    (create b s draws now).Regular :=
  ⟨rfl, .singleton _⟩

theorem Regular.enter {p : Phase} (h : l.Regular) (leads : l.phase.Leads p) :
    (l.enter p).Regular := by
  constructor
  · rw [history_enter, List.head?_append, h.starts]
    rfl
  · rw [history_enter, List.isChain_append]
    refine ⟨h.chain, .singleton _, ?_⟩
    intro x hx y hy
    rw [getLast?_history] at hx
    cases hx
    cases hy
    exact leads

theorem Regular.nodup (h : l.Regular) : l.history.Nodup := by
  -- Along a chain ranks rise at each edge, hence between any two phases.
  have ranks : (l.history.map Phase.rank).IsChain (· < ·) := by
    rw [List.isChain_map]
    exact h.chain.imp fun _ _ => Phase.Leads.rank_lt
  have rising := List.pairwise_map.1 (List.isChain_iff_pairwise.1 ranks)
  apply rising.imp
  intro p q lt eq
  rw [eq] at lt
  exact absurd lt (Nat.lt_irrefl _)

end Lifecycle

end ProvingGround
