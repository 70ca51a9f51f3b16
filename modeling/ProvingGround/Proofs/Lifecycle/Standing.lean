import ProvingGround.Proofs.Lifecycle.History
import ProvingGround.Proofs.Setup.Law
import ProvingGround.Proofs.Trace.Kinds

/-!
# How the record of a run stands to its trace

The record says of a run what its trace shows: whether anything was called at all, which namespace
was created, and whether the teardown task was handed over.
-/

namespace ProvingGround

/-! ### Quiet deeds -/

theorem Among.claimed_append {ns : String} {t n : List Deed} (quiet : Among Deed.isQuiet n) :
    Claimed ns (t ++ n) ↔ Claimed ns t := by
  constructor
  · intro h
    rcases List.mem_append.1 h with h | h
    · exact h
    · cases quiet _ h
  · exact Claimed.grow

section SetupLaw

variable {b : Blueprint} {store : StoreSettings} {t n : List Deed}

theorem countP_isSubmit_of_setupLaw (lawful : Lawful (SetupLaw b store) t n) :
    n.countP Deed.isSubmit = 0 := by
  rw [List.countP_eq_zero]
  intro d hd hs
  obtain ⟨pre, h⟩ := lawful.mem hd
  cases d with
  | asked c x =>
    cases c with
    | submit => exact h
    | _ => cases hs
  | _ => cases hs

/-- Once a namespace is created, setup is quiet. -/
theorem quiet_of_setupLaw {ns : String} (lawful : Lawful (SetupLaw b store) t n)
    (claimed : Claimed ns t) : Among Deed.isQuiet n := by
  intro d hd
  obtain ⟨pre, h⟩ := lawful.mem hd
  cases d with
  | asked c x =>
    cases c with
    | submit => exact h.elim
    | createNamespace => exact absurd claimed.grow (h.2 ns _)
    | _ => rfl
  | _ => rfl

end SetupLaw

/-! ### Standing -/

/-- The record of a run and its trace agree. -/
structure Standing (l : Lifecycle) (t : List Deed) : Prop where
  regular : l.Regular
  reported : l.reported = true ↔ l.phase = .done
  submits : t.countP Deed.isSubmit = if l.phase = .done then 1 else 0
  untouched : l.phase = .notStarted ∨ l.phase = .skipped → t.filterMap Deed.call? = []
  owned : ∀ ns, l.ns = some ns ↔ Claimed ns t

namespace Standing

variable {l : Lifecycle} {t n : List Deed}

theorem create (b : Blueprint) (s : Settings) (draws : SuffixDraws) (now : Timestamp) :
    Standing (.create b s draws now) [] where
  regular := Lifecycle.regular_create b s draws now
  reported := ⟨fun h => Bool.noConfusion h, fun h => Phase.noConfusion h⟩
  submits := rfl
  untouched := fun _ => rfl
  owned := by
    intro ns
    constructor
    · intro h
      cases h
    · intro h
      cases h

theorem fresh (h : Standing l t) (start : l.phase = .notStarted) :
    ∀ ns x, .asked (.createNamespace ns) x ∉ t := by
  intro ns x hm
  have none := List.filterMap_eq_nil_iff.1 (h.untouched (.inl start)) _ hm
  cases none

theorem ns_eq_none (h : Standing l t) (start : l.phase = .notStarted) : l.ns = none := by
  rw [Option.eq_none_iff_forall_ne_some]
  intro ns hns
  exact h.fresh start ns _ ((h.owned ns).1 hns)

theorem prepareRun (h : Standing l t) (now : Timestamp) : Standing (prepareRun now l) t :=
  ⟨⟨h.regular.starts, h.regular.chain⟩, h.reported, h.submits, h.untouched, h.owned⟩

/-- Entering a phase keeps the record standing, but for the last one, which needs its task. -/
theorem enter {e : Transition} {tr : Trigger} (h : Standing l t)
    (edge : Transition.find? l.phase tr = some e) (open_ : e.target ≠ .done) :
    Standing (l.enter e.target) (t ++ [.entered e.target]) := by
  have leads := Phase.leads_of_find? edge
  have before : l.phase ≠ .done := by
    intro done
    have ht := leads.not_isTerminal
    rw [done] at ht
    cases ht
  have quiet : Among Deed.isQuiet [.entered e.target] := Among.single rfl
  constructor
  · exact h.regular.enter leads
  · show l.reported = true ↔ e.target = .done
    rw [h.reported]
    exact iff_of_false before open_
  · show _ = if e.target = .done then 1 else 0
    rw [List.countP_append, quiet.countP_isSubmit, h.submits, if_neg before, if_neg open_]
  · show e.target = .notStarted ∨ e.target = .skipped → _
    intro untouched
    rcases untouched with start | skip
    · exact absurd start leads.ne_notStarted
    · rw [skip] at leads
      rw [List.filterMap_append, h.untouched (.inl leads.of_skipped)]
      rfl
  · intro ns
    show l.ns = some ns ↔ _
    rw [quiet.claimed_append]
    exact h.owned ns

/-- A run that has started makes calls, among them the one that creates its namespace. -/
theorem claim (own : Option String) (h : Standing l t) (started : l.phase ≠ .notStarted)
    (worked : l.phase ≠ .skipped) (unsubmitted : n.countP Deed.isSubmit = 0)
    (owned : ∀ ns, own = some ns ↔ Claimed ns (t ++ n)) :
    Standing { l with ns := own } (t ++ n) where
  regular := ⟨h.regular.starts, h.regular.chain⟩
  reported := h.reported
  submits := by
    rw [List.countP_append, unsubmitted, h.submits, Nat.add_zero]
  untouched := by
    intro untouched
    rcases untouched with start | skip
    · exact absurd start started
    · exact absurd skip worked
  owned := owned

theorem grow (h : Standing l t) (started : l.phase ≠ .notStarted) (worked : l.phase ≠ .skipped)
    (quiet : Among Deed.isQuiet n) : Standing l (t ++ n) := by
  have owned : ∀ ns, l.ns = some ns ↔ Claimed ns (t ++ n) := by
    intro ns
    rw [quiet.claimed_append]
    exact h.owned ns
  exact claim l.ns h started worked quiet.countP_isSubmit owned

end Standing

/-! ### Standing in a phase -/

/-- The run `l₀` has come to a phase. -/
structure Reaches (l₀ : Lifecycle) (p : Phase) (l : Lifecycle) (t : List Deed) : Prop where
  standing : Standing l t
  phase : l.phase = p
  settings : l.settings = l₀.settings
  runId : l.runId = l₀.runId

namespace Reaches

variable {l₀ l l' : Lifecycle} {p q : Phase} {t t' n : List Deed}

theorem refl (h : Standing l t) : Reaches l l.phase l t := ⟨h, rfl, rfl, rfl⟩

theorem trans (h : Reaches l₀ p l t) (h' : Reaches l q l' t') : Reaches l₀ q l' t' :=
  ⟨h'.standing, h'.phase, h'.settings.trans h.settings, h'.runId.trans h.runId⟩

theorem enter {e : Transition} {tr : Trigger} (h : Reaches l₀ p l t)
    (edge : Transition.find? p tr = some e) (open_ : e.target ≠ .done) :
    Reaches l₀ e.target (l.enter e.target) (t ++ [.entered e.target]) := by
  rw [← h.phase] at edge
  exact ⟨h.standing.enter edge open_, rfl, h.settings, h.runId⟩

theorem grow (h : Reaches l₀ p l t) (started : p ≠ .notStarted) (worked : p ≠ .skipped)
    (quiet : Among Deed.isQuiet n) : Reaches l₀ p l (t ++ n) := by
  rw [← h.phase] at started worked
  exact { h with standing := h.standing.grow started worked quiet }

end Reaches

end ProvingGround
