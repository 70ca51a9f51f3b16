import ProvingGround.Proofs.Trace.Basic

/-!
# Kinds of deeds

What a deed is, as far as counts and absences go: a call at all, a task handed over, the beginning
of a scenario or a call of its body.
-/

namespace ProvingGround

/-! ### Single deeds -/

namespace Deed

def call? : Deed → Option Call
  | asked c _ => some c
  | probed c _ => some c
  | _ => none

def begun? : Deed → Option (String × Environment)
  | began scenario environment => some (scenario, environment)
  | _ => none

def task? : Deed → Option TeardownTask
  | asked (.submit _ task) _ => some task
  | _ => none

def isSubmit : Deed → Bool
  | asked (.submit ..) _ => true
  | _ => false

/-- The run neither hands a task over nor creates a namespace. -/
def isQuiet : Deed → Bool
  | asked (.submit ..) _ => false
  | asked (.createNamespace _) _ => false
  | _ => true

def isEntry : Deed → Bool
  | entered _ => true
  | _ => false

def isProbe : Deed → Bool
  | probed .. => true
  | _ => false

def isAside : Deed → Bool
  | probed .. => true
  | began .. => true
  | _ => false

theorem isSubmit_of_isQuiet {d : Deed} (h : d.isQuiet = true) : d.isSubmit = false := by
  cases d with
  | asked c x =>
    cases c with
    | submit => cases h
    | _ => rfl
  | _ => rfl

theorem eq_of_task? {d : Deed} {task : TeardownTask} (h : d.task? = some task) :
    ∃ queue x, d = .asked (.submit queue task) x := by
  cases d with
  | asked c x =>
    cases c <;> cases h
    exact ⟨_, x, rfl⟩
  | _ => cases h

end Deed

theorem Session.calls_eq {σ : Type} (s : Session σ) : s.calls = s.deeds.filterMap Deed.call? := by
  unfold calls deeds
  rw [List.filterMap_map]
  congr 1
  funext e
  cases e <;> rfl

/-! ### Deeds of one kind -/

/-- All deeds are of a kind. -/
def Among (kind : Deed → Bool) (n : List Deed) : Prop := ∀ d ∈ n, kind d = true

namespace Among

variable {kind : Deed → Bool} {m n : List Deed}

theorem nil : Among kind [] := by
  intro d hd
  cases hd

theorem single {d : Deed} (h : kind d = true) : Among kind [d] := by
  intro e he
  rw [List.mem_singleton.1 he]
  exact h

theorem append (hm : Among kind m) (hn : Among kind n) : Among kind (m ++ n) := by
  intro d hd
  rcases List.mem_append.1 hd with hd | hd
  · exact hm d hd
  · exact hn d hd

theorem imp {other : Deed → Bool} (h : Among kind n) (hk : ∀ d, kind d = true → other d = true) :
    Among other n := by
  intro d hd
  exact hk d (h d hd)

theorem aside (h : Among Deed.isProbe n) : Among Deed.isAside n := by
  apply h.imp
  intro d hd
  cases d <;> first | rfl | cases hd

theorem quiet (h : Among Deed.isAside n) : Among Deed.isQuiet n := by
  apply h.imp
  intro d hd
  cases d <;> first | rfl | cases hd

theorem countP_isSubmit (h : Among Deed.isQuiet n) : n.countP Deed.isSubmit = 0 := by
  rw [List.countP_eq_zero]
  intro d hd
  rw [Deed.isSubmit_of_isQuiet (h d hd)]
  exact Bool.false_ne_true

theorem begun_of_entries (h : Among Deed.isEntry n) : n.filterMap Deed.begun? = [] := by
  rw [List.filterMap_eq_nil_iff]
  intro d hd
  have hk := h d hd
  cases d <;> first | rfl | cases hk

theorem begun_of_probes (h : Among Deed.isProbe n) : n.filterMap Deed.begun? = [] := by
  rw [List.filterMap_eq_nil_iff]
  intro d hd
  have hk := h d hd
  cases d <;> first | rfl | cases hk

end Among

theorem Act.traces_among_bind {σ α β : Type} {kind : Deed → Bool} {a : Act σ α} {b : α → Act σ β}
    (ha : a.Traces fun _ n => Among kind n) (hb : ∀ v, (b v).Traces fun _ n => Among kind n) :
    (a >>= b).Traces fun _ n => Among kind n := by
  apply ha.bind
  · intro v m hm
    exact (hb v).mono fun _ _ => hm.append
  · intro _ _ hm
    exact hm

end ProvingGround
