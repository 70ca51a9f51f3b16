import ProvingGround.Proofs.Trace.Kinds
import ProvingGround.Proofs.Trace.Law

/-!
# Calls that are made once

Polls repeat readings. All other calls are made once, in one order, and a refusal of one of them
ends the work: after it the run only closes.
-/

namespace ProvingGround

/-! ### Calls -/

/-- A call that is no reading, by what it does. -/
inductive OneShot where
  | listing
  | claim
  | object (w : Workload)
  | pool
  | timing
  | address
  | handover
  deriving DecidableEq, Repr

/-- The calls with which a run ends. -/
def OneShot.isClosing : OneShot → Bool
  | address => true
  | handover => true
  | _ => false

namespace Call

def oneShot? : Call → Option OneShot
  | listNamespaces => some .listing
  | createNamespace _ => some .claim
  | create _ m => some (.object m.workload)
  | createPool _ => some .pool
  | startTiming .. => some .timing
  | serviceAddress .. => some .address
  | submit .. => some .handover
  | listPods .. => none
  | podLogs .. => none
  | workloadStatus .. => none
  | poolStatus _ => none

def isClosing (c : Call) : Bool := c.oneShot?.any OneShot.isClosing

end Call

namespace Deed

def oneShot? : Deed → Option OneShot
  | asked c _ => c.oneShot?
  | _ => none

/-- A call of the run that a poll may repeat. -/
def isReading : Deed → Bool
  | asked c _ => c.oneShot?.isNone
  | _ => false

/-- A call of setup that is made once has been refused. -/
def isRefusal : Deed → Bool
  | asked c (.error _) => c.oneShot?.any fun o => !o.isClosing
  | _ => false

end Deed

def oneShots (t : List Deed) : List OneShot := t.filterMap Deed.oneShot?

@[simp] theorem oneShots_nil : oneShots [] = [] := rfl

@[simp] theorem oneShots_append (t n : List Deed) : oneShots (t ++ n) = oneShots t ++ oneShots n :=
  List.filterMap_append

theorem oneShots_eq_nil {n : List Deed} (idle : ∀ d ∈ n, d.oneShot? = none) : oneShots n = [] :=
  List.filterMap_eq_nil_iff.2 idle

theorem eq_of_oneShot {t : List Deed} {d e : Deed} {o : OneShot} (once : (oneShots t).Nodup)
    (hd : d ∈ t) (he : e ∈ t) (shot : d.oneShot? = some o) (other : e.oneShot? = some o) : e = d := by
  obtain ⟨pre, post, rfl⟩ := List.append_of_mem hd
  have split : oneShots (pre ++ d :: post) = oneShots pre ++ o :: oneShots post := by
    simp [oneShots, shot]
  rw [split] at once
  obtain ⟨-, rest, apart⟩ := List.nodup_append.1 once
  rcases List.mem_append.1 he with he | he
  · exact absurd rfl (apart o (List.mem_filterMap.2 ⟨e, he, other⟩) o List.mem_cons_self)
  · rcases List.mem_cons.1 he with same | he
    · exact same
    · have again : o ∈ oneShots post := List.mem_filterMap.2 ⟨e, he, other⟩
      exact absurd again (List.nodup_cons.1 rest).1

theorem Deed.oneShot?_of_isReading {d : Deed} (h : d.isReading = true) : d.oneShot? = none := by
  cases d with
  | asked c x => simpa [isReading, oneShot?] using h
  | probed | entered | began => rfl

theorem Deed.isRefusal_of_oneShot? {d : Deed} (h : d.oneShot? = none) : d.isRefusal = false := by
  cases d with
  | asked c x =>
    have hc : c.oneShot? = none := h
    cases x <;> simp [isRefusal, hc]
  | probed | entered | began => rfl

/-! ### The order of a run -/

namespace OneShot

def ofObject (kind : WorkloadKind) (name : String) : OneShot := object ⟨kind, name⟩

/-- What setup has called once when it owns a namespace, and so on part by part. -/
def claimed : List OneShot := [listing, claim]

def logged : List OneShot :=
  claimed ++
    [ofObject .service indexerName, ofObject .statefulSet indexerName,
     ofObject .configMap collectorName, ofObject .daemonSet collectorName,
     ofObject .service dashboardName, ofObject .deployment dashboardName]

def pooled : List OneShot := logged ++ [pool]

def bootstrapped : List OneShot := pooled ++ [ofObject .deployment bootstrapGroup, timing]

def deployed : List OneShot :=
  bootstrapped ++ [ofObject .deployment clientGroup, ofObject .deployment secondClientGroup]

def closed : List OneShot := deployed ++ [address, handover]

end OneShot

theorem loggingStack_oneShots (ns : String) (store : StoreSettings) :
    OneShot.logged =
      OneShot.claimed ++ (loggingStack ns store).map fun m => .object m.workload := rfl

/-! ### The law -/

/-- A call that is made once has been refused before. -/
def Hindered (t : List Deed) : Prop := ∃ d ∈ t, d.isRefusal = true

/-- Whether a run that has done `t` may make a call. -/
structure MayAsk (t : List Deed) (c : Call) : Prop where
  new : ∀ o, c.oneShot? = some o → o ∉ oneShots t
  unhindered : Hindered t → c.isClosing = true
  /-- A namespace is only created after a list without it. -/
  free : ∀ ns, c = .createNamespace ns → ∃ names, .asked .listNamespaces (.ok names) ∈ t ∧ ns ∉ names

theorem MayAsk.of_reading {t : List Deed} {c : Call} (h : ¬ Hindered t) (reading : c.oneShot? = none) :
    MayAsk t c where
  new := by
    intro o ho
    rw [reading] at ho
    cases ho
  unhindered := fun hindered => absurd hindered h
  free := by
    rintro ns rfl
    cases reading

theorem MayAsk.of_closing {t : List Deed} {c : Call} {o : OneShot} (shot : c.oneShot? = some o)
    (closing : o.isClosing = true) (new : o ∉ oneShots t) : MayAsk t c where
  new := by
    intro o' ho
    rw [shot] at ho
    cases ho
    exact new
  unhindered := by
    intro _
    simp [Call.isClosing, shot, closing]
  free := by
    rintro ns rfl
    cases shot
    cases closing

/-- The law of a run that repeats readings only and gives up at the first refusal. -/
def SparingLaw (t : List Deed) : Deed → Prop
  | .asked c _ => MayAsk t c
  | .probed .. => ¬ Hindered t
  | .entered _ => True
  | .began .. => True

/-- The same law for a task, which only makes calls. -/
def AskingLaw (t : List Deed) : Deed → Prop
  | .asked c _ => MayAsk t c
  | _ => False

theorem sparingLaw_of_askingLaw (t : List Deed) (d : Deed) (h : AskingLaw t d) :
    SparingLaw t d := by
  cases d with
  | asked => exact h
  | probed | entered | began => exact h.elim

section Lawful

variable {t n : List Deed}

theorem Lawful.nodup_oneShots (h : Lawful SparingLaw t n) (before : (oneShots t).Nodup) :
    (oneShots (t ++ n)).Nodup := by
  induction n generalizing t with
  | nil => simpa using before
  | cons d n ih =>
    obtain ⟨hd, hn⟩ := h
    have step : (oneShots (t ++ [d])).Nodup := by
      cases ho : d.oneShot? with
      | none => simpa [oneShots, ho] using before
      | some o =>
        have new : o ∉ oneShots t := by
          cases d with
          | asked c x => exact hd.new o ho
          | probed | entered | began => cases ho
        rw [oneShots_append, List.nodup_append]
        refine ⟨before, by simp [oneShots, ho], ?_⟩
        intro a ha b hb same
        simp only [oneShots, List.filterMap_cons, ho, List.filterMap_nil, List.mem_singleton] at hb
        rw [same, hb] at ha
        exact new ha
    have later := ih hn step
    rw [List.append_assoc] at later
    exact later

theorem Hindered.grow (h : Hindered t) : Hindered (t ++ n) := by
  obtain ⟨d, hd, refusal⟩ := h
  exact ⟨d, List.mem_append_left n hd, refusal⟩

/-- After a refusal there is nothing but closing. -/
theorem Lawful.closing_of_hindered (h : Lawful SparingLaw t n) (hindered : Hindered t) {d : Deed}
    {c : Call} (hd : d ∈ n) (call : d.call? = some c) : c.isClosing = true := by
  obtain ⟨pre, law⟩ := h.mem hd
  cases d with
  | asked c' x =>
    cases call
    exact law.unhindered hindered.grow
  | probed c' x => exact absurd hindered.grow law
  | entered | began => cases call

end Lawful

/-! ### Clear traces -/

/-- Nothing has been refused, and what was called once is among `E`, in its order. -/
structure Clear (E : List OneShot) (t : List Deed) : Prop where
  order : (oneShots t).Sublist E
  unhindered : ¬ Hindered t

namespace Clear

variable {E E' : List OneShot} {t n : List Deed}

theorem mono (h : Clear E t) (sub : E.Sublist E') : Clear E' t := ⟨h.order.trans sub, h.unhindered⟩

theorem of_untouched (h : t.filterMap Deed.call? = []) : Clear [] t := by
  have none : ∀ d ∈ t, d.oneShot? = none := by
    intro d hd
    have hc := List.filterMap_eq_nil_iff.1 h d hd
    cases d with
    | asked => cases hc
    | probed | entered | began => rfl
  constructor
  · exact List.sublist_nil.2 (List.filterMap_eq_nil_iff.2 none)
  · intro hindered
    obtain ⟨d, hd, refusal⟩ := hindered
    rw [Deed.isRefusal_of_oneShot? (none d hd)] at refusal
    cases refusal

/-- What is no call made once leaves a trace clear. -/
theorem append (h : Clear E t) (idle : ∀ d ∈ n, d.oneShot? = none) : Clear E (t ++ n) := by
  constructor
  · have none : oneShots n = [] := List.filterMap_eq_nil_iff.2 idle
    rw [oneShots_append, none, List.append_nil]
    exact h.order
  · intro hindered
    obtain ⟨d, hd, refusal⟩ := hindered
    rcases List.mem_append.1 hd with hd | hd
    · exact h.unhindered ⟨d, hd, refusal⟩
    · rw [Deed.isRefusal_of_oneShot? (idle d hd)] at refusal
      cases refusal

theorem reading (h : Clear E t) (readings : Among Deed.isReading n) : Clear E (t ++ n) :=
  h.append fun d hd => Deed.oneShot?_of_isReading (readings d hd)

/-- A call made once that was granted. -/
theorem granted {c : Call} {o : OneShot} {v : c.Answer} (h : Clear E t)
    (shot : c.oneShot? = some o) : Clear (E ++ [o]) (t ++ [.asked c (.ok v)]) := by
  constructor
  · have single : oneShots [.asked c (.ok v)] = [o] := by simp [oneShots, Deed.oneShot?, shot]
    rw [oneShots_append, single]
    exact h.order.append (List.Sublist.refl _)
  · intro hindered
    obtain ⟨d, hd, refusal⟩ := hindered
    rcases List.mem_append.1 hd with hd | hd
    · exact h.unhindered ⟨d, hd, refusal⟩
    · rw [List.mem_singleton.1 hd] at refusal
      cases refusal

end Clear

end ProvingGround
