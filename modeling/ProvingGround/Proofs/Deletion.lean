import ProvingGround.Proofs.Once
import ProvingGround.Proofs.Ownership

/-!
# What teardown names for deletion

The task of a run names the namespace that the run created, which was not in its list, or the run
itself. The run never looks for its own name in the list, so that a namespace of just this name is
named for deletion although the run has found it there.
-/

namespace ProvingGround

variable {t : List Deed} {r : String}

/-! ### Tasks and lists -/

/-- Of the namespaces in its list the run names none in its task, but for one of its own name while it
has not created any. -/
def SparesListed (r : String) (t : List Deed) : Prop :=
  ∀ pre queue task x post names, t = pre ++ .asked (.submit queue task) x :: post →
    .asked .listNamespaces (.ok names) ∈ t → task.ns ∈ names →
    task.ns = r ∧ ∀ ns, ¬ Claimed ns pre

theorem Lawful.not_listed {ns : String} {names : List String} (h : Lawful SparingLaw [] t)
    (claimed : Claimed ns t) (listed : .asked .listNamespaces (.ok names) ∈ t) : ns ∉ names := by
  have once : (oneShots t).Nodup := h.nodup_oneShots List.nodup_nil
  obtain ⟨pre, post, ht⟩ := List.append_of_mem claimed
  rw [ht] at h
  obtain ⟨checked, before, free⟩ := h.split.free ns rfl
  have checked_mem : .asked .listNamespaces (.ok checked) ∈ t := by
    rw [ht]
    exact List.mem_append_left _ before
  -- The run asks for the list once, so that the list it has checked is the one it was given.
  have same := eq_of_oneShot once listed checked_mem rfl rfl
  cases same
  exact free

theorem sparesListed_of_lawful (run : Lawful (RunLaw r) [] t) (sparing : Lawful SparingLaw [] t) :
    SparesListed r t := by
  intro pre queue task x post names ht listed named
  have run' := run
  rw [ht] at run'
  obtain ⟨stands, -⟩ := run'.split
  rcases stands with claimed | own
  · have claimed' : Claimed task.ns t := by
      rw [ht]
      exact Claimed.grow claimed
    exact absurd named (sparing.not_listed claimed' listed)
  · exact own

/-- After every sequence of requests, also one that never ends, the run spares what it has found in
its list, up to its own name. -/
theorem requests_spare {σ : Type} [Services σ] (b : Blueprint) (st : Settings)
    (draws : SuffixDraws) (born : Timestamp) (world : σ) (clock : Duration)
    (calendar : Duration → Timestamp) (patience : Nat) (requests : List Request) :
    SparesListed (generatedName st.operator draws)
      ((performAll requests).exec (.create b st draws born)
        ⟨world, clock, calendar, patience, []⟩).2.deeds := by
  have stands := Standing.create b st draws born
  obtain ⟨n, hn, run, -⟩ := performAll_obeys (σ := σ) requests stands
    ⟨world, clock, calendar, patience, []⟩
  obtain ⟨m, hm, sparing, -⟩ := tidyUpkeep.performAll_obeys (σ := σ) requests stands
    (.create b st draws born) ⟨world, clock, calendar, patience, []⟩
  have trace : ((performAll requests).exec (.create b st draws born)
      ⟨world, clock, calendar, patience, []⟩).2.deeds = n := hn
  have same : n = m := List.append_cancel_left (hn.symm.trans hm)
  rw [← same] at sparing
  rw [trace]
  exact sparesListed_of_lawful run sparing

/-! ### A name that is taken -/

/-- A world with namespaces in which nothing else is granted. -/
structure Crowded where
  names : List String

instance : Services Crowded where
  respond w _ c :=
    match c with
    | .listNamespaces => (⟨.zero, .ok w.names⟩, w)
    | _ => (⟨.zero, .error (.cloud "refused")⟩, w)

/-- The namespaces that a run has found. -/
def Deed.listedNames : Deed → List String
  | asked .listNamespaces (.ok names) => names
  | _ => []

theorem Deed.listed_of_mem {d : Deed} {ns : String} (h : ns ∈ d.listedNames) :
    ∃ names, d = .asked .listNamespaces (.ok names) ∧ ns ∈ names := by
  unfold listedNames at h
  split at h
  next names => exact ⟨names, rfl, h⟩
  · cases h

/-- A run that asks for the namespace `taken`. -/
def Lifecycle.late : Lifecycle :=
  .create { Blueprint.least with ns := "taken" }
    { (default : Settings) with operator := usualOperator } (.ofNat 0) ⟨0⟩

/-- What that run does where its namespace is taken, and one of its own name is there as well. -/
def Crowded.deeds : List Deed :=
  ((performAll [.setup false, .teardown true]).exec .late
    (⟨⟨["taken", Lifecycle.late.runId]⟩, .zero, fun _ => ⟨0⟩, 1, []⟩ : Session Crowded)).2.deeds

/-- In the crowded world the run has a list with its own name in it, and hands over a task that names
just this namespace for deletion. -/
theorem requests_name_listed :
    ∃ names queue task x, .asked .listNamespaces (.ok names) ∈ Crowded.deeds ∧
      .asked (.submit queue task) x ∈ Crowded.deeds ∧ task.deletesNamespace = true ∧
      task.ns ∈ names := by
  have found : Crowded.deeds.any (fun d => Crowded.deeds.any fun e => e.task?.any fun task =>
      task.deletesNamespace && d.listedNames.contains task.ns) = true := by
    decide +kernel
  obtain ⟨d, hd, found⟩ := List.any_eq_true.1 found
  obtain ⟨e, he, found⟩ := List.any_eq_true.1 found
  rw [Option.any_eq_true] at found
  obtain ⟨task, handed, found⟩ := found
  rw [Bool.and_eq_true, List.contains_iff_mem] at found
  obtain ⟨queue, x, rfl⟩ := Deed.eq_of_task? handed
  obtain ⟨names, rfl, named⟩ := Deed.listed_of_mem found.2
  exact ⟨names, queue, task, x, hd, he, found.1, named⟩

end ProvingGround
