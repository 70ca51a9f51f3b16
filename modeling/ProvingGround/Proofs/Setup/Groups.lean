import ProvingGround.Proofs.Setup.BroughtUp

/-!
# Groups as they were found

The answers to the lists of pods of a group are all there is to a wait for it. The last of them is
the whole group, and is handed over as it is; those before were not the whole group. Groups do not
get in the way of one another, because their names differ.
-/

namespace ProvingGround

open Text

/-! ### Whole groups -/

/-- So many replicas are there, and all pods can be reached. -/
def IsWhole (replicas : Int) (pods : List Pod) : Prop :=
  (replicas ≤ pods.length ∧ pods ≠ []) ∧ ∀ p ∈ pods, p.ready = true ∧ p.address ≠ ""

theorem isWholeGroup_iff {replicas : Int} {pods : List Pod} :
    isWholeGroup (wantedPods replicas) pods = true ↔ IsWhole replicas pods := by
  have enough : wantedPods replicas ≤ pods.length ↔ replicas ≤ pods.length ∧ pods ≠ [] := by
    unfold wantedPods
    rw [← List.length_pos_iff]
    omega
  have reachable : pods.all Pod.isReachable = true ↔
      ∀ p ∈ pods, p.ready = true ∧ p.address ≠ "" := by
    rw [List.all_eq_true]
    apply forall₂_congr
    intro p _
    unfold Pod.isReachable
    rw [Bool.and_eq_true, Bool.not_eq_true', String.isEmpty_eq_false_iff]
  unfold isWholeGroup IsWhole
  rw [Bool.and_eq_true, decide_eq_true_eq, enough, reachable]

/-- The answer to a list of pods leaves the wait for so many replicas open. -/
def LeavesOpen (replicas : Int) : Except Fault (List Pod) → Prop
  | .ok pods => ¬ IsWhole replicas pods
  | .error f => f.isTransient = true

theorem leavesOpen_of_notYet {replicas : Int} {x : Except Fault (List Pod)}
    (h : Verdict.of (groupVerdict (wantedPods replicas) x) = .notYet) : LeavesOpen replicas x := by
  obtain ⟨unmet, transient⟩ := unmet_of_notYet h
  cases x with
  | error f => exact transient f rfl
  | ok pods =>
    intro whole
    rw [← isWholeGroup_iff, unmet pods rfl] at whole
    cases whole

/-! ### Groups that were found -/

/-- In a namespace, and by a trace, a group of so many replicas is as it was listed at the end of
the wait for it. -/
structure GroupFound (t : List Deed) (ns : String) (g : NodeGroup) (replicas : Int) : Prop where
  ns_eq : g.ns = ns
  whole : IsWhole replicas g.pods
  listed : ∃ earlier, answersTo (.listPods ns ("app=" ++ g.name)) t = earlier ++ [.ok g.pods] ∧
    ∀ x ∈ earlier, LeavesOpen replicas x

theorem GroupFound.of_answers {t n : List Deed} {ns : String} {g : NodeGroup} {replicas : Int}
    (h : GroupFound t ns g replicas)
    (same : answersTo (.listPods ns ("app=" ++ g.name)) n =
      answersTo (.listPods ns ("app=" ++ g.name)) t) : GroupFound n ns g replicas := by
  obtain ⟨earlier, answers, open_⟩ := h.listed
  exact ⟨h.ns_eq, h.whole, earlier, same.trans answers, open_⟩

section Deployed

variable {ns : String} {group : NodeSpec × Manifest} {groups : List (NodeSpec × Manifest)}
  {g : NodeGroup} {gs : List NodeGroup} {n : List Deed}

theorem podSelector_ne {a b : String} (h : a ≠ b) : podSelector a ≠ podSelector b := by
  intro same
  apply h
  have lists := congrArg String.toList same
  simp only [podSelector, String.toList_append] at lists
  exact String.toList_inj.1 (List.append_cancel_left lists)

theorem Deployed.answers (h : Deployed ns group g n) :
    EndsWait (groupVerdict (wantedPods group.1.replicas)) g.pods
      (answersTo (.listPods ns (podSelector g.name)) n) := by
  obtain ⟨lists, ends, rfl⟩ := h.work
  rw [← List.singleton_append, answersTo_append, answersTo_same]
  exact ends

theorem Deployed.silent (h : Deployed ns group g n) {name : String} (other : group.2.name ≠ name) :
    answersTo (.listPods ns (podSelector name)) n = [] := by
  obtain ⟨lists, -, rfl⟩ := h.work
  have apart : Call.listPods ns (podSelector g.name) ≠ .listPods ns (podSelector name) := by
    intro same
    rw [h.name] at same
    exact podSelector_ne other (Call.listPods.inj same).2
  rw [← List.singleton_append, answersTo_append, answersTo_other apart]
  rfl

theorem AllDeployed.silent (h : AllDeployed ns groups gs n) {name : String}
    (other : name ∉ groups.map (·.2.name)) :
    answersTo (.listPods ns (podSelector name)) n = [] := by
  induction h with
  | nil => rfl
  | cons first rest ih =>
    rw [List.map_cons, List.mem_cons, not_or] at other
    rw [answersTo_append, first.silent (Ne.symm other.1), ih other.2]
    rfl

theorem AllDeployed.names (h : AllDeployed ns groups gs n) :
    gs.map (·.name) = groups.map (·.2.name) := by
  induction h with
  | nil => rfl
  | cons first _ ih => rw [List.map_cons, List.map_cons, first.name, ih]

/-- Whatever came before, groups are found by the answers to their own lists. -/
theorem AllDeployed.found_after {t : List Deed} (h : AllDeployed ns groups gs n)
    (apart : (groups.map (·.2.name)).Nodup)
    (before : ∀ name ∈ groups.map (·.2.name), answersTo (.listPods ns (podSelector name)) t = []) :
    List.Forall₂ (GroupFound (t ++ n) ns) gs (groups.map (·.1.replicas)) := by
  -- The lists of the first group stand between what came before and the lists of the others.
  induction h generalizing t with
  | nil => exact .nil
  | @cons group g n groups gs k first rest ih =>
    rw [List.map_cons, List.nodup_cons] at apart
    apply List.Forall₂.cons
    · obtain ⟨earlier, last, lists, waiting, ends⟩ := first.answers
      obtain ⟨pods, rfl, whole, rfl⟩ := metVerdict_eq_some ends
      have own : g.name ∉ groups.map (·.2.name) := by
        rw [first.name]
        exact apart.1
      have none : answersTo (.listPods ns (podSelector g.name)) t = [] := by
        apply before
        rw [first.name]
        exact List.mem_cons_self
      refine ⟨first.ns_eq, isWholeGroup_iff.1 whole, earlier, ?_, ?_⟩
      · show answersTo (.listPods ns (podSelector g.name)) _ = _
        rw [answersTo_append, answersTo_append, none, lists, rest.silent own, List.append_nil]
        rfl
      · intro x hx
        exact leavesOpen_of_notYet (waiting x hx)
    · rw [← List.append_assoc]
      apply ih apart.2
      intro name hname
      have other : group.2.name ≠ name := by
        rintro rfl
        exact apart.1 hname
      rw [answersTo_append, before name (List.mem_cons_of_mem _ hname), first.silent other]
      rfl

theorem AllDeployed.found (h : AllDeployed ns groups gs n)
    (apart : (groups.map (·.2.name)).Nodup) :
    List.Forall₂ (GroupFound n ns) gs (groups.map (·.1.replicas)) :=
  h.found_after (t := []) apart fun _ _ => rfl

end Deployed

/-! ### Groups of a placement -/

theorem Placement.map_fst_groups (p : Placement) (b : Blueprint) (pod : Pod) :
    (p.groups b pod).map Prod.fst = b.groups := by
  unfold groups Blueprint.groups
  cases b.clientv2 <;> rfl

theorem Placement.names_groups (p : Placement) (b : Blueprint) (pod : Pod) :
    (p.groups b pod).map (·.2.name) =
      "bootstrap" :: "client" :: if b.clientv2.isSome then ["clientv2"] else [] := by
  unfold groups
  cases b.clientv2 <;> rfl

theorem Placement.nodup_groups (p : Placement) (b : Blueprint) (pod : Pod) :
    ((p.groups b pod).map (·.2.name)).Nodup := by
  rw [names_groups]
  split <;> decide

end ProvingGround
