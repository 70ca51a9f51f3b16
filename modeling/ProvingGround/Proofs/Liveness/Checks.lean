import ProvingGround.Proofs.Trace.Looks
import ProvingGround.Scenario.Liveness

/-!
# Checks of groups

The groups of a network are looked at one after the other, once each, until one has lost pods or
cannot be seen. What was seen determines the verdict.
-/

namespace ProvingGround

/-- What a look of a scenario at the pods of a group leaves in the history. -/
def NodeGroup.probe (ns : String) (g : NodeGroup) (l : Look (List Pod)) : Event :=
  .probed ⟨.listPods ns (podSelector g.name), l.start, l.finish, l.answer⟩

/-- What is left of looks at groups, one a group. -/
def groupProbes (ns : String) : List NodeGroup → List (Look (List Pod)) → List Event :=
  List.zipWith (NodeGroup.probe ns)

/-- As many pods were seen ready as the group was handed over with, or more. -/
def NodeGroup.FoundFull (g : NodeGroup) (l : Look (List Pod)) : Prop :=
  ∃ pods, l.answer = .ok pods ∧ g.pods.length ≤ pods.countP (·.ready)

/-- The verdict on groups from looks at them. -/
inductive Checked (epochs : Nat) :
    List NodeGroup → List (Look (List Pod)) → Except ScenarioFault Unit → Prop where
  | all : Checked epochs [] [] (.ok ())
  | full {g : NodeGroup} {l : Look (List Pod)} {rest looks verdict} (found : g.FoundFull l)
      (later : Checked epochs rest looks verdict) :
      Checked epochs (g :: rest) (l :: looks) verdict
  | short {g : NodeGroup} {l : Look (List Pod)} {rest pods} (seen : l.answer = .ok pods)
      (few : pods.countP (·.ready) < g.pods.length) :
      Checked epochs (g :: rest) [l] (.error (.check (lossText g (pods.countP (·.ready)) epochs)))
  | unseen {g : NodeGroup} {l : Look (List Pod)} {rest f} (failed : l.answer = .error f) :
      Checked epochs (g :: rest) [l] (.error (.fault f))

section Verdicts

variable {epochs : Nat} {ns : String} {groups : List NodeGroup} {looks looks' : List (Look (List Pod))}
  {verdict : Except ScenarioFault Unit}

theorem Checked.length_le (h : Checked epochs groups looks verdict) :
    looks.length ≤ groups.length := by
  induction h with
  | all => exact Nat.le_refl _
  | full _ _ ih => exact Nat.succ_le_succ ih
  | short _ _ => exact Nat.succ_le_succ (Nat.zero_le _)
  | unseen _ => exact Nat.succ_le_succ (Nat.zero_le _)

/-- The verdict is good just when each group was found full. -/
theorem Checked.passed_iff (h : Checked epochs groups looks verdict) :
    verdict = .ok () ↔ List.Forall₂ NodeGroup.FoundFull groups looks := by
  induction h with
  | all => exact ⟨fun _ => .nil, fun _ => rfl⟩
  | full found _ ih =>
    rw [ih, List.forall₂_cons, and_iff_right found]
  | short seen few =>
    refine ⟨nofun, fun all => ?_⟩
    obtain ⟨pods, again, enough⟩ := (List.forall₂_cons.1 all).1
    rw [seen] at again
    cases again
    omega
  | unseen failed =>
    refine ⟨nofun, fun all => ?_⟩
    obtain ⟨pods, again, -⟩ := (List.forall₂_cons.1 all).1
    rw [failed] at again
    cases again

theorem groupProbes_injective (length : looks.length ≤ groups.length)
    (length' : looks'.length ≤ groups.length)
    (same : groupProbes ns groups looks = groupProbes ns groups looks') : looks = looks' := by
  induction groups generalizing looks looks' with
  | nil =>
    rw [List.length_eq_zero_iff.1 (Nat.le_zero.1 length),
      List.length_eq_zero_iff.1 (Nat.le_zero.1 length')]
  | cons g rest ih =>
    cases looks with
    | nil =>
      cases looks' with
      | nil => rfl
      | cons l' looks' => cases same
    | cons l looks =>
      cases looks' with
      | nil => cases same
      | cons l' looks' =>
        obtain ⟨first, others⟩ := List.cons.inj same
        have look : l = l' := by
          obtain ⟨start, finish, answer⟩ := l
          cases first
          rfl
        rw [look, ih (Nat.le_of_succ_le_succ length) (Nat.le_of_succ_le_succ length') others]

end Verdicts

section Runs

variable {σ : Type} [Services σ]

namespace NodeGroup

/-- The session after a look at the pods of the group, which is made now. -/
def lookedAt (ns : String) (g : NodeGroup) (s : Session σ) : Session σ :=
  (Act.exchange .probed (.listPods ns (podSelector g.name)) s).2

def lookNow (ns : String) (g : NodeGroup) (s : Session σ) : Look (List Pod) where
  start := s.clock
  finish := (g.lookedAt ns s).clock
  answer := (Act.exchange .probed (.listPods ns (podSelector g.name)) s).1

theorem run_listPods (ns : String) (g : NodeGroup) (next : Except Fault (List Pod) → Activity)
    (s : Session σ) :
    (Activity.listPods ns g.name next).run.exec s =
      (next (g.lookNow ns s).answer).run.exec (g.lookedAt ns s) := by
  unfold Activity.listPods
  rw [Activity.run, Act.exec_bind]
  rfl

theorem history_lookedAt (ns : String) (g : NodeGroup) (s : Session σ) :
    (g.lookedAt ns s).history = s.history ++ [g.probe ns (g.lookNow ns s)] :=
  Session.history_note _ _

theorem le_clock_lookedAt (ns : String) (g : NodeGroup) (s : Session σ) :
    s.clock.nanos ≤ (g.lookedAt ns s).clock.nanos :=
  Nat.le_add_right _ _

end NodeGroup

/-- Checking groups always comes to a verdict, from looks that are made from then on. -/
theorem checkGroups_exec (ns : String) (epochs : Nat) (groups : List NodeGroup) (s : Session σ) :
    ∃ looks verdict s', (checkGroups ns epochs groups).run.exec s = (.ok verdict, s') ∧
      s'.history = s.history ++ groupProbes ns groups looks ∧
      (∀ l ∈ looks, s.clock.nanos ≤ l.start.nanos) ∧ Checked epochs groups looks verdict := by
  induction groups generalizing s with
  | nil =>
    exact ⟨[], .ok (), s, rfl, (List.append_nil _).symm, by simp, .all⟩
  | cons g rest ih =>
    have run : (checkGroups ns epochs (g :: rest)).run.exec s = _ := g.run_listPods ns _ s
    have only : ∀ l ∈ [g.lookNow ns s], s.clock.nanos ≤ l.start.nanos := by
      intro l member
      rw [List.mem_singleton.1 member]
      exact Nat.le_refl _
    have history : (g.lookedAt ns s).history =
        s.history ++ groupProbes ns (g :: rest) [g.lookNow ns s] := by
      rw [g.history_lookedAt, groupProbes, List.zipWith_cons_cons, List.zipWith_nil_right]
    cases seen : (g.lookNow ns s).answer with
    | error f =>
      rw [seen] at run
      exact ⟨_, _, _, run, history, only, .unseen seen⟩
    | ok pods =>
      rw [seen] at run
      dsimp only at run
      by_cases few : pods.countP (·.ready) < g.pods.length
      · rw [if_pos few] at run
        exact ⟨_, _, _, run, history, only, .short seen few⟩
      · rw [if_neg few] at run
        obtain ⟨looks, verdict, s', ended, more, after, checked⟩ := ih (g.lookedAt ns s)
        have found : g.FoundFull (g.lookNow ns s) := ⟨pods, seen, Nat.le_of_not_lt few⟩
        refine ⟨g.lookNow ns s :: looks, verdict, s', run.trans ended, ?_, ?_, .full found checked⟩
        · rw [more, g.history_lookedAt, List.append_assoc]
          rfl
        · intro l member
          rcases List.mem_cons.1 member with rfl | member
          · exact Nat.le_refl _
          · exact Nat.le_trans (g.le_clock_lookedAt ns s) (after l member)

end Runs

end ProvingGround
