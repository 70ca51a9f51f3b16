import Mathlib.Data.List.Perm.Subperm
import ProvingGround.Proofs.Liveness.Wait

/-!
# What liveness vouches for

The scenario passes when after its wait each group has as many ready pods as it was handed over with.
It does not ask which pods these are, so a pod that was lost may be made up for by another one: at
least as many others are ready as were lost. Where no others are ready, each pod of the network still
is.
-/

namespace ProvingGround

/-! ### Lost pods and strangers -/

namespace NodeGroup

variable {g : NodeGroup} {pods : List Pod}

/-- The pod appears in the list as ready, under its name. -/
def AppearsReady (pods : List Pod) (p : Pod) : Prop := ∃ q ∈ pods, q.name = p.name ∧ q.ready = true

instance (pods : List Pod) (p : Pod) : Decidable (AppearsReady pods p) :=
  inferInstanceAs (Decidable (∃ q ∈ pods, q.name = p.name ∧ q.ready = true))

/-- The pods of the group that do not appear as ready any more. -/
def lost (g : NodeGroup) (pods : List Pod) : List Pod :=
  g.pods.filter fun p => !decide (AppearsReady pods p)

/-- The pods that are ready under names that the group was not handed over with. -/
def strangers (g : NodeGroup) (pods : List Pod) : List Pod :=
  (pods.filter (·.ready)).filter fun q => !decide (q.name ∈ g.pods.map (·.name))

/-- What a list of pods says of the group when as many are ready as it was handed over with: pods of
different names are ready for those that were lost, and without strangers none was lost. -/
structure Vouched (g : NodeGroup) (pods : List Pod) : Prop where
  full : g.pods.length ≤ pods.countP (·.ready)
  replaced : (pods.map (·.name)).Nodup → (g.lost pods).length ≤ (g.strangers pods).length
  present : (pods.map (·.name)).Nodup → g.strangers pods = [] → ∀ p ∈ g.pods, AppearsReady pods p

/-- The pods that are ready under names of the group. -/
def kept (g : NodeGroup) (pods : List Pod) : List Pod :=
  (pods.filter (·.ready)).filter fun q => q.name ∈ g.pods.map (·.name)

theorem length_kept_add_length_strangers (g : NodeGroup) (pods : List Pod) :
    (g.kept pods).length + (g.strangers pods).length = pods.countP (·.ready) := by
  rw [List.countP_eq_length_filter]
  exact (List.length_eq_length_filter_add _).symm

theorem length_kept_add_length_lost_le (distinct : (pods.map (·.name)).Nodup) :
    (g.kept pods).length + (g.lost pods).length ≤ g.pods.length := by
  have split_ := List.length_eq_length_filter_add (l := g.pods)
    (fun p => decide (AppearsReady pods p))
  have names : ((g.kept pods).map (·.name)).Nodup :=
    distinct.sublist ((List.filter_sublist.trans List.filter_sublist).map _)
  have members : (g.kept pods).map (·.name) ⊆
      (g.pods.filter fun p => decide (AppearsReady pods p)).map (·.name) := by
    intro name member
    obtain ⟨q, keeps, rfl⟩ := List.mem_map.1 member
    obtain ⟨listed, named⟩ := List.mem_filter.1 keeps
    obtain ⟨listed, ready⟩ := List.mem_filter.1 listed
    obtain ⟨p, own, same⟩ := List.mem_map.1 (of_decide_eq_true named)
    have appears : AppearsReady pods p := ⟨q, listed, same.symm, ready⟩
    exact List.mem_map.2 ⟨p, List.mem_filter.2 ⟨own, decide_eq_true appears⟩, same⟩
  have fewer := (List.subperm_of_subset names members).length_le
  simp only [List.length_map] at fewer
  unfold lost
  omega

theorem vouched_iff : g.Vouched pods ↔ g.pods.length ≤ pods.countP (·.ready) := by
  refine ⟨Vouched.full, fun full => ?_⟩
  have ready := length_kept_add_length_strangers g pods
  have replaced : (pods.map (·.name)).Nodup →
      (g.lost pods).length ≤ (g.strangers pods).length := by
    intro distinct
    have own := length_kept_add_length_lost_le (g := g) distinct
    omega
  refine ⟨full, replaced, fun distinct none p own => ?_⟩
  have nothing : g.lost pods = [] := by
    have fewest := replaced distinct
    rw [none] at fewest
    exact List.length_eq_zero_iff.1 (Nat.le_zero.1 fewest)
  by_contra absent
  exact List.filter_eq_nil_iff.1 nothing p own (by simpa using absent)

/-- A look at the group was answered with such a list. -/
def VouchedBy (g : NodeGroup) (l : Look (List Pod)) : Prop :=
  ∃ pods, l.answer = .ok pods ∧ g.Vouched pods

theorem vouchedBy_eq_foundFull : VouchedBy = FoundFull := by
  funext g l
  simp only [VouchedBy, FoundFull, vouched_iff]

end NodeGroup

/-! ### Passing -/

/-- Of looks at the groups of a network, something is left. -/
theorem groupProbes_ne_nil {R : NodeGroup → Look (List Pod) → Prop} {n : Network}
    {looks : List (Look (List Pod))} (all : List.Forall₂ R n.groups looks) (ns : String) :
    groupProbes ns n.groups looks ≠ [] := by
  cases looks with
  | nil => cases all
  | cons l looks => exact List.cons_ne_nil _ _

/-- The scenario passes just when after its wait one look at each group of the network has vouched
for it. -/
theorem networkLiveness_vouches {σ : Type} [Services σ] (epochs : Nat) (env : Environment)
    (s : Session σ) :
    let outcome := ((networkLiveness epochs).body env).run.exec s
    outcome.1 = .ok (.ok ()) ↔
      ∃ layers seconds looks, env.blueprint.client.Counts layers seconds ∧
        outcome.2.history = s.history ++ groupProbes env.ns env.network.groups looks ∧
        (∀ l ∈ looks, s.clock.nanos + epochsNanos layers seconds epochs ≤ l.start.nanos) ∧
        List.Forall₂ NodeGroup.VouchedBy env.network.groups looks := by
  intro outcome
  have ends : LivenessEnds epochs env s outcome := run_livenessBody_ends epochs env s
  clear_value outcome
  have unseen : ∀ looks, s.history = s.history ++ groupProbes env.ns env.network.groups looks →
      ¬ List.Forall₂ NodeGroup.VouchedBy env.network.groups looks := by
    intro looks still all
    exact groupProbes_ne_nil all env.ns (List.self_eq_append_right.1 still)
  cases ends with
  | misread wrong _ =>
    exact ⟨nofun, fun ⟨_, _, looks, _, still, _, all⟩ => (unseen looks still all).elim⟩
  | beyond counts far =>
    exact ⟨nofun, fun ⟨_, _, looks, _, still, _, all⟩ => (unseen looks still all).elim⟩
  | @waited layers seconds clock verdict s' counts near reached onTime ended =>
    obtain ⟨looks, verdict', later, again, history, after, checked⟩ :=
      checkGroups_exec env.ns epochs env.network.groups { s with clock }
    rw [ended] at again
    cases again
    rw [NodeGroup.vouchedBy_eq_foundFull]
    constructor
    · intro passed
      cases passed
      exact ⟨layers, seconds, looks, counts, history,
        fun l member => Nat.le_trans reached (after l member), checked.passed_iff.1 rfl⟩
    · rintro ⟨_, _, looks', _, history', _, all⟩
      have seen := List.append_cancel_left (history.symm.trans history')
      rw [← groupProbes_injective checked.length_le all.length_eq.ge seen] at all
      exact congrArg Except.ok (checked.passed_iff.2 all)

/-! ### Pods that were replaced -/

/-- A willing world in which pods are listed some times as they are, and from then on as no longer
ready, with another one in their place. -/
structure Replacing where
  lists : Nat

instance : Services Replacing where
  respond w now c :=
    match c, w.lists with
    | .listPods .., 0 =>
      (⟨.zero, .ok [⟨"pod", "10.0.0.1", false⟩, ⟨"another", "10.0.0.2", true⟩]⟩, w)
    | .listPods .., n + 1 => (⟨.zero, .ok [⟨"pod", "10.0.0.1", true⟩]⟩, ⟨n⟩)
    | c, _ => ((Services.respond Biased.willing now c).1, w)

def Replacing.session (w : Replacing) : Session Replacing := ⟨w, .zero, fun _ => ⟨0⟩, 1, []⟩

/-- A network whose epochs take a second. -/
def Blueprint.brief : Blueprint :=
  { Blueprint.least with
    client :=
      { image := "node"
        args := .ofList [(layersPerEpochArg, .int 1), (layerDurationArg, .int 1)] } }

/-- The pods that a scenario was told. -/
def Deed.probedPods : Deed → List Pod
  | .probed (.listPods ..) (.ok pods) => pods
  | _ => []

/-- The suite is a success although no pod of the network that it was begun on is still ready. -/
theorem liveness_passes_replaced :
    ∃ report l s, (runSuite (.liveness 1)).exec (.create .brief default (.ofNat 0) ⟨0⟩)
        (Replacing.session ⟨2⟩) = (.ok (.ok report, l), s) ∧
      report.success = true ∧ report.scenarios.map (·.outcome) = [.passed] ∧
      ∃ env, ("network_liveness", env) ∈ s.deeds.filterMap Deed.begun? ∧
        env.network.pods.length = 2 ∧
        ∀ p ∈ env.network.pods, ¬ NodeGroup.AppearsReady (s.deeds.flatMap Deed.probedPods) p := by
  have outcome : ((runSuite (.liveness 1)).exec (.create .brief default (.ofNat 0) ⟨0⟩)
        (Replacing.session ⟨2⟩)).1.toOption.bind (fun r => r.1.toOption.map fun report =>
          (report.success, report.scenarios.map (·.outcome))) = some (true, [.passed]) ∧
      (((runSuite (.liveness 1)).exec (.create .brief default (.ofNat 0) ⟨0⟩)
        (Replacing.session ⟨2⟩)).2.deeds.filterMap Deed.begun?).any (fun begun =>
          begun.1 = "network_liveness" ∧ begun.2.network.pods.length = 2 ∧
            ∀ p ∈ begun.2.network.pods, ¬ NodeGroup.AppearsReady
              (((runSuite (.liveness 1)).exec (.create .brief default (.ofNat 0) ⟨0⟩)
                (Replacing.session ⟨2⟩)).2.deeds.flatMap Deed.probedPods) p) = true := by
    decide +kernel
  rcases ended : (runSuite (.liveness 1)).exec (.create .brief default (.ofNat 0) ⟨0⟩)
    (Replacing.session ⟨2⟩) with ⟨_ | ⟨_ | report, l⟩, s⟩ <;> rw [ended] at outcome <;>
    obtain ⟨passed, begun⟩ := outcome
  · cases passed
  · cases passed
  · obtain ⟨success, outcomes⟩ := Prod.mk.inj (Option.some.inj passed)
    obtain ⟨⟨name, env⟩, member, stated⟩ := List.any_eq_true.1 begun
    obtain ⟨rfl, two, none⟩ := of_decide_eq_true stated
    exact ⟨report, l, s, rfl, success, outcomes, env, member, two, none⟩

end ProvingGround
