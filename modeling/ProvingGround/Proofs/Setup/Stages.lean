import ProvingGround.Proofs.Setup.BringUp
import ProvingGround.Proofs.Setup.Causes

/-!
# The stages of setup

Setup goes from stage to stage. Up to each one the record and the trace have been through the same
phases, and nothing has been refused; a failure leaves the record where it stood and is decided by
the last deed.
-/

namespace ProvingGround

/-! ### Phases on the way -/

namespace Deed

def entry? : Deed → Option Phase
  | entered p => some p
  | _ => none

/-- The call concerns the namespace itself. -/
def isClaiming : Deed → Bool
  | asked .listNamespaces _ => true
  | asked (.createNamespace _) _ => true
  | _ => false

theorem entry?_of_asking {t : List Deed} {d : Deed} (h : AskingLaw t d) : d.entry? = none := by
  cases d with
  | asked => rfl
  | probed | entered | began => exact h.elim

end Deed

def phasesOf (t : List Deed) : List Phase := t.filterMap Deed.entry?

theorem phasesOf_append (t n : List Deed) : phasesOf (t ++ n) = phasesOf t ++ phasesOf n :=
  List.filterMap_append

theorem Lawful.phasesOf_eq_nil {t n : List Deed} (h : Lawful AskingLaw t n) : phasesOf n = [] := by
  rw [phasesOf, List.filterMap_eq_nil_iff]
  intro d hd
  obtain ⟨pre, law⟩ := h.mem hd
  exact Deed.entry?_of_asking law

namespace Phase

/-- What setup enters one after the other when it has begun. -/
def milestones : List Phase :=
  [loggingReady, poolScaled, bootstrapReady, clientsReady, genesisSynced]

/-- What setup has entered since it began when it stands in the phase. -/
def route (p : Phase) : List Phase := milestones.take (p.rank - provisioning.rank)

theorem isUnfinished_ground {p : Phase} (h : p.isUnfinished = true) :
    p.ground.isUnfinished = true := by
  revert h
  cases p <;> decide

theorem eq_of_ground {p q : Phase} (hp : p.isUnfinished = true) (hq : q.isUnfinished = true)
    (ground : p.ground = q.ground) (first : p = .provisioning ↔ q = .provisioning) : p = q := by
  revert hp hq ground first
  cases p <;> cases q <;> decide

end Phase

namespace Decides

variable {b : Blueprint} {st : Settings} {ns : String} {p q : Phase} {d : Deed} {f : Fault}

theorem isUnfinished (h : Decides b st ns p d f) : p.isUnfinished = true := by
  cases h <;> rfl

theorem provisioning_iff (h : Decides b st ns p d f) :
    p = .provisioning ↔ d.isClaiming = true := by
  cases h <;> simp [Deed.isClaiming]

/-- Where setup stands and what it did last tell on the way to which phase it has failed. -/
theorem phase_unique (hp : Decides b st ns p d f) (hq : Decides b st ns q d f)
    (ground : p.ground = q.ground) : p = q := by
  apply Phase.eq_of_ground hp.isUnfinished hq.isUnfinished ground
  rw [hp.provisioning_iff, hq.provisioning_iff]

end Decides

/-! ### Stages -/

/-- Setup of the run `l₀` began after the deeds `t₀` and stands in a phase. -/
structure Stage (l₀ : Lifecycle) (t₀ : List Deed) (p : Phase) (l : Lifecycle) (t : List Deed) :
    Prop where
  phase : l.phase = p
  history : l.history = l₀.history ++ p.route
  entries : phasesOf t = phasesOf t₀ ++ p.route
  settings : l.settings = l₀.settings
  blueprint : l.blueprint = l₀.blueprint
  target : l.targetNamespace = l₀.targetNamespace

/-- Setup of the run `l₀` has failed, and stands where it stood before. -/
structure Attributed (l₀ : Lifecycle) (t₀ : List Deed) (f : PhaseFailure) (l : Lifecycle)
    (t : List Deed) : Prop extends Stage l₀ t₀ f.phase.ground l t where
  blamed : Blamed l₀.blueprint l₀.settings l₀.targetNamespace f.phase f.fault t

section Stages

variable {σ α : Type} {l₀ l : Lifecycle} {t₀ t : List Deed} {p q : Phase} {E : List OneShot}

theorem Attributed.unfinished {f : PhaseFailure} (h : Attributed l₀ t₀ f l t) :
    l.phase.isUnfinished = true := by
  obtain ⟨-, d, -, decides⟩ := h.blamed.decided
  rw [h.phase]
  exact Phase.isUnfinished_ground decides.isUnfinished

theorem Stage.refl (l : Lifecycle) (t : List Deed) (h : l.phase = .provisioning) :
    Stage l t .provisioning l t where
  phase := h
  history := (List.append_nil _).symm
  entries := (List.append_nil _).symm
  settings := rfl
  blueprint := rfl
  target := rfl

theorem Stage.enter (h : Stage l₀ t₀ p l t) (next : q.route = p.route ++ [q]) :
    Stage l₀ t₀ q (l.enter q) (t ++ [.entered q]) where
  phase := rfl
  history := by rw [Lifecycle.history_enter, h.history, next, List.append_assoc]
  entries := by
    rw [phasesOf_append, h.entries, next, List.append_assoc]
    rfl
  settings := h.settings
  blueprint := h.blueprint
  target := h.target

theorem Stage.grow {n : List Deed} (h : Stage l₀ t₀ p l t) (lawful : Lawful AskingLaw t n) :
    Stage l₀ t₀ p l (t ++ n) where
  phase := h.phase
  history := h.history
  entries := by rw [phasesOf_append, lawful.phasesOf_eq_nil, List.append_nil, h.entries]
  settings := h.settings
  blueprint := h.blueprint
  target := h.target

theorem stage_task {a : Task σ α} {P : α → List Deed → Prop} (h : Stage l₀ t₀ q.ground l t)
    (ha : a.Settles AskingLaw t P
      (Blamed l₀.blueprint l₀.settings l₀.targetNamespace q)) :
    (Step.task q a).Obeys SparingLaw t l
      (fun v l' later => Stage l₀ t₀ q.ground l' later ∧ P v later) (Attributed l₀ t₀) := by
  have settled := (Act.Obeys.lawful ha).weaken sparingLaw_of_askingLaw
  apply Step.obeys_task settled
  · intro v n given
    obtain ⟨hP, m, hm, lawful⟩ := given
    rw [hm] at hP ⊢
    exact ⟨h.grow lawful, hP⟩
  · intro f n given
    obtain ⟨hD, m, hm, lawful⟩ := given
    rw [hm] at hD ⊢
    exact ⟨h.grow lawful, hD⟩

theorem stage_advance {e : Transition} {tr : Trigger} {F : PhaseFailure → Lifecycle → List Deed → Prop}
    (h : Stage l₀ t₀ p l t) (clear : Clear E t) (edge : Transition.find? p tr = some e)
    (next : e.target.route = p.route ++ [e.target]) :
    (Step.advance q tr : Step σ Unit).Obeys SparingLaw t l
      (fun _ l' later => later = t ++ [.entered e.target] ∧ Stage l₀ t₀ e.target l' later ∧
        Clear E later) F := by
  rw [← h.phase] at edge
  apply (Step.obeys_advance edge trivial).imp
  intro _ l' n entered
  obtain ⟨rfl, hn⟩ := entered
  rw [hn]
  have idle : ∀ d ∈ [Deed.entered e.target], d.oneShot? = none := by simp [Deed.oneShot?]
  exact ⟨rfl, h.enter next, clear.append idle⟩

/-! ### Parts -/

variable [Services σ]

theorem setupNamespace_stage (h : Stage l₀ t₀ .provisioning l t) (clear : Clear [] t) :
    (setupNamespace : Step σ String).Obeys SparingLaw t l
      (fun ns l' later => ns = l₀.targetNamespace ∧ Stage l₀ t₀ .provisioning l' later ∧
        Clear OneShot.claimed later) (Attributed l₀ t₀) := by
  apply Step.obeys_record_bind
  rw [h.target]
  apply (stage_task (q := .provisioning) h (claimNamespace_settles clear)).seq
  intro _ l' n claimed
  obtain ⟨stage, clear⟩ := claimed
  have update : (Step.update fun l => { l with ns := some l₀.targetNamespace } :
      Step σ Unit).Obeys SparingLaw (t ++ n) l'
      (fun _ l₂ later => Stage l₀ t₀ .provisioning l₂ later ∧ Clear OneShot.claimed later)
      (Attributed l₀ t₀) := Step.obeys_update ⟨{ stage with }, clear⟩
  apply update.seq
  intro _ l₂ m updated
  exact Step.obeys_pure ⟨rfl, updated⟩

theorem setupLogging_stage (h : Stage l₀ t₀ .provisioning l t)
    (clear : Clear OneShot.claimed t) :
    (setupLogging l₀.targetNamespace : Step σ Unit).Obeys SparingLaw t l
      (fun _ l' later => (∃ pre, later = pre ++ [.entered .loggingReady]) ∧
        Stage l₀ t₀ .loggingReady l' later ∧ Clear OneShot.logged later) (Attributed l₀ t₀) := by
  apply Step.obeys_record_bind
  rw [h.settings]
  apply (stage_task (q := .loggingReady) h (deployLogging_settles clear)).seq
  intro _ l' n deployed
  obtain ⟨stage, clear⟩ := deployed
  apply (stage_advance stage clear rfl rfl).imp
  intro _ l₂ m advanced
  obtain ⟨hm, stage, clear⟩ := advanced
  exact ⟨⟨_, hm⟩, stage, clear⟩

theorem setupPool_stage (h : Stage l₀ t₀ .loggingReady l t) (clear : Clear OneShot.logged t)
    (last : ∃ pre, t = pre ++ [.entered .loggingReady]) :
    (setupPool l₀.targetNamespace : Step σ ScaledPool).Obeys SparingLaw t l
      (fun _ l' later => (∃ pre, later = pre ++ [.entered .poolScaled]) ∧
        Stage l₀ t₀ .poolScaled l' later ∧ Clear OneShot.pooled later) (Attributed l₀ t₀) := by
  apply Step.obeys_record_bind
  rw [h.settings, h.blueprint]
  apply (stage_task (q := .poolScaled) h (scalePool_settles clear last)).seq
  intro pool l' n scaled
  obtain ⟨stage, clear⟩ := scaled
  apply (stage_advance stage clear rfl rfl).seq
  intro _ l₂ m advanced
  obtain ⟨hm, stage, clear⟩ := advanced
  exact Step.obeys_pure ⟨⟨_, hm⟩, stage, clear⟩

theorem setupBootstrap_stage {pool : ScaledPool} (h : Stage l₀ t₀ .poolScaled l t)
    (clear : Clear OneShot.pooled t) (last : ∃ pre, t = pre ++ [.entered .poolScaled]) :
    (setupBootstrap l₀.targetNamespace pool : Step σ (DeploymentPlan × NodeGroup)).Obeys
      SparingLaw t l
      (fun v l' later => v.1.ns = l₀.targetNamespace ∧ (∃ pod, v.2.firstPod = .ok pod) ∧
        Stage l₀ t₀ .bootstrapReady l' later ∧ Clear OneShot.bootstrapped later)
      (Attributed l₀ t₀) := by
  apply Step.obeys_record_bind
  rw [h.settings, h.blueprint]
  apply (stage_task (q := .bootstrapReady) h
    (startGenesis_settles clear (by decide) last)).seq
  intro schedule l' n begun
  obtain ⟨stage, hn⟩ := begun
  rw [hn] at stage ⊢
  have deploy : (DeploymentPlan.deployBootstrap
      ⟨l₀.targetNamespace, some pool.name, schedule, l₀.settings.waits.pollInterval⟩
      l₀.blueprint.bootstrap l₀.blueprint.readySpan : Task σ NodeGroup).Settles AskingLaw t
      (fun g later => Clear OneShot.bootstrapped later ∧ ∃ pod, g.firstPod = .ok pod)
      (Blamed l₀.blueprint l₀.settings l₀.targetNamespace .bootstrapReady) :=
    deployBootstrap_settles clear
  apply (stage_task (q := .bootstrapReady) stage deploy).seq
  intro group l₂ m deployed
  obtain ⟨stage, clear, pod, first⟩ := deployed
  apply (stage_advance stage clear rfl rfl).seq
  intro _ l₃ k advanced
  obtain ⟨-, stage, clear⟩ := advanced
  exact Step.obeys_pure ⟨rfl, ⟨pod, first⟩, stage, clear⟩

theorem setupClients_stage {plan : DeploymentPlan} {group : NodeGroup} {pod : Pod}
    (h : Stage l₀ t₀ .bootstrapReady l t) (clear : Clear OneShot.bootstrapped t)
    (ns : plan.ns = l₀.targetNamespace) (first : group.firstPod = .ok pod) :
    (setupClients plan group : Step σ Network).Obeys SparingLaw t l
      (fun _ l' later => Stage l₀ t₀ .clientsReady l' later ∧ Clear OneShot.deployed later)
      (Attributed l₀ t₀) := by
  apply Step.obeys_record_bind
  rw [h.blueprint]
  have config : (Task.ofConfig group.firstPod : Task σ Pod).Settles AskingLaw t
      (fun _ later => later = t)
      (Blamed l₀.blueprint l₀.settings l₀.targetNamespace .clientsReady) := by
    rw [first]
    exact Task.settles_pure rfl
  apply (stage_task (q := .clientsReady) h config).seq
  intro v l' n found
  obtain ⟨stage, hn⟩ := found
  rw [hn] at stage ⊢
  have finish : ∀ (network : Network) (t' : List Deed) (l' : Lifecycle),
      Stage l₀ t₀ .bootstrapReady l' t' → Clear OneShot.deployed t' →
      (do
        Step.advance .clientsReady .clientsDeployed
        pure network : Step σ Network).Obeys SparingLaw t' l'
        (fun _ l' later => Stage l₀ t₀ .clientsReady l' later ∧ Clear OneShot.deployed later)
        (Attributed l₀ t₀) := by
    intro network t' l' stage clear
    apply (stage_advance stage clear rfl rfl).seq
    intro _ l₃ k advanced
    obtain ⟨-, advanced⟩ := advanced
    exact Step.obeys_pure advanced
  have clients : (plan.deployClients clientGroup l₀.blueprint.client v l₀.blueprint.readySpan :
      Task σ NodeGroup).Settles AskingLaw t
      (fun _ later => Clear (OneShot.bootstrapped ++ [.ofObject .deployment clientGroup]) later)
      (Blamed l₀.blueprint l₀.settings l₀.targetNamespace .clientsReady) := by
    rw [← ns]
    exact deployClients_settles List.mem_cons_self clear (by decide) (by decide)
  apply (stage_task (q := .clientsReady) stage clients).seq
  intro group₁ l₂ m deployed
  obtain ⟨stage, clear⟩ := deployed
  cases hv : l₀.blueprint.clientv2 with
  | none =>
    simp only [pure_bind]
    exact finish _ _ _ stage (clear.mono (by decide))
  | some v2 =>
    have listed : (secondClientGroup, v2.node) ∈ l₀.blueprint.clientGroups := by
      simp [Blueprint.clientGroups, hv]
    have last : OneShot.deployed = OneShot.bootstrapped ++ [.ofObject .deployment clientGroup] ++
        [.ofObject .deployment secondClientGroup] := rfl
    have second : (plan.deployClients secondClientGroup v2.node v l₀.blueprint.readySpan :
        Task σ NodeGroup).Settles AskingLaw (t ++ m) (fun _ later => Clear OneShot.deployed later)
        (Blamed l₀.blueprint l₀.settings l₀.targetNamespace .clientsReady) := by
      rw [← ns, last]
      exact deployClients_settles listed clear (by decide) (by decide)
    simp only [pure_bind]
    apply (stage_task (q := .clientsReady) stage second).seq
    intro group₂ l₃ k deployed
    obtain ⟨stage, clear⟩ := deployed
    exact finish _ _ _ stage clear

omit [Services σ] in
theorem setupGenesis_stage {schedule : GenesisSchedule} (h : Stage l₀ t₀ .clientsReady l t)
    (clear : Clear OneShot.deployed t) :
    (setupGenesis schedule : Step σ Unit).Obeys SparingLaw t l
      (fun _ l' later => Stage l₀ t₀ .genesisSynced l' later ∧ Clear OneShot.deployed later)
      (Attributed l₀ t₀) := by
  have wait : (Step.lift (Operation.act schedule.await) : Step σ Duration).Obeys SparingLaw t l
      (fun _ l' later => l' = l ∧ later = t) (Attributed l₀ t₀) :=
    Step.obeys_lift (Operation.obeys_act (Act.obeys_of_silent schedule.await_silent))
  apply wait.seq
  intro _ l' n same
  obtain ⟨rfl, hn⟩ := same
  rw [hn]
  apply (stage_advance h clear rfl rfl).imp
  intro _ _ _ advanced
  exact advanced.2

theorem bringUp_stage (h : Stage l₀ t₀ .provisioning l t) (clear : Clear [] t) :
    (bringUp : Step σ Environment).Obeys SparingLaw t l
      (fun _ l' later => Stage l₀ t₀ .genesisSynced l' later ∧ Clear OneShot.deployed later)
      (Attributed l₀ t₀) := by
  apply (setupNamespace_stage h clear).seq
  intro ns l₁ _ claimed
  obtain ⟨rfl, stage₁, clear₁⟩ := claimed
  apply (setupLogging_stage stage₁ clear₁).seq
  intro _ l₂ _ logged
  obtain ⟨last₂, stage₂, clear₂⟩ := logged
  apply (setupPool_stage stage₂ clear₂ last₂).seq
  intro pool l₃ _ pooled
  obtain ⟨last₃, stage₃, clear₃⟩ := pooled
  apply (setupBootstrap_stage stage₃ clear₃ last₃).seq
  intro v l₄ _ bootstrapped
  obtain ⟨own, ⟨pod, first⟩, stage₄, clear₄⟩ := bootstrapped
  apply (setupClients_stage stage₄ clear₄ own first).seq
  intro network l₅ _ deployed
  obtain ⟨stage₅, clear₅⟩ := deployed
  apply (setupGenesis_stage stage₅ clear₅).seq
  intro _ l₆ _ synced
  apply Step.obeys_record_bind
  exact Step.obeys_pure synced

end Stages

end ProvingGround
