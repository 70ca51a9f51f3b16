import ProvingGround.Proofs.Lifecycle.Exec
import ProvingGround.Proofs.Lifecycle.Standing
import ProvingGround.Proofs.Setup.Tasks
import ProvingGround.Proofs.Trace.Step

/-!
# Setup obeys its law

The parts of setup in order. In between, the record stands as the trace says, in the phase that the
last part has reached; so it does when a part fails.
-/

namespace ProvingGround

variable {σ : Type}

/-! ### Underway -/

/-- Setup of the run `l₀` has come to a phase, with or without a namespace. -/
structure Underway (l₀ : Lifecycle) (p : Phase) (ns : Option String) (l : Lifecycle)
    (t : List Deed) : Prop extends Reaches l₀ p l t where
  ns_eq : l.ns = ns
  blueprint : l.blueprint = l₀.blueprint

/-- The phases in which setup can fail. -/
def Phase.isUnfinished (p : Phase) : Bool :=
  p matches provisioning | loggingReady | poolScaled | bootstrapReady | clientsReady

theorem Phase.setupFailed_leads (p : Phase) (h : p.isUnfinished = true) :
    (Transition.find? p .setupFailed).map (·.target) = some .reporting := by
  revert h
  cases p <;> decide

def Aborted (l₀ : Lifecycle) (l : Lifecycle) (t : List Deed) : Prop :=
  ∃ p ns, p.isUnfinished = true ∧ Underway l₀ p ns l t

abbrev Lifecycle.law (l₀ : Lifecycle) : List Deed → Deed → Prop :=
  SetupLaw l₀.blueprint l₀.settings.store

section Parts

variable {l₀ l : Lifecycle} {t : List Deed} {p : Phase} {ns : String}

theorem Underway.claimed (h : Underway l₀ p (some ns) l t) : Claimed ns t :=
  (h.standing.owned ns).1 h.ns_eq

theorem Underway.grow {n : List Deed} (h : Underway l₀ p (some ns) l t)
    (unfinished : p.isUnfinished = true) (lawful : Lawful l₀.law t n) :
    Underway l₀ p (some ns) l (t ++ n) := by
  have started : p ≠ .notStarted := by
    intro hp
    rw [hp] at unfinished
    cases unfinished
  have worked : p ≠ .skipped := by
    intro hp
    rw [hp] at unfinished
    cases unfinished
  have quiet := quiet_of_setupLaw lawful h.claimed
  exact { h with toReaches := h.toReaches.grow started worked quiet }

theorem advance_obeys {q : Option String} {e : Transition} {tr : Trigger} {at_ : Phase}
    (h : Underway l₀ p q l t) (edge : Transition.find? p tr = some e) (open_ : e.target ≠ .done) :
    (Step.advance at_ tr : Step σ Unit).Obeys l₀.law t l
      (fun _ l' later => Underway l₀ e.target q l' later ∧ later = t ++ [.entered e.target])
      fun _ => Aborted l₀ := by
  have edge' : Transition.find? l.phase tr = some e := by
    rw [h.phase]
    exact edge
  have entered : l₀.law t (.entered e.target) := trivial
  apply (Step.obeys_advance edge' entered).imp
  intro _ l' n hl
  obtain ⟨rfl, hn⟩ := hl
  rw [hn]
  exact ⟨⟨h.toReaches.enter edge open_, h.ns_eq, h.blueprint⟩, rfl⟩

theorem task_obeys {α : Type} {a : Task σ α} {P : α → List Deed → Prop} {at_ : Phase}
    (h : Underway l₀ p (some ns) l t) (unfinished : p.isUnfinished = true)
    (ha : a.Obeys l₀.law t P) :
    (Step.task at_ a).Obeys l₀.law t l
      (fun v l' later => Underway l₀ p (some ns) l' later ∧ P v later)
      fun _ => Aborted l₀ := by
  apply Step.obeys_task (Act.Obeys.lawful ha)
  · intro v n hv
    obtain ⟨hP, m, hm, lawful⟩ := hv
    rw [hm] at hP ⊢
    exact ⟨h.grow unfinished lawful, hP v rfl⟩
  · intro f n hf
    obtain ⟨-, m, hm, lawful⟩ := hf
    rw [hm]
    exact ⟨p, some ns, unfinished, h.grow unfinished lawful⟩

theorem startGenesis_obeys {law : List Deed → Deed → Prop} (delta : Duration) :
    (GenesisSchedule.start delta : Task σ GenesisSchedule).Obeys law t fun _ _ => True := by
  apply Task.Obeys.after_silent (Task.traces_clock.mono fun _ _ h => h.2)
  intro clock
  have today : (Act.today : Act σ Timestamp).Obeys law t fun _ _ => True :=
    Act.traces_today fun _ => ⟨trivial, fun _ _ => trivial⟩
  apply (Task.obeys_lift today).bind
  intro now n _
  apply Task.obeys_of_traces (R := fun _ n => n = [])
  · exact Task.traces_ofConfig (fun _ _ => rfl) fun _ _ => rfl
  · intro _ n hn
    rw [hn]
    trivial
  · intro _ _ _
    trivial

theorem GenesisSchedule.await_silent (schedule : GenesisSchedule) :
    (schedule.await : Act σ Duration).Traces fun _ n => n = [] := by
  have clock : (Act.clock : Act σ Duration).Traces fun _ n => n = [] :=
    Act.traces_clock fun _ => rfl
  have sleep : ∀ d, (Act.sleep d : Act σ Unit).Traces fun _ n => n = [] :=
    fun _ => Act.traces_sleep rfl
  apply clock.bind
  · intro now n hn
    rw [hn]
    unfold awaitGenesis
    dsimp only
    split
    · exact Act.traces_pure rfl
    · apply (sleep _).bind
      · intro _ m hm
        rw [hm]
        exact Act.traces_pure rfl
      · intro _ m hm
        exact hm
  · intro _ n hn
    exact hn

theorem setupGenesis_obeys {schedule : GenesisSchedule}
    (h : Underway l₀ .clientsReady (some ns) l t) :
    (setupGenesis schedule : Step σ Unit).Obeys l₀.law t l
      (fun _ l' later => Underway l₀ .genesisSynced (some ns) l' later)
      fun _ => Aborted l₀ := by
  have wait : (Step.lift (Operation.act schedule.await) : Step σ Duration).Obeys l₀.law t l
      (fun _ l' later => l' = l ∧ later = t) fun _ => Aborted l₀ :=
    Step.obeys_lift (Operation.obeys_act (Act.obeys_of_silent schedule.await_silent))
  apply wait.seq
  intro _ l' n same
  obtain ⟨rfl, hn⟩ := same
  rw [hn]
  exact (advance_obeys h rfl (by decide)).imp fun _ _ _ h => h.1

/-! ### Parts -/

variable [Services σ]

theorem setupNamespace_obeys (h : Underway l₀ .provisioning none l t)
    (fresh : ∀ ns x, .asked (.createNamespace ns) x ∉ t) :
    (setupNamespace : Step σ String).Obeys l₀.law t l
      (fun ns l' later => Underway l₀ .provisioning (some ns) l' later)
      fun _ => Aborted l₀ := by
  have started : l.phase ≠ .notStarted := by
    rw [h.phase]
    decide
  have worked : l.phase ≠ .skipped := by
    rw [h.phase]
    decide
  have claim : (claimNamespace l.targetNamespace : Task σ Unit).attempt.Obeys l₀.law t
      fun r later => ∀ m, Claimed m later ↔ r = .ok () ∧ m = l.targetNamespace :=
    claimNamespace_obeys l.targetNamespace fresh
  have task : (Step.task .provisioning (claimNamespace l.targetNamespace) : Step σ Unit).Obeys
      l₀.law t l
      (fun _ l' later => l' = l ∧
        Underway l₀ .provisioning (some l.targetNamespace)
          { l with ns := some l.targetNamespace } later)
      fun _ => Aborted l₀ := by
    apply Step.obeys_task claim.lawful
    · intro v n hv
      obtain ⟨owned, m, hm, lawful⟩ := hv
      have own : ∀ ns, some l.targetNamespace = some ns ↔ Claimed ns (t ++ m) := by
        intro ns
        rw [← hm, owned ns, Option.some.injEq]
        constructor
        · intro hns
          exact ⟨rfl, hns.symm⟩
        · intro hns
          exact hns.2.symm
      have stands := h.standing.claim (some l.targetNamespace) started worked
        (countP_isSubmit_of_setupLaw lawful) own
      rw [hm]
      exact ⟨rfl, ⟨stands, h.phase, h.settings, h.runId⟩, rfl, h.blueprint⟩
    · intro f n hf
      obtain ⟨owned, m, hm, lawful⟩ := hf
      have own : ∀ ns, l.ns = some ns ↔ Claimed ns (t ++ m) := by
        intro ns
        rw [← hm, owned ns, h.ns_eq]
        constructor
        · intro hns
          cases hns
        · intro hns
          cases hns.1
      have stands := h.standing.claim l.ns started worked (countP_isSubmit_of_setupLaw lawful) own
      rw [hm]
      exact ⟨_, none, rfl, { h with standing := stands }⟩
  apply Step.obeys_record_bind
  apply task.seq
  intro _ l' n hl
  obtain ⟨rfl, under⟩ := hl
  have update : (Step.update fun l => { l with ns := some l'.targetNamespace } : Step σ Unit).Obeys
      l₀.law (t ++ n) l'
      (fun _ l₂ later => Underway l₀ .provisioning (some l'.targetNamespace) l₂ later)
      fun _ => Aborted l₀ := Step.obeys_update under
  apply update.seq
  intro _ l₂ m under'
  exact Step.obeys_pure under'

theorem setupLogging_obeys (h : Underway l₀ .provisioning (some ns) l t) :
    (setupLogging ns : Step σ Unit).Obeys l₀.law t l
      (fun _ l' later => Underway l₀ .loggingReady (some ns) l' later ∧ LoggingServed ns later)
      fun _ => Aborted l₀ := by
  apply Step.obeys_record_bind
  rw [h.settings]
  apply (task_obeys h rfl (deployLogging_obeys h.claimed)).seq
  intro _ l' n deployed
  obtain ⟨under, served⟩ := deployed
  apply (advance_obeys under rfl (by decide)).imp
  intro _ l₂ m advanced
  obtain ⟨under', hm⟩ := advanced
  rw [hm] at under' ⊢
  exact ⟨under', served.grow⟩

theorem setupPool_obeys (h : Underway l₀ .loggingReady (some ns) l t)
    (served : LoggingServed ns t) :
    (setupPool ns : Step σ ScaledPool).Obeys l₀.law t l
      (fun pool l' later => Underway l₀ .poolScaled (some ns) l' later ∧
        ∃ r, pool.name = r.name ∧ r.name = poolName ns ∧ PoolUsable ns r later)
      fun _ => Aborted l₀ := by
  apply Step.obeys_record_bind
  apply (task_obeys h rfl (scalePool_obeys h.claimed served)).seq
  intro pool l' n scaled
  obtain ⟨under, r, named, own, usable⟩ := scaled
  apply (advance_obeys under rfl (by decide)).seq
  intro _ l₂ m advanced
  obtain ⟨under', hm⟩ := advanced
  apply Step.obeys_pure
  refine ⟨under', r, named, own, ?_⟩
  rw [hm]
  exact usable.grow

theorem setupBootstrap_obeys {pool : ScaledPool} {r : PoolRequest}
    (h : Underway l₀ .poolScaled (some ns) l t) (named : pool.name = r.name)
    (own : r.name = poolName ns) (usable : PoolUsable ns r t) :
    (setupBootstrap ns pool : Step σ (DeploymentPlan × NodeGroup)).Obeys l₀.law t l
      (fun v l' later => Underway l₀ .bootstrapReady (some ns) l' later ∧ v.1.ns = ns ∧
        v.1.pool = some (poolName ns) ∧
        ∃ pod, v.2.firstPod = .ok pod ∧ TimingStarted ns pod later)
      fun _ => Aborted l₀ := by
  apply Step.obeys_record_bind
  apply (task_obeys h rfl (startGenesis_obeys _)).seq
  intro schedule l' n begun
  obtain ⟨under, -⟩ := begun
  have pinned : some pool.name = some r.name := by rw [named]
  have replicas : l.blueprint.bootstrap.replicas = l₀.blueprint.bootstrap.replicas := by
    rw [h.blueprint]
  have deploy : (DeploymentPlan.deployBootstrap
      ⟨ns, some pool.name, schedule, l.settings.waits.pollInterval⟩ l.blueprint.bootstrap
      l.blueprint.readySpan : Task σ NodeGroup).Obeys l₀.law (t ++ n) fun g later =>
        ∃ pod, g.firstPod = .ok pod ∧ TimingStarted ns pod later :=
    deployBootstrap_obeys under.claimed pinned own usable.grow replicas
  apply (task_obeys under rfl deploy).seq
  intro group l₂ m deployed
  obtain ⟨under', pod, first, started⟩ := deployed
  apply (advance_obeys under' rfl (by decide)).seq
  intro _ l₃ k advanced
  obtain ⟨under₃, hk⟩ := advanced
  apply Step.obeys_pure
  have scheduled : some pool.name = some (poolName ns) := by rw [named, own]
  refine ⟨under₃, rfl, scheduled, pod, first, ?_⟩
  rw [hk]
  exact started.grow

theorem setupClients_obeys {plan : DeploymentPlan} {group : NodeGroup} {pod : Pod}
    (h : Underway l₀ .bootstrapReady (some plan.ns) l t)
    (pool : plan.pool = some (poolName plan.ns)) (first : group.firstPod = .ok pod)
    (started : TimingStarted plan.ns pod t) :
    (setupClients plan group : Step σ Network).Obeys l₀.law t l
      (fun _ l' later => Underway l₀ .clientsReady (some plan.ns) l' later)
      fun _ => Aborted l₀ := by
  apply Step.obeys_record_bind
  have config : (Task.ofConfig group.firstPod : Task σ Pod).Obeys l₀.law t
      fun v later => v = pod ∧ later = t := by
    rw [first]
    exact Task.obeys_pure ⟨rfl, rfl⟩
  apply (task_obeys h rfl config).seq
  intro v l' n found
  obtain ⟨under, hv, hn⟩ := found
  rw [hn] at under ⊢
  rw [hv]
  have clients : (plan.deployClients clientGroup l.blueprint.client pod l.blueprint.readySpan :
      Task σ NodeGroup).Obeys l₀.law t fun g later =>
        GroupUp plan.ns clientGroup l.blueprint.client.replicas g.pods later :=
    deployClients_obeys under.claimed (.client rfl pool started)
  apply (task_obeys under rfl clients).seq
  intro clients l₂ m deployed
  obtain ⟨under₂, up⟩ := deployed
  rw [h.blueprint] at up
  have finish : ∀ (network : Network) (t' : List Deed) (l' : Lifecycle),
      Underway l₀ .bootstrapReady (some plan.ns) l' t' →
      (do
        Step.advance .clientsReady .clientsDeployed
        pure network : Step σ Network).Obeys l₀.law t' l'
        (fun _ l' later => Underway l₀ .clientsReady (some plan.ns) l' later)
        fun _ => Aborted l₀ := by
    intro network t' l' under'
    apply (advance_obeys under' rfl (by decide)).seq
    intro _ l₃ k advanced
    exact Step.obeys_pure advanced.1
  cases hv : l.blueprint.clientv2 with
  | none =>
    simp only [pure_bind]
    exact finish _ _ _ under₂
  | some v2 =>
    have second : (plan.deployClients secondClientGroup v2.node pod l.blueprint.readySpan :
        Task σ NodeGroup).Obeys l₀.law (t ++ m) fun g later =>
          GroupUp plan.ns secondClientGroup v2.node.replicas g.pods later :=
      deployClients_obeys under₂.claimed (.second rfl pool up)
    simp only [pure_bind]
    apply (task_obeys under₂ rfl second).seq
    intro group₂ l₃ k deployed
    exact finish _ _ _ deployed.1

theorem bringUp_obeys (h : Underway l₀ .provisioning none l t)
    (fresh : ∀ ns x, .asked (.createNamespace ns) x ∉ t) :
    (bringUp : Step σ Environment).Obeys l₀.law t l
      (fun env l' later => Underway l₀ .genesisSynced (some env.ns) l' later)
      fun _ => Aborted l₀ := by
  apply (setupNamespace_obeys h fresh).seq
  intro ns l₁ _ under₁
  apply (setupLogging_obeys under₁).seq
  intro _ l₂ _ logging
  obtain ⟨under₂, served⟩ := logging
  apply (setupPool_obeys under₂ served).seq
  intro pool l₃ _ scaled
  obtain ⟨under₃, r, named, own, usable⟩ := scaled
  apply (setupBootstrap_obeys under₃ named own usable).seq
  intro v l₄ _ deployed
  obtain ⟨under₄, rfl, pinned, pod, first, started⟩ := deployed
  apply (setupClients_obeys under₄ pinned first started).seq
  intro network l₅ _ under₅
  apply (setupGenesis_obeys under₅).seq
  intro _ l₆ _ under₆
  apply Step.obeys_record_bind
  exact Step.obeys_pure under₆

end Parts

/-! ### Setup -/

/-- How setup of the run `l₀` can end, after the deeds `t₀`. -/
inductive SetupEnds (l₀ : Lifecycle) (t₀ : List Deed) :
    Bool → Except PhaseFailure SetupResult → Lifecycle → List Deed → Prop where
  | ready {env l t} (reached : Reaches l₀ .genesisSynced l t) (own : l.ns = some env.ns) :
    SetupEnds l₀ t₀ false (.ok (.ready env)) l t
  | skipped {l t} (reached : Reaches l₀ .skipped l t) : SetupEnds l₀ t₀ true (.ok .skipped) l t
  | failed {f l t} (reached : Reaches l₀ .reporting l t) (lenient : l₀.settings.debug = false) :
    SetupEnds l₀ t₀ false (.ok (.failed f)) l t
  | aborted {f p l t} (unfinished : p.isUnfinished = true) (reached : Reaches l₀ p l t)
    (debug : l₀.settings.debug = true) : SetupEnds l₀ t₀ false (.error f) l t
  | refused {skip f} (started : l₀.phase ≠ .notStarted) : SetupEnds l₀ t₀ skip (.error f) l₀ t₀

theorem SetupEnds.reaches {l₀ l : Lifecycle} {t₀ t : List Deed} {skip : Bool}
    {x : Except PhaseFailure SetupResult} (h : Standing l₀ t₀) (ends : SetupEnds l₀ t₀ skip x l t) :
    ∃ p, Reaches l₀ p l t := by
  cases ends with
  | ready reached | skipped reached | failed reached | aborted _ reached => exact ⟨_, reached⟩
  | refused => exact ⟨_, .refl h⟩

section Setup

variable {l₀ l : Lifecycle} {t₀ t : List Deed} {p : Phase} {law : List Deed → Deed → Prop}

theorem settleFailure_obeys {f : PhaseFailure} {P : SetupResult → Lifecycle → List Deed → Prop}
    {F : PhaseFailure → Lifecycle → List Deed → Prop} (unfinished : l.phase.isUnfinished = true)
    (entered : law t (.entered .reporting)) (raised : l.settings.debug = true → F f l t)
    (settled : l.settings.debug = false →
      P (.failed f) (l.enter .reporting) (t ++ [.entered .reporting])) :
    (settleFailure f : Step σ SetupResult).Obeys law t l P F := by
  apply Step.obeys_record_bind
  split
  next debug => exact Step.obeys_throw (raised debug)
  next lenient =>
    obtain ⟨e, edge, target⟩ := Option.map_eq_some_iff.1 (l.phase.setupFailed_leads unfinished)
    rw [← target] at entered settled
    apply (Step.obeys_advance edge entered).seq
    intro _ l' n advanced
    obtain ⟨rfl, hn⟩ := advanced
    rw [hn]
    exact Step.obeys_pure (settled (eq_false_of_ne_true lenient))

theorem setup_skip_obeys [Services σ] {P : SetupResult → Lifecycle → List Deed → Prop}
    {F : PhaseFailure → Lifecycle → List Deed → Prop} (start : l.phase = .notStarted)
    (entered : law t (.entered .skipped))
    (skipped : P .skipped (l.enter .skipped) (t ++ [.entered .skipped])) :
    (setup true : Step σ SetupResult).Obeys law t l P F := by
  have edge : Transition.find? l.phase .skipRequested =
      some ⟨.notStarted, .skipped, .skipRequested, "Run skipped"⟩ := by
    rw [start]
    rfl
  apply Step.obeys_record_bind
  apply (Step.obeys_advance edge entered).seq
  intro _ l' n advanced
  obtain ⟨rfl, hn⟩ := advanced
  rw [hn]
  exact Step.obeys_pure skipped

/-- What setup of a run that has not started does, by what it does from bringing the network up. -/
theorem setup_begun_obeys [Services σ] {P : SetupResult → Lifecycle → List Deed → Prop}
    {F : PhaseFailure → Lifecycle → List Deed → Prop} (start : l.phase = .notStarted)
    (entered : law t (.entered .provisioning))
    (up : ∀ now, (do
      match ← Step.lift (ExceptT.run bringUp) with
      | .ok environment => pure (.ready environment)
      | .error failure => settleFailure failure : Step σ SetupResult).Obeys law
        (t ++ [.entered .provisioning]) (l.begun now) P F) :
    (setup false : Step σ SetupResult).Obeys law t l P F := by
  have edge : Transition.find? l.phase .setupStarted =
      some ⟨.notStarted, .provisioning, .setupStarted, "Provisioning namespace"⟩ := by
    rw [start]
    rfl
  apply Step.obeys_record_bind
  apply (Step.obeys_advance edge entered).seq
  intro _ l' n advanced
  obtain ⟨rfl, hn⟩ := advanced
  rw [hn]
  have today : (Step.lift (Operation.act Act.today) : Step σ Timestamp).Obeys law
      (t ++ [.entered .provisioning]) (l.enter .provisioning)
      (fun _ l' later => l' = l.enter .provisioning ∧ later = t ++ [.entered .provisioning]) F :=
    Step.obeys_lift (Operation.obeys_act (Act.obeys_of_silent (Act.traces_today fun _ => rfl)))
  apply today.seq
  intro now l₁ m told
  obtain ⟨rfl, hm⟩ := told
  rw [hm]
  have prepare : (Step.update (prepareRun now) : Step σ Unit).Obeys law
      (t ++ [.entered .provisioning]) (l.enter .provisioning)
      (fun _ l' later => l' = l.begun now ∧ later = t ++ [.entered .provisioning]) F :=
    Step.obeys_update ⟨rfl, rfl⟩
  apply prepare.seq
  intro _ l₂ k prepared
  obtain ⟨rfl, hk⟩ := prepared
  rw [hk]
  exact up now

theorem Reaches.of_prepareRun {l' : Lifecycle} {now : Timestamp}
    (h : Reaches (prepareRun now l') p l t) (settings : l'.settings = l₀.settings)
    (runId : l'.runId = l₀.runId) : Reaches l₀ p l t :=
  ⟨h.standing, h.phase, h.settings.trans settings, h.runId.trans runId⟩

theorem bringUp_settled_obeys [Services σ] {now : Timestamp} (stands : Standing l t)
    (phase : l.phase = .provisioning) (ns_eq : l.ns = none)
    (fresh : ∀ ns x, .asked (.createNamespace ns) x ∉ t) (settings : l.settings = l₀.settings)
    (runId : l.runId = l₀.runId) :
    (do
      match ← Step.lift (ExceptT.run bringUp) with
      | .ok environment => pure (.ready environment)
      | .error failure => settleFailure failure : Step σ SetupResult).Obeys l.law t
      (prepareRun now l)
      (fun v l' later => SetupEnds l₀ t₀ false (.ok v) l' later)
      fun f l' later => SetupEnds l₀ t₀ false (.error f) l' later := by
  have under : Underway (prepareRun now l) .provisioning none (prepareRun now l) t :=
    ⟨⟨stands.prepareRun now, phase, rfl, rfl⟩, ns_eq, rfl⟩
  -- Preparation overrides images, which the law does not look at.
  have law : ∀ t d, (prepareRun now l).law t d → l.law t d := fun _ _ => setupLaw_overrideImages
  have up : (Step.lift (ExceptT.run bringUp) : Step σ _).Obeys l.law t (prepareRun now l)
      (Step.Ends
        (fun env l' later => Underway (prepareRun now l) .genesisSynced (some env.ns) l' later)
        fun _ => Aborted (prepareRun now l))
      fun f l' later => SetupEnds l₀ t₀ false (.error f) l' later :=
    Step.obeys_lift ((bringUp_obeys under fresh).weaken law)
  apply up.seq
  intro r l' n ends
  cases r with
  | error f =>
    obtain ⟨p, ns, unfinished, aborted⟩ := ends
    have reached := aborted.toReaches.of_prepareRun settings runId
    obtain ⟨e, edge, target⟩ := Option.map_eq_some_iff.1 (p.setupFailed_leads unfinished)
    have standing : l'.phase.isUnfinished = true := by rw [reached.phase, unfinished]
    apply settleFailure_obeys standing trivial
    · intro debug
      rw [reached.settings] at debug
      exact .aborted unfinished reached debug
    · intro lenient
      rw [reached.settings] at lenient
      have entered := reached.enter edge (by rw [target]; decide)
      rw [target] at entered
      exact .failed entered lenient
  | ok env =>
    have reached := ends.toReaches.of_prepareRun settings runId
    exact Step.obeys_pure (.ready reached ends.ns_eq)

theorem setup_obeys [Services σ] (skip : Bool) (h : Standing l₀ t₀) :
    (setup skip : Step σ SetupResult).Obeys l₀.law t₀ l₀
      (fun v l' later => SetupEnds l₀ t₀ skip (.ok v) l' later)
      fun f l' later => SetupEnds l₀ t₀ skip (.error f) l' later := by
  by_cases start : l₀.phase = .notStarted
  · have entered : ∀ tr e, Transition.find? .notStarted tr = some e → e.target ≠ .done →
        Reaches l₀ e.target (l₀.enter e.target) (t₀ ++ [.entered e.target]) := by
      intro tr e edge open_
      rw [← start] at edge
      exact (Reaches.refl h).enter edge open_
    cases skip with
    | true =>
      have reached := entered .skipRequested _ rfl (by decide)
      exact setup_skip_obeys start trivial (.skipped reached)
    | false =>
      have reached := entered .setupStarted _ rfl (by decide)
      have fresh : ∀ ns x, .asked (.createNamespace ns) x ∉ t₀ ++ [.entered .provisioning] := by
        intro ns x hm
        rcases List.mem_append.1 hm with hm | hm
        · exact h.fresh start ns x hm
        · cases List.mem_singleton.1 hm
      have none : (l₀.enter .provisioning).ns = none := h.ns_eq_none start
      apply setup_begun_obeys start trivial
      intro now
      exact bringUp_settled_obeys (l := l₀.enter .provisioning) reached.standing rfl none fresh
        rfl rfl
  · apply Step.obeys_of_refused (exec_setup_of_started skip start)
    intro f
    exact .refused start

end Setup

end ProvingGround
