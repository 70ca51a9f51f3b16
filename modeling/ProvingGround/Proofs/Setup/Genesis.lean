import ProvingGround.Proofs.Images
import ProvingGround.Proofs.Lifecycle.Law
import ProvingGround.Proofs.Lifecycle.Passing

/-!
# What setup tells nodes of genesis

Until the pool is scaled setup creates no group of nodes. Then it computes genesis once, and each
group it creates is told just this instant, behind whatever arguments are configured for it.
-/

namespace ProvingGround

open Text

/-! ### Arguments -/

/-- What an argument about genesis begins with. -/
def genesisFlag : String := "--genesis-time="

def isGenesisArg (a : String) : Bool := genesisFlag.toList.isPrefixOf a.toList

/-- The last argument about genesis of the container of a node. -/
def Manifest.genesisArg? (m : Manifest) : Option String := do
  let (_, pods) ← m.deployment?
  let node ← pods.containers.find? (·.name == nodeContainer)
  (node.args.filter isGenesisArg).getLast?

theorem isGenesisArg_genesisArg (genesis : String) : isGenesisArg (genesisArg genesis) = true := by
  unfold isGenesisArg genesisArg genesisFlag
  rw [List.isPrefixOf_iff_prefix, String.toList_append]
  exact List.prefix_append _ _

theorem not_isGenesisArg_clientArgs {pod : Pod} {a : String} (h : a ∈ clientArgs pod) :
    isGenesisArg a = false := by
  simp only [clientArgs, List.mem_cons, List.not_mem_nil, or_false] at h
  rcases h with rfl | rfl <;> simp only [isGenesisArg, toString, String.toList_append] <;> rfl

/-- Whatever arguments are configured, genesis stands behind them. -/
theorem getLast?_container_args (s : NodeSpec) (genesis : String) {more : List String}
    (other : ∀ a ∈ more, isGenesisArg a = false) :
    ((s.container genesis more).args.filter isGenesisArg).getLast? = some (genesisArg genesis) := by
  have rest : more.filter isGenesisArg = [] := by
    rw [List.filter_eq_nil_iff]
    intro a ha
    simp [other a ha]
  have args : (s.container genesis more).args = s.renderedArgs ++ genesisArg genesis :: more := rfl
  rw [args, List.filter_append, List.filter_cons_of_pos (isGenesisArg_genesisArg genesis), rest,
    List.getLast?_concat]

theorem genesisArg?_bootstrap (p : Placement) (s : NodeSpec) :
    (p.bootstrap s).genesisArg? = some (genesisArg p.genesis) :=
  getLast?_container_args s p.genesis fun _ h => nomatch h

theorem genesisArg?_clients (p : Placement) (group : String) (s : NodeSpec) (pod : Pod) :
    (p.clients group s pod).genesisArg? = some (genesisArg p.genesis) :=
  getLast?_container_args s p.genesis fun _ h => not_isGenesisArg_clientArgs h

/-! ### Events -/

/-- Genesis is heeded: each group is told it when it is known, and none is created when it is not;
meanwhile genesis is neither set nor waited for, and no scenario begins. -/
def Event.Heeds (genesis : Option Timestamp) : Event → Prop
  | exchanged x => ∀ ns m, x.call = .create ns m → m.IsGroup →
    ∃ g ∈ genesis, m.genesisArg? = some (genesisArg g.text)
  | probed _ => True
  | entered p _ => p ≠ .poolScaled ∧ p ≠ .genesisSynced
  | began .. => False

/-! ### Tasks -/

section Tasks

variable {σ : Type} {genesis : Option Timestamp}

theorem startGenesis_heeds (delta : Duration) :
    (GenesisSchedule.start delta : Task σ GenesisSchedule).Keeps (Event.Heeds genesis) := by
  apply Task.Keeps.bind (Task.keeps_lift Act.keeps_clock)
  intro clock
  apply Task.Keeps.bind (Task.keeps_lift Act.keeps_today)
  intro now
  exact Task.keeps_ofConfig _

theorem heeds_entered {tr : Trigger}
    (targets : ∀ e ∈ Transition.table, e.trigger = tr →
      e.target ≠ .poolScaled ∧ e.target ≠ .genesisSynced) :
    ∀ e ∈ Transition.table, e.trigger = tr → ∀ c, (Event.entered e.target c).Heeds genesis :=
  fun e he trigger _ => targets e he trigger

variable [Services σ]

theorem keeps_heeding_call {c : Call} (h : ∀ ns m, c ≠ .create ns m) :
    (Task.call c : Task σ c.Answer).Keeps (Event.Heeds genesis) := by
  apply Task.keeps_call
  rintro x rfl ns m create
  exact absurd create (h ns m)

theorem claimNamespace_heeds (ns : String) :
    (claimNamespace ns : Task σ Unit).Keeps (Event.Heeds genesis) := by
  apply Task.Keeps.bind (keeps_heeding_call (by simp))
  intro existing
  split
  · exact Task.keeps_throw _
  · exact keeps_heeding_call (by simp)

theorem createAll_heeds {ns : String} {objects : List Manifest}
    (other : ∀ m ∈ objects, ¬ m.IsGroup) :
    (createAll ns objects : Task σ Unit).Keeps (Event.Heeds genesis) := by
  induction objects with
  | nil => exact Task.keeps_pure ()
  | cons m rest ih =>
    have create : (Task.call (.create ns m) : Task σ Unit).Keeps (Event.Heeds genesis) := by
      apply Task.keeps_call
      rintro x hx ns' m' create group
      rw [hx] at create
      cases create
      exact absurd group (other m List.mem_cons_self)
    apply Task.Keeps.bind create
    intro _
    exact ih fun m' hm' => other m' (List.mem_cons_of_mem m hm')

theorem not_isGroup_of_mem_loggingStack {ns : String} {store : StoreSettings} {m : Manifest}
    (h : m ∈ loggingStack ns store) : ¬ m.IsGroup := by
  obtain ⟨bootstrap, client, second⟩ := name_of_mem_loggingStack h
  simp [Manifest.IsGroup, bootstrap, client, second]

theorem checkServing_heeds (ns : String) (workloads : List Workload) :
    (checkServing ns workloads : Task σ _).Keeps (Event.Heeds genesis) := by
  induction workloads with
  | nil => exact Task.keeps_pure _
  | cons w rest ih =>
    have serving : (isServing ns w : Task σ Bool).Keeps (Event.Heeds genesis) := by
      apply Task.Keeps.bind (keeps_heeding_call (by simp))
      intro counts
      cases counts <;> exact Task.keeps_pure _
    apply Task.Keeps.bind serving
    intro served
    split
    · exact ih
    · exact Task.keeps_pure _

theorem deployLogging_heeds (ns : String) (store : StoreSettings) (limits : PollLimits) :
    (deployLogging ns store limits : Task σ Unit).Keeps (Event.Heeds genesis) := by
  apply Task.Keeps.bind (createAll_heeds fun _ => not_isGroup_of_mem_loggingStack)
  intro _
  exact poll_keeps (checkServing_heeds ns _)

theorem checkPool_heeds (name : String) :
    (checkPool name : Task σ _).Keeps (Event.Heeds genesis) := by
  apply Task.Keeps.bind (keeps_heeding_call (by simp))
  intro status
  split
  · exact Task.keeps_pure _
  · exact Task.keeps_throw _
  · exact Task.keeps_pure _
  · exact Task.keeps_pure _

theorem checkCollector_heeds (ns : String) (nodes : Nat) :
    (checkCollector ns nodes : Task σ _).Keeps (Event.Heeds genesis) := by
  apply Task.Keeps.bind (keeps_heeding_call (by simp))
  intro counts
  cases counts <;> exact Task.keeps_pure _

theorem scalePool_heeds (ns : String) (b : Blueprint) (w : WaitSettings) :
    (scalePool ns b w : Task σ ScaledPool).Keeps (Event.Heeds genesis) := by
  apply Task.Keeps.bind (Task.keeps_ofConfig _)
  intro request
  apply Task.Keeps.bind (keeps_heeding_call (by simp))
  intro _
  apply Task.Keeps.bind (Task.keeps_lift Act.keeps_clock)
  intro started
  apply Task.Keeps.bind (poll_keeps (checkPool_heeds _))
  intro _
  apply Task.Keeps.bind (Task.keeps_lift Act.keeps_clock)
  intro finished
  apply Task.Keeps.bind (poll_keeps (checkCollector_heeds ns _))
  intro _
  exact Task.keeps_pure _

theorem awaitGroup_heeds (ns group : String) (replicas : Int) (l : PollLimits) :
    (awaitGroup ns group replicas l : Task σ NodeGroup).Keeps (Event.Heeds genesis) := by
  have check : (checkGroup ns group (wantedPods replicas) : Task σ _).Keeps
      (Event.Heeds genesis) := by
    apply Task.Keeps.bind (keeps_heeding_call (by simp))
    intro pods
    exact Task.keeps_pure _
  apply Task.Keeps.bind (poll_keeps check)
  intro pods
  exact Task.keeps_pure _

theorem awaitTiming_heeds (ns : String) (pod : Pod) (l : PollLimits) :
    (awaitTiming ns pod l : Task σ Unit).Keeps (Event.Heeds genesis) := by
  have check : (checkTiming ns pod.name : Task σ _).Keeps (Event.Heeds genesis) := by
    apply Task.Keeps.bind (keeps_heeding_call (by simp))
    intro log
    exact Task.keeps_pure _
  apply Task.Keeps.bind (Task.keeps_lift (poll_keeps check))
  intro r
  split
  · exact Task.keeps_pure _
  · exact Task.keeps_throw _
  · exact Task.keeps_throw _

theorem startTiming_heeds (ns : String) (pod : Pod) :
    (startTiming ns pod : Task σ Unit).Keeps (Event.Heeds genesis) := by
  apply Task.Keeps.bind (keeps_heeding_call (by simp))
  intro response
  split
  · exact Task.keeps_pure _
  · exact Task.keeps_throw _

end Tasks

/-! ### Groups -/

/-- The group of nodes that is deployed last, and how many replicas it has. -/
def Blueprint.lastGroup (b : Blueprint) : String × Int :=
  match b.clientv2 with
  | none => (clientGroup, b.client.replicas)
  | some v2 => (secondClientGroup, v2.node.replicas)

namespace Blueprint

theorem lastGroup_overrideImages (b : Blueprint) (image : String) :
    (b.overrideImages image).lastGroup = b.lastGroup := by
  have other := b.reimaged_overrideImages image
  unfold lastGroup
  rw [other.client, other.clientv2]
  cases b.clientv2 <;> rfl

end Blueprint

/-- A group is found ready: its pods are listed, and they are the whole group. -/
def Event.Finds (group : String × Int) (ready : Duration) (e : Event) : Prop :=
  ∃ ns start pods, isWholeGroup (wantedPods group.2) pods = true ∧
    e = .exchanged ⟨.listPods ns (podSelector group.1), start, ready, .ok pods⟩

section Groups

variable {σ : Type} [Services σ] {p : DeploymentPlan} {genesis : Timestamp}

theorem createGroup_heeds {ns : String} {m : Manifest}
    (told : m.genesisArg? = some (genesisArg genesis.text)) :
    (Task.call (.create ns m) : Task σ Unit).Keeps (Event.Heeds (some genesis)) := by
  apply Task.keeps_call
  rintro x hx ns' m' create -
  rw [hx] at create
  cases create
  exact ⟨genesis, rfl, told⟩

/-- The deployment of the bootstrap group from when it has been created. -/
theorem awaitBootstrap_heeds (p : DeploymentPlan) (s : NodeSpec) (timeout : Duration)
    {genesis : Option Timestamp} :
    (do
      let group ← awaitGroup p.ns bootstrapGroup s.replicas ⟨timeout, p.interval⟩
      let pod ← Task.ofConfig group.firstPod
      awaitTiming p.ns pod ⟨timeout, p.interval⟩
      startTiming p.ns pod
      pure group : Task σ NodeGroup).Keeps (Event.Heeds genesis) := by
  apply Task.Keeps.bind (awaitGroup_heeds _ _ _ _)
  intro group
  apply Task.Keeps.bind (Task.keeps_ofConfig _)
  intro pod
  apply Task.Keeps.bind (awaitTiming_heeds _ _ _)
  intro _
  apply Task.Keeps.bind (startTiming_heeds _ _)
  intro _
  exact Task.keeps_pure _

theorem deployBootstrap_heeds (s : NodeSpec) (timeout : Duration)
    (plan : p.schedule.genesis = genesis) :
    (p.deployBootstrap s timeout : Task σ NodeGroup).Keeps (Event.Heeds (some genesis)) := by
  have told : (p.placement.bootstrap s).genesisArg? = some (genesisArg genesis.text) := by
    rw [genesisArg?_bootstrap, ← plan]
    rfl
  exact Task.Keeps.bind (createGroup_heeds told) fun _ => awaitBootstrap_heeds p s timeout

theorem deployClients_heeds (group : String) (s : NodeSpec) (pod : Pod) (timeout : Duration)
    (plan : p.schedule.genesis = genesis) :
    (p.deployClients group s pod timeout : Task σ NodeGroup).Keeps
      (Event.Heeds (some genesis)) := by
  have told : (p.placement.clients group s pod).genesisArg? = some (genesisArg genesis.text) := by
    rw [genesisArg?_clients, ← plan]
    rfl
  apply Task.Keeps.bind (createGroup_heeds told)
  intro _
  exact awaitGroup_heeds _ _ _ _

theorem awaitGroup_exec_ok {ns group : String} {replicas : Int} {limits : PollLimits}
    {s later : Session σ} {g : NodeGroup}
    (h : (awaitGroup ns group replicas limits).exec s = (.ok (.ok g), later)) :
    ∃ pre e, later.history = pre ++ [e] ∧ e.Finds (group, replicas) later.clock := by
  obtain ⟨pods, s₁, found, rest⟩ := Task.exec_bind_ok h
  cases rest
  obtain ⟨s₂, check⟩ := poll_exec_ok found
  obtain ⟨listed, s₃, call, rest⟩ := Task.exec_bind_ok check
  have whole : isWholeGroup (wantedPods replicas) listed = true := by
    by_contra partial_
    rw [if_neg partial_] at rest
    cases rest
  rw [if_pos whole] at rest
  cases rest
  exact ⟨s₂.history, _, Task.exec_call_ok call, ns, _, _, whole, rfl⟩

theorem deployClients_exec_ok {group : String} {spec : NodeSpec} {pod : Pod} {timeout : Duration}
    {s later : Session σ} {g : NodeGroup}
    (h : (p.deployClients group spec pod timeout).exec s = (.ok (.ok g), later)) :
    ∃ pre e, later.history = pre ++ [e] ∧ e.Finds (group, spec.replicas) later.clock := by
  obtain ⟨_, s₁, -, rest⟩ := Task.exec_bind_ok h
  exact awaitGroup_exec_ok rest

end Groups

/-! ### Schedules -/

section Schedules

variable {σ : Type} {s later : Session σ}

theorem startGenesis_exec_ok {delta : Duration} {schedule : GenesisSchedule}
    (h : (GenesisSchedule.start delta).exec s = (.ok (.ok schedule), later)) :
    schedule = ⟨delta, s.clock, s.today.after delta⟩ ∧ later = s := by
  obtain ⟨clock, s₁, now, rest⟩ := Task.exec_bind_ok h
  cases now
  obtain ⟨today, s₂, now, rest⟩ := Task.exec_bind_ok rest
  cases now
  unfold GenesisSchedule.compute at rest
  cases after : s.today.after? delta with
  | none =>
    rw [after] at rest
    cases rest
  | some genesis =>
    rw [after] at rest
    cases rest
    rw [Timestamp.after?_eq_some after]
    exact ⟨rfl, rfl⟩

namespace GenesisSchedule

/-- The clock when genesis has been waited for from now on. -/
def wakes (g : GenesisSchedule) (now : Duration) : Duration :=
  if (g.left now).nanos = 0 then now else Timer.fires now (g.left now)

theorem exec_await (g : GenesisSchedule) (s : Session σ) :
    g.await.exec s = (.ok (g.left s.clock), { s with clock := g.wakes s.clock }) := by
  have clock : g.await.exec s = (awaitGenesis g.delta (g.elapsed s.clock)).exec s := rfl
  rw [clock]
  unfold awaitGenesis wakes left
  by_cases gone : (g.delta.remaining (g.elapsed s.clock)).nanos = 0
  · simp only [gone, if_true]
    rfl
  · simp only [gone, if_false]
    rfl

theorem le_wakes (g : GenesisSchedule) (now : Duration) : now.nanos ≤ (g.wakes now).nanos := by
  unfold wakes
  split
  · exact Nat.le_refl _
  · exact Timer.le_fires_now _ _

/-- When its timer is exact, the wait ends with the span, or at once when the span is over. -/
theorem wakes_of_exact {g : GenesisSchedule} {now : Duration}
    (past : g.computedAt.nanos ≤ now.nanos)
    (exact : now.nanos < g.computedAt.nanos + g.delta.nanos → Timer.Exact now
      (Duration.remaining ⟨g.computedAt.nanos + g.delta.nanos⟩ now)) :
    (g.wakes now).nanos = max (g.computedAt.nanos + g.delta.nanos) now.nanos := by
  have left : g.left now = Duration.remaining ⟨g.computedAt.nanos + g.delta.nanos⟩ now := by
    simp only [GenesisSchedule.left, elapsed, Duration.remaining, Duration.mk.injEq]
    omega
  unfold wakes
  rw [left]
  split
  next gone =>
    simp only [Duration.remaining] at gone
    omega
  next ahead =>
    simp only [Duration.remaining] at ahead
    have fires : Timer.fires now
        (Duration.remaining ⟨g.computedAt.nanos + g.delta.nanos⟩ now) = _ := exact (by omega)
    rw [fires]
    simp only [Duration.remaining]
    omega

end GenesisSchedule

end Schedules

/-! ### Parts of setup -/

section Parts

variable {σ : Type} [Services σ] {l : Lifecycle} {s : Session σ} {genesis : Option Timestamp}

theorem setupNamespace_heeds : (setupNamespace : Step σ String).Keeps (Event.Heeds genesis) := by
  apply Step.Keeps.bind Step.keeps_record
  intro l
  apply Step.Keeps.bind (Step.keeps_task (claimNamespace_heeds _))
  intro _
  refine Step.Keeps.bind (Step.keeps_update ?_) ?_
  · intro l
    exact ⟨rfl, id⟩
  · intro _
    exact Step.keeps_pure _

theorem setupLogging_heeds (ns : String) :
    (setupLogging ns : Step σ Unit).Keeps (Event.Heeds genesis) := by
  apply Step.Keeps.bind Step.keeps_record
  intro l
  apply Step.Keeps.bind (Step.keeps_task (deployLogging_heeds ns _ _))
  intro _
  exact Step.keeps_advance (heeds_entered (by decide))

theorem setupPool_leads (ns : String) :
    (setupPool ns : Step σ ScaledPool).Leads l s
      (fun _ l' later => l.Onward l' ∧ ∃ before, s.Later (Event.Heeds none) before ∧
        later = before.note (.entered .poolScaled before.clock))
      (s.Later (Event.Heeds none)) := by
  apply Step.leads_record_bind
  apply (Step.leads_task (scalePool_heeds ns _ _)).bind fun _ h => h
  rintro pool _ before ⟨⟨later, rfl⟩, -⟩
  apply (Step.leads_advance (q := .poolScaled) (by decide) later).bind fun _ h => h
  rintro _ l' s' ⟨rfl, rfl⟩
  apply Step.leads_pure
  exact ⟨⟨rfl, fun _ => Phase.noConfusion⟩, before, later, rfl⟩

/-- The schedule is made from where the bootstrap phase starts, and the bootstrap group is told
it. -/
theorem setupBootstrap_leads (ns : String) (pool : ScaledPool) {g : Timestamp}
    (hg : g = s.today.after l.blueprint.genesisSpan) :
    (setupBootstrap ns pool : Step σ _).Leads l s
      (fun v l' later => l.Onward l' ∧ s.Later (Event.Heeds (some g)) later ∧
        v.1.schedule = ⟨l.blueprint.genesisSpan, s.clock, g⟩)
      (s.Later (Event.Heeds (some g))) := by
  apply Step.leads_record_bind
  apply (Step.leads_task (startGenesis_heeds _)).bind fun _ h => h
  rintro schedule _ s₁ ⟨⟨-, rfl⟩, started⟩
  obtain ⟨rfl, rfl⟩ := startGenesis_exec_ok started
  rw [← hg]
  dsimp only
  apply (Step.leads_task (deployBootstrap_heeds _ _ rfl)).bind fun _ h => h
  rintro group _ s₂ ⟨⟨later, rfl⟩, -⟩
  apply (Step.keeps_advance (heeds_entered (by decide))).leads.bind fun _ => later.trans
  rintro _ l' s₃ ⟨later', onward⟩
  exact Step.leads_pure ⟨onward, later.trans later', rfl⟩

/-- The groups have been told genesis, and as soon as the last one was found ready, its phase has
been entered. -/
structure GroupsReady (b : Blueprint) (g : Timestamp) (s later : Session σ) : Prop where
  told : s.Later (Event.Heeds (some g)) later
  found : ∃ pre e, later.history = pre ++ [e, .entered .clientsReady later.clock] ∧
    e.Finds b.lastGroup later.clock

theorem setupClients_leads {plan : DeploymentPlan} (bootstrap : NodeGroup) {g : Timestamp}
    (hg : plan.schedule.genesis = g) :
    (setupClients plan bootstrap : Step σ _).Leads l s
      (fun _ l' later => l.Onward l' ∧ GroupsReady l.blueprint g s later)
      (s.Later (Event.Heeds (some g))) := by
  apply Step.leads_record_bind
  apply (Step.leads_task (Task.keeps_ofConfig _)).bind fun _ h => h
  rintro pod l s₁ ⟨⟨later₁, rfl⟩, -⟩
  apply (Step.leads_task (deployClients_heeds clientGroup _ pod _ hg)).bind fun _ => later₁.trans
  rintro clients l s₂ ⟨⟨later₂, rfl⟩, first⟩
  have later := later₁.trans later₂
  -- Whichever group is the last, the phase is entered as soon as it is found.
  have finish : ∀ (network : Network) (found : Session σ), s.Later (Event.Heeds (some g)) found →
      (∃ pre e, found.history = pre ++ [e] ∧ e.Finds l.blueprint.lastGroup found.clock) →
      (do
        Step.advance .clientsReady .clientsDeployed
        pure network : Step σ Network).Leads l found
      (fun _ l' later => l.Onward l' ∧ GroupsReady l.blueprint g s later)
      (s.Later (Event.Heeds (some g))) := by
    intro network found later finds
    obtain ⟨pre, e, history, finds⟩ := finds
    apply (Step.leads_advance (q := .clientsReady) (by decide) later).bind fun _ h => h
    rintro _ l' s' ⟨rfl, rfl⟩
    apply Step.leads_pure
    have entered : (Event.entered .clientsReady found.clock).Heeds (some g) :=
      ⟨Phase.noConfusion, Phase.noConfusion⟩
    refine ⟨⟨rfl, fun _ => Phase.noConfusion⟩, later.trans (.note entered (Nat.le_refl _)), pre, e,
      ?_, finds⟩
    rw [Session.history_note, history, List.append_assoc]
    rfl
  cases v2 : l.blueprint.clientv2 with
  | none =>
    have last : l.blueprint.lastGroup = (clientGroup, l.blueprint.client.replicas) := by
      simp only [Blueprint.lastGroup, v2]
    simp only [pure_bind]
    apply finish _ _ later
    rw [last]
    exact deployClients_exec_ok first
  | some node =>
    have last : l.blueprint.lastGroup = (secondClientGroup, node.node.replicas) := by
      simp only [Blueprint.lastGroup, v2]
    simp only [pure_bind]
    apply (Step.leads_task (deployClients_heeds secondClientGroup _ pod _ hg)).bind
      fun _ => later.trans
    rintro second l s₃ ⟨⟨later₃, rfl⟩, found⟩
    apply finish _ _ (later.trans later₃)
    rw [last]
    exact deployClients_exec_ok found

/-- Genesis has been waited for, and its phase has been entered. -/
structure GenesisAwaited (schedule : GenesisSchedule) (s later : Session σ) : Prop where
  calendar : later.calendar = s.calendar
  clock : later.clock = schedule.wakes s.clock
  history : later.history = s.history ++ [.entered .genesisSynced later.clock]

omit [Services σ] in
theorem setupGenesis_leads (schedule : GenesisSchedule) :
    (setupGenesis schedule : Step σ Unit).Leads l s
      (fun _ _ later => GenesisAwaited schedule s later)
      (s.Later (Event.Heeds genesis)) := by
  have slept : s.Later (Event.Heeds genesis) { s with clock := schedule.wakes s.clock } :=
    .wait (schedule.le_wakes s.clock)
  have awaited : (Step.lift (Operation.act schedule.await)).exec l s =
      (.ok (.ok (schedule.left s.clock), l), { s with clock := schedule.wakes s.clock }) := by
    rw [Step.exec_lift, Operation.exec_act, schedule.exec_await]
  have await_ : (Step.lift (Operation.act schedule.await) : Step σ Duration).Leads l s
      (fun _ _ later => later = { s with clock := schedule.wakes s.clock })
      (s.Later (Event.Heeds genesis)) := by
    unfold Step.Leads
    rw [awaited]
  apply await_.bind fun _ h => h
  rintro _ l' _ rfl
  apply (Step.leads_advance (q := .genesisSynced) (by decide) slept).mono _ fun _ h => h
  rintro _ _ _ ⟨-, rfl⟩
  exact ⟨rfl, rfl, Session.history_note _ _⟩

end Parts

end ProvingGround
