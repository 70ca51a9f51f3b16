import ProvingGround.Proofs.Lifecycle.OnTime
import ProvingGround.Proofs.Trace.Budget

/-!
# What setup spends

Each wait of setup has a limit of its own, and the limits add up. The wait for genesis does not: it
begins with the wait for the bootstrap group, and takes what the waits for the groups leave of it.
-/

namespace ProvingGround

variable {σ α β : Type}

/-! ### Limits -/

namespace Blueprint

/-- The limits of all polls of setup. -/
def pollLimits (b : Blueprint) (w : WaitSettings) : List PollLimits :=
  [⟨w.loggingStack, w.pollInterval⟩, ⟨w.nodePool, w.pollInterval⟩, ⟨w.collector, w.pollInterval⟩,
    ⟨b.readySpan, w.pollInterval⟩]

/-- The timers that setup sets are exact: in its polls, and for genesis. -/
structure ExactTimers (b : Blueprint) (w : WaitSettings) (h : List Event) : Prop where
  polls : ∀ l ∈ b.pollLimits w, l.Timely h
  genesis : ∀ outset, .entered .poolScaled outset ∈ h → Punctual (b.due outset) h

def exactTimers (b : Blueprint) (w : WaitSettings) : Proviso where
  met := b.ExactTimers w
  before := by
    intro h h' before met
    refine ⟨fun l hl => (met.polls l hl).earlier before, fun outset scaled ready found => ?_⟩
    exact met.genesis outset (before.subset scaled) ready (before.subset found)

theorem timely {b : Blueprint} {w : WaitSettings} {l : PollLimits} (member : l ∈ b.pollLimits w) :
    ∀ h, (b.exactTimers w).met h → l.Timely h :=
  fun _ met => met.polls l member

/-- The waits for groups, each with its own limit: the pods and the timing service of the bootstrap
group, and the pods of each group of clients. -/
def readyWaits (b : Blueprint) : Nat :=
  match b.clientv2 with
  | none => 3
  | some _ => 4

/-- The most time that setup takes. -/
def longestSetup (b : Blueprint) (w : WaitSettings) : Nat :=
  w.loggingStack.nanos + w.nodePool.nanos + w.collector.nanos +
    max b.genesisSpan.nanos (b.readyWaits * b.readySpan.nanos)

/-- The most calls that setup makes. -/
def mostCalls (b : Blueprint) (w : WaitSettings) : Nat :=
  let stack : PollLimits := ⟨w.loggingStack, w.pollInterval⟩
  let pool : PollLimits := ⟨w.nodePool, w.pollInterval⟩
  let collector : PollLimits := ⟨w.collector, w.pollInterval⟩
  let group : PollLimits := ⟨b.readySpan, w.pollInterval⟩
  2 + (6 + stack.checks 0 * 3) + (1 + pool.checks 0 + collector.checks 0) +
    b.readyWaits * (1 + group.checks 0)

end Blueprint

/-! ### Tasks -/

section Tasks

variable [Services σ] (prompt : Prompt σ) {p : Proviso}

include prompt

theorem claimNamespace_instant (name : String) :
    (claimNamespace name : Task σ Unit).Instant 2 := by
  have claimed : ∀ existing : List String,
      (if existing.contains name then throw (.duplicateResource "namespace" name)
      else Task.call (.createNamespace name) : Task σ Unit).Instant 1 := by
    intro existing
    split
    · exact (Task.instant_throw _).mono (Nat.zero_le _)
    · exact (Task.glances_call prompt _).instant
  exact (Task.glances_call prompt .listNamespaces).instant.bind claimed

theorem createAll_instant (ns : String) (ms : List Manifest) :
    (createAll ns ms : Task σ Unit).Instant ms.length := by
  induction ms with
  | nil => exact Task.instant_pure _
  | cons m rest ih =>
    apply Task.Instant.mono ((Task.glances_call prompt (.create ns m)).instant.bind fun _ => ih)
    rw [List.length_cons, Nat.add_comm]

theorem isServing_glances (ns : String) (x : Workload) :
    (isServing ns x : Task σ Bool).Glances 1 := by
  apply (Task.glances_call prompt (.workloadStatus ns x)).done
  rintro (_ | counts)
  · exact Task.instant_pure _
  · exact Task.instant_pure _

theorem checkServing_instant (ns : String) (xs : List Workload) :
    (checkServing ns xs : Task σ _).Instant xs.length := by
  induction xs with
  | nil => exact Task.instant_pure _
  | cons x rest ih =>
    have serving : (checkServing ns (x :: rest) : Task σ _).Instant (1 + rest.length) := by
      apply (isServing_glances prompt ns x).instant.bind
      intro serves
      split
      · exact ih
      · exact (Task.instant_pure _).mono (Nat.zero_le _)
    apply serving.mono
    rw [List.length_cons, Nat.add_comm]

theorem checkLogging_glances (ns : String) :
    (checkServing ns loggingWorkloads : Task σ _).Glances 3 := by
  have others : ∀ serves : Bool,
      (if serves then checkServing ns (loggingWorkloads.drop 1) else pure none :
        Task σ (Option Unit)).Instant 2 := by
    intro serves
    split
    · exact checkServing_instant prompt ns _
    · exact (Task.instant_pure _).mono (Nat.zero_le _)
  exact (isServing_glances prompt ns _).bind others

theorem deployLogging_spends (ns : String) (store : StoreSettings) {l : PollLimits}
    (interval : 0 < l.interval.nanos) (timely : ∀ h, p.met h → l.Timely h) :
    (deployLogging ns store l : Task σ Unit).Spends p (6 + l.checks 0 * 3) l.timeout.nanos := by
  apply (createAll_instant prompt ns (loggingStack ns store)).seq
  intro _
  exact poll_spends _ (checkLogging_glances prompt ns) interval timely

theorem checkPool_glances (name : String) : (checkPool name : Task σ _).Glances 1 := by
  apply (Task.glances_call prompt (.poolStatus name)).done
  rintro (_ | _ | _ | message)
  · exact Task.instant_pure _
  · exact Task.instant_pure _
  · exact Task.instant_pure _
  · exact Task.instant_throw _

theorem checkCollector_glances (ns : String) (nodes : Nat) :
    (checkCollector ns nodes : Task σ _).Glances 1 := by
  apply (Task.glances_call prompt (.workloadStatus ns collectorWorkload)).done
  rintro (_ | counts)
  · exact Task.instant_pure _
  · exact Task.instant_pure _

theorem scalePool_spends (ns : String) (b : Blueprint) {w : WaitSettings}
    (interval : 0 < w.pollInterval.nanos)
    (pool : ∀ h, p.met h → PollLimits.Timely ⟨w.nodePool, w.pollInterval⟩ h)
    (collector : ∀ h, p.met h → PollLimits.Timely ⟨w.collector, w.pollInterval⟩ h) :
    (scalePool ns b w : Task σ ScaledPool).Spends p
      (1 + PollLimits.checks ⟨w.nodePool, w.pollInterval⟩ 0 +
        PollLimits.checks ⟨w.collector, w.pollInterval⟩ 0)
      (w.nodePool.nanos + w.collector.nanos) := by
  have covered : ∀ request : PoolRequest, ∀ elapsed,
      (do
        awaitCollector ns request.nodes w
        pure ⟨request.name, request.nodes, elapsed⟩ : Task σ ScaledPool).Spends p
      (PollLimits.checks ⟨w.collector, w.pollInterval⟩ 0 * 1) w.collector.nanos := by
    intro request elapsed
    exact (poll_spends _ (checkCollector_glances prompt ns _) interval collector).done
      fun _ => Task.instant_pure _
  have created : ∀ request : PoolRequest,
      (do
        let started ← Task.clock
        awaitPool request.name w
        let elapsed := (← Task.clock).remaining started
        awaitCollector ns request.nodes w
        pure ⟨request.name, request.nodes, elapsed⟩ : Task σ ScaledPool).Spends p
      (0 + (PollLimits.checks ⟨w.nodePool, w.pollInterval⟩ 0 * 1 +
        (0 + PollLimits.checks ⟨w.collector, w.pollInterval⟩ 0 * 1)))
      (w.nodePool.nanos + w.collector.nanos) := by
    intro request
    apply Task.instant_clock.seq
    intro started
    apply (poll_spends _ (checkPool_glances prompt request.name) interval pool).bind
    intro _
    exact Task.instant_clock.seq fun now => covered request _
  have planned := (Task.instant_ofConfig (b.planPool ns)).seq fun request =>
    (Task.glances_call prompt (.createPool request)).instant.seq fun _ => created request
  exact planned.mono (by omega) (Nat.le_refl _)

theorem awaitGroup_spends (ns group : String) (replicas : Int) {l : PollLimits}
    (interval : 0 < l.interval.nanos) (timely : ∀ h, p.met h → l.Timely h) :
    (awaitGroup ns group replicas l : Task σ NodeGroup).Spends p (l.checks 0) l.timeout.nanos := by
  have check : (checkGroup ns group (wantedPods replicas) : Task σ _).Glances 1 := by
    apply (Task.glances_call prompt (.listPods ns (podSelector group))).done
    intro pods
    exact Task.instant_pure _
  have found := (poll_spends s!"{group} pods" check interval timely).done
    fun pods => Task.instant_pure (⟨group, ns, pods⟩ : NodeGroup)
  rw [Nat.mul_one] at found
  exact found

theorem awaitTiming_spends (ns : String) (pod : Pod) {l : PollLimits}
    (interval : 0 < l.interval.nanos) (timely : ∀ h, p.met h → l.Timely h) :
    (awaitTiming ns pod l : Task σ Unit).Spends p (l.checks 0) l.timeout.nanos := by
  have check : (checkTiming ns pod.name : Task σ _).Glances 1 := by
    apply (Task.glances_call prompt (.podLogs ns pod.name timingContainer)).done
    intro log
    exact Task.instant_pure _
  have found := poll_spends "timing service log" check interval timely
  rw [Nat.mul_one] at found
  apply found.lift_attempt.done
  intro r
  split
  · exact Task.instant_pure _
  · exact Task.instant_throw _
  · exact Task.instant_throw _

theorem startTiming_instant (ns : String) (pod : Pod) :
    (startTiming ns pod : Task σ Unit).Instant 1 := by
  apply (Task.glances_call prompt (.startTiming ns pod timingStart)).instant.done
  intro response
  split
  · exact Task.instant_pure _
  · exact Task.instant_throw _

theorem deployBootstrap_spends (plan : DeploymentPlan) (spec : NodeSpec) {timeout : Duration}
    (interval : 0 < plan.interval.nanos)
    (timely : ∀ h, p.met h → PollLimits.Timely ⟨timeout, plan.interval⟩ h) :
    (plan.deployBootstrap spec timeout : Task σ NodeGroup).Spends p
      (2 * (1 + PollLimits.checks ⟨timeout, plan.interval⟩ 0)) (2 * timeout.nanos) := by
  have started : ∀ group pod,
      (do
        awaitTiming plan.ns pod ⟨timeout, plan.interval⟩
        startTiming plan.ns pod
        pure group : Task σ NodeGroup).Spends p
      (PollLimits.checks ⟨timeout, plan.interval⟩ 0 + 1) (timeout.nanos + 0) := by
    intro group pod
    apply (awaitTiming_spends prompt plan.ns pod interval timely).bind
    intro _
    exact ((startTiming_instant prompt plan.ns pod).done fun _ => Task.instant_pure _).spends
  have created := (Task.glances_call prompt
      (.create plan.ns (plan.placement.bootstrap spec))).instant.seq fun _ =>
    (awaitGroup_spends prompt plan.ns bootstrapGroup spec.replicas
      (l := ⟨timeout, plan.interval⟩) interval timely).bind fun group =>
    (Task.instant_ofConfig group.firstPod).seq fun pod => started group pod
  exact created.mono (by omega) (by dsimp only; omega)

theorem deployClients_spends (plan : DeploymentPlan) (group : String) (spec : NodeSpec) (pod : Pod)
    {timeout : Duration} (interval : 0 < plan.interval.nanos)
    (timely : ∀ h, p.met h → PollLimits.Timely ⟨timeout, plan.interval⟩ h) :
    (plan.deployClients group spec pod timeout : Task σ NodeGroup).Spends p
      (1 + PollLimits.checks ⟨timeout, plan.interval⟩ 0) timeout.nanos := by
  apply (Task.glances_call prompt (.create plan.ns _)).instant.seq
  intro _
  exact awaitGroup_spends prompt plan.ns group spec.replicas interval timely

omit prompt [Services σ] in
theorem startGenesis_instant (delta : Duration) :
    (GenesisSchedule.start delta : Task σ GenesisSchedule).Instant 0 := by
  apply Task.instant_clock.done
  intro clock
  exact Task.instant_today.done fun now => Task.instant_ofConfig _

end Tasks

/-! ### Steps -/

/-- The run is one of the blueprint, with these waits. -/
structure Lifecycle.Runs (b : Blueprint) (w : WaitSettings) (l : Lifecycle) : Prop where
  blueprint : l.blueprint = b
  waits : l.settings.waits = w

theorem Lifecycle.Runs.enter {b : Blueprint} {w : WaitSettings} {l : Lifecycle} (h : l.Runs b w)
    (q : Phase) : (l.enter q).Runs b w := ⟨h.blueprint, h.waits⟩

namespace Step

variable {b : Blueprint} {w : WaitSettings} {k d k' d' : Nat} {l : Lifecycle} {s₀ s : Session σ}

/-- The step comes to an end; since `s₀` there have been `k` calls at most then, and `d` nanoseconds
have passed at most when timers are exact. The run stays what it is. -/
def Within (b : Blueprint) (w : WaitSettings) (s₀ : Session σ) (k d : Nat) (t : Step σ α)
    (l : Lifecycle) (s : Session σ) : Prop :=
  ∃ r l' s', t.exec l s = (.ok (r, l'), s') ∧ s₀.Spent (b.exactTimers w) k d s' ∧ l'.Runs b w

/-- The step comes to an end, after `k` calls at most and within `d` nanoseconds when timers are
exact. -/
def Spends (b : Blueprint) (w : WaitSettings) (k d : Nat) (t : Step σ α) (l : Lifecycle)
    (s : Session σ) : Prop :=
  t.Within b w s k d l s

theorem Within.bind {t : Step σ α} {u : α → Step σ β} (ht : t.Within b w s₀ k d l s)
    (hu : ∀ v l' s', t.exec l s = (.ok (.ok v, l'), s') → l'.Runs b w →
      s₀.Spent (b.exactTimers w) k d s' → (u v).Within b w s₀ k' d' l' s')
    (calls : k ≤ k') (time : d ≤ d') : (t >>= u).Within b w s₀ k' d' l s := by
  obtain ⟨r, l₁, s₁, first, spent, runs⟩ := ht
  unfold Within
  rw [exec_bind, first]
  cases r with
  | error f => exact ⟨_, l₁, s₁, rfl, spent.mono calls time, runs⟩
  | ok v => exact hu v l₁ s₁ first runs spent

theorem Spends.after {t : Step σ α} (h : t.Spends b w k' d' l s)
    (spent : s₀.Spent (b.exactTimers w) k d s) : t.Within b w s₀ (k + k') (d + d') l s := by
  obtain ⟨r, l', s', ended, spent', runs⟩ := h
  exact ⟨r, l', s', ended, spent.trans spent', runs⟩

theorem spends_pure (v : α) (runs : l.Runs b w) : (pure v : Step σ α).Spends b w 0 0 l s :=
  ⟨_, l, s, rfl, (Session.Stood.refl s).spent, runs⟩

theorem spends_throw (f : PhaseFailure) (runs : l.Runs b w) :
    (throw f : Step σ α).Spends b w 0 0 l s :=
  ⟨_, l, s, rfl, (Session.Stood.refl s).spent, runs⟩

theorem Spends.mono {t : Step σ α} (h : t.Spends b w k d l s) (calls : k ≤ k') (time : d ≤ d') :
    t.Spends b w k' d' l s := by
  obtain ⟨r, l', s', ended, spent, runs⟩ := h
  exact ⟨r, l', s', ended, spent.mono calls time, runs⟩

theorem Spends.since {t : Step σ α} (h : t.Spends b w k d l s) (stood : s₀.Stood 0 s) :
    t.Within b w s₀ k d l s := by
  have since := h.after (stood.spent (p := b.exactTimers w))
  rw [Nat.zero_add, Nat.zero_add] at since
  exact since

theorem Spends.still {t : Step σ α} (h : t.Spends b w 0 0 l s)
    (spent : s₀.Spent (b.exactTimers w) k d s) : t.Within b w s₀ k d l s := h.after spent

theorem Spends.bind {t : Step σ α} {u : α → Step σ β} (ht : t.Spends b w k d l s)
    (hu : ∀ v l' s', t.exec l s = (.ok (.ok v, l'), s') → l'.Runs b w →
      (u v).Spends b w k' d' l' s') : (t >>= u).Spends b w (k + k') (d + d') l s :=
  Within.bind ht (fun v l' s' ended runs spent => (hu v l' s' ended runs).after spent)
    (Nat.le_add_right _ _) (Nat.le_add_right _ _)

/-! A step may follow, and be followed by, what spends nothing. -/

theorem Spends.seq {t : Step σ α} {u : α → Step σ β} (ht : t.Spends b w 0 0 l s)
    (hu : ∀ v l' s', t.exec l s = (.ok (.ok v, l'), s') → l'.Runs b w →
      (u v).Spends b w k d l' s') : (t >>= u).Spends b w k d l s :=
  (ht.bind hu).mono (Nat.le_of_eq (Nat.zero_add k)) (Nat.le_of_eq (Nat.zero_add d))

theorem Spends.done {t : Step σ α} {u : α → Step σ β} (ht : t.Spends b w k d l s)
    (hu : ∀ v l' s', l'.Runs b w → (u v).Spends b w 0 0 l' s') : (t >>= u).Spends b w k d l s :=
  ht.bind fun v l' s' _ => hu v l' s'

theorem spends_record_bind {u : Lifecycle → Step σ β} (h : (u l).Spends b w k d l s) :
    (record >>= u).Spends b w k d l s := by
  unfold Spends Within
  rw [exec_bind, exec_record]
  exact h

theorem spends_update {f : Lifecycle → Lifecycle} (runs : (f l).Runs b w) :
    (update f : Step σ Unit).Spends b w 0 0 l s :=
  ⟨_, f l, s, rfl, (Session.Stood.refl s).spent, runs⟩

theorem spends_task {p : Phase} {a : Task σ α} (h : a.Spends (b.exactTimers w) k d)
    (runs : l.Runs b w) : (task p a).Spends b w k d l s := by
  obtain ⟨r, s', ended, spent⟩ := h s
  have attempt : a.attempt.exec s = (.ok r, s') := ended
  unfold Spends Within task
  rw [exec_bind, exec_lift, Operation.exec_act, attempt]
  cases r with
  | error f => exact ⟨_, l, s', rfl, spent, runs⟩
  | ok v => exact ⟨_, l, s', rfl, spent, runs⟩

theorem spends_advance (p : Phase) (tr : Trigger) (runs : l.Runs b w) :
    (advance p tr : Step σ Unit).Spends b w 0 0 l s := by
  unfold Spends Within
  cases edge : Transition.find? l.phase tr with
  | none =>
    rw [exec_advance_none edge]
    exact ⟨_, l, s, rfl, (Session.Stood.refl s).spent, runs⟩
  | some e =>
    rw [exec_advance_some edge]
    exact ⟨_, _, _, rfl, (Session.Stood.note s rfl).spent, runs.enter e.target⟩

end Step

/-! ### Parts of setup -/

section Parts

variable [Services σ] (prompt : Prompt σ) {b : Blueprint} {w : WaitSettings}
  (interval : 0 < w.pollInterval.nanos) {l : Lifecycle} {s : Session σ}

include prompt

theorem setupNamespace_spends (runs : l.Runs b w) :
    (setupNamespace : Step σ String).Spends b w 2 0 l s := by
  apply Step.spends_record_bind
  apply (Step.spends_task (claimNamespace_instant prompt _).spends runs).done
  intro _ l' s' runs'
  apply (Step.spends_update ⟨runs'.blueprint, runs'.waits⟩).done
  intro _ l'' s'' runs''
  exact Step.spends_pure _ runs''

include interval

theorem setupLogging_spends (ns : String) (runs : l.Runs b w) :
    (setupLogging ns : Step σ Unit).Spends b w
      (6 + PollLimits.checks ⟨w.loggingStack, w.pollInterval⟩ 0 * 3) w.loggingStack.nanos l s := by
  have timely : ∀ h, (b.exactTimers w).met h →
      PollLimits.Timely ⟨w.loggingStack, w.pollInterval⟩ h :=
    Blueprint.timely (by simp [Blueprint.pollLimits])
  obtain ⟨rfl, rfl⟩ := id runs
  apply Step.spends_record_bind
  apply (Step.spends_task (deployLogging_spends prompt ns _ interval timely) runs).done
  intro _ l' s' runs'
  exact Step.spends_advance _ _ runs'

theorem setupPool_spends (ns : String) (runs : l.Runs b w) :
    (setupPool ns : Step σ ScaledPool).Spends b w
      (1 + PollLimits.checks ⟨w.nodePool, w.pollInterval⟩ 0 +
        PollLimits.checks ⟨w.collector, w.pollInterval⟩ 0)
      (w.nodePool.nanos + w.collector.nanos) l s := by
  have pool : ∀ h, (b.exactTimers w).met h → PollLimits.Timely ⟨w.nodePool, w.pollInterval⟩ h :=
    Blueprint.timely (by simp [Blueprint.pollLimits])
  have collector : ∀ h, (b.exactTimers w).met h →
      PollLimits.Timely ⟨w.collector, w.pollInterval⟩ h :=
    Blueprint.timely (by simp [Blueprint.pollLimits])
  obtain ⟨rfl, rfl⟩ := id runs
  apply Step.spends_record_bind
  apply (Step.spends_task (scalePool_spends prompt ns _ interval pool collector) runs).done
  intro _ l' s' runs'
  apply (Step.spends_advance _ _ runs').done
  intro _ l'' s'' runs''
  exact Step.spends_pure _ runs''

theorem setupBootstrap_spends (ns : String) (pool : ScaledPool) (runs : l.Runs b w) :
    (setupBootstrap ns pool : Step σ _).Spends b w
      (2 * (1 + PollLimits.checks ⟨b.readySpan, w.pollInterval⟩ 0)) (2 * b.readySpan.nanos)
      l s := by
  have timely : ∀ h, (b.exactTimers w).met h →
      PollLimits.Timely ⟨b.readySpan, w.pollInterval⟩ h :=
    Blueprint.timely (by simp [Blueprint.pollLimits])
  obtain ⟨rfl, rfl⟩ := id runs
  apply Step.spends_record_bind
  apply (Step.spends_task (startGenesis_instant _).spends runs).seq
  intro schedule l₁ s₁ _ runs₁
  apply (Step.spends_task (deployBootstrap_spends prompt _ _ interval timely) runs₁).done
  intro group l₂ s₂ runs₂
  apply (Step.spends_advance _ _ runs₂).done
  intro _ l₃ s₃ runs₃
  exact Step.spends_pure _ runs₃

theorem setupClients_spends (plan : DeploymentPlan) (bootstrap : NodeGroup) {n : Nat}
    (waits : b.readyWaits = 2 + n) (polled : plan.interval = w.pollInterval) (runs : l.Runs b w) :
    (setupClients plan bootstrap : Step σ Network).Spends b w
      (n * (1 + PollLimits.checks ⟨b.readySpan, w.pollInterval⟩ 0)) (n * b.readySpan.nanos)
      l s := by
  have timely : ∀ h, (b.exactTimers w).met h →
      PollLimits.Timely ⟨b.readySpan, w.pollInterval⟩ h :=
    Blueprint.timely (by simp [Blueprint.pollLimits])
  have finish : ∀ (network : Network) (l' : Lifecycle) (s' : Session σ), l'.Runs b w →
      (do
        Step.advance .clientsReady .clientsDeployed
        pure network : Step σ Network).Spends b w 0 0 l' s' := by
    intro network l' s' runs'
    apply (Step.spends_advance _ _ runs').done
    intro _ l'' s'' runs''
    exact Step.spends_pure _ runs''
  rw [← polled] at interval timely ⊢
  obtain ⟨rfl, -⟩ := id runs
  apply Step.spends_record_bind
  apply (Step.spends_task (Task.instant_ofConfig _).spends runs).seq
  intro pod l₁ s₁ _ runs₁
  have first := Step.spends_task (p := .clientsReady) (s := s₁)
    (deployClients_spends prompt plan clientGroup l.blueprint.client pod interval timely) runs₁
  unfold Blueprint.readyWaits at waits
  cases v2 : l.blueprint.clientv2 with
  | none =>
    rw [v2] at waits
    dsimp only at waits
    obtain rfl : n = 1 := by omega
    simp only [pure_bind, Nat.one_mul]
    exact first.done fun _ => finish _
  | some node =>
    rw [v2] at waits
    dsimp only at waits
    obtain rfl : n = 2 := by omega
    simp only [pure_bind, Nat.two_mul]
    apply first.bind
    intro clients l₂ s₂ _ runs₂
    apply (Step.spends_task
      (deployClients_spends prompt plan secondClientGroup _ pod interval timely) runs₂).done
    exact fun _ => finish _

omit prompt interval [Services σ] in
theorem setupGenesis_spends (schedule : GenesisSchedule) (runs : l.Runs b w) :
    (setupGenesis schedule : Step σ Unit).Spends b w 0
      ((schedule.wakes s.clock).nanos - s.clock.nanos) l s := by
  have awaited : (Step.lift (Operation.act schedule.await)).exec l s =
      (.ok (.ok (schedule.left s.clock), l), { s with clock := schedule.wakes s.clock }) := by
    rw [Step.exec_lift, Operation.exec_act, schedule.exec_await]
  have slept : (Step.lift (Operation.act schedule.await) : Step σ Duration).Spends b w 0
      ((schedule.wakes s.clock).nanos - s.clock.nanos) l s := by
    refine ⟨_, _, _, awaited, ⟨List.prefix_rfl, Nat.le_refl _, fun _ => ?_⟩, runs⟩
    dsimp only
    omega
  apply slept.done
  intro _ l' s' runs'
  exact Step.spends_advance _ _ runs'

omit prompt interval [Services σ] in
/-- When its timer is exact, the wait ends at genesis, or at once when more has passed. -/
theorem GenesisSchedule.wakes_within {g : GenesisSchedule} {outset now : Duration} {d : Nat}
    (computed : g.computedAt = outset) (delta : g.delta = b.genesisSpan)
    (after : outset.nanos ≤ now.nanos) (within : now.nanos ≤ outset.nanos + d)
    (exact : now.nanos < (b.due outset).nanos → Timer.Exact now ((b.due outset).remaining now)) :
    (g.wakes now).nanos ≤ outset.nanos + max b.genesisSpan.nanos d := by
  subst computed
  have due : b.due g.computedAt = ⟨g.computedAt.nanos + g.delta.nanos⟩ := by
    rw [delta]
    rfl
  rw [due] at exact
  rw [← delta, g.wakes_of_exact after exact]
  omega

omit prompt interval in
theorem setupBootstrap_exec_ok {ns : String} {pool : ScaledPool} {plan : DeploymentPlan}
    {bootstrap : NodeGroup} {l' : Lifecycle} {s' : Session σ}
    (h : (setupBootstrap ns pool).exec l s = (.ok (.ok (plan, bootstrap), l'), s')) :
    plan.interval = l.settings.waits.pollInterval := by
  obtain ⟨_, _, _, start, h⟩ := Step.exec_bind_ok h
  cases start
  obtain ⟨schedule, _, _, -, h⟩ := Step.exec_bind_ok h
  obtain ⟨group, _, _, -, h⟩ := Step.exec_bind_ok h
  obtain ⟨_, _, _, -, h⟩ := Step.exec_bind_ok h
  cases h
  rfl

/-- The waits for the groups begin when the wait for genesis does, and so the longer of the two
counts. -/
theorem deployGroups_spends (ns : String) (pool : ScaledPool)
    (scaled : .entered .poolScaled s.clock ∈ s.history) (runs : l.Runs b w) :
    (do
      let (plan, bootstrap) ← setupBootstrap ns pool
      let network ← setupClients plan bootstrap
      setupGenesis plan.schedule
      let l ← Step.record
      pure ⟨ns, l.blueprint, network, pool, plan.schedule.genesis, l.indexDate⟩ :
        Step σ Environment).Spends b w
      (b.readyWaits * (1 + PollLimits.checks ⟨b.readySpan, w.pollInterval⟩ 0))
      (max b.genesisSpan.nanos (b.readyWaits * b.readySpan.nanos)) l s := by
  obtain ⟨n, waits⟩ : ∃ n, b.readyWaits = 2 + n := by
    unfold Blueprint.readyWaits
    split
    · exact ⟨1, rfl⟩
    · exact ⟨2, rfl⟩
  rw [waits, Nat.add_mul, Nat.add_mul]
  refine Step.Within.bind (setupBootstrap_spends prompt interval ns pool runs) ?_
    (Nat.le_add_right _ _) (by omega)
  rintro ⟨plan, bootstrap⟩ l₁ s₁ first runs₁ spent₁
  obtain ⟨-, later₁, planned⟩ := (setupBootstrap_leads ns pool rfl).result first
  have computed : plan.schedule.computedAt = s.clock := congrArg _ planned
  have delta : plan.schedule.delta = b.genesisSpan := by
    rw [← runs.blueprint]
    exact congrArg _ planned
  have polled := (setupBootstrap_exec_ok first).trans
    (congrArg WaitSettings.pollInterval runs.waits)
  have clients := setupClients_spends prompt interval plan bootstrap waits polled runs₁ (s := s₁)
  refine Step.Within.bind (clients.after spent₁) ?_ (Nat.le_refl _) (by omega)
  intro network l₂ s₂ second runs₂ spent₂
  obtain ⟨-, groups⟩ := (setupClients_leads bootstrap rfl).result second
  obtain ⟨pre, e, history, -⟩ := groups.found
  have awaited : (do
      setupGenesis plan.schedule
      let l ← Step.record
      pure ⟨ns, l.blueprint, network, pool, plan.schedule.genesis, l.indexDate⟩ :
        Step σ Environment).Spends b w 0
      ((plan.schedule.wakes s₂.clock).nanos - s₂.clock.nanos) l₂ s₂ := by
    apply (setupGenesis_spends plan.schedule runs₂).done
    intro _ l' s' runs'
    exact Step.spends_record_bind (Step.spends_pure _ runs')
  obtain ⟨r, l₃, s₃, third, spent₃, runs₃⟩ := awaited
  refine ⟨r, l₃, s₃, third, ⟨spent₂.history.trans spent₃.history, ?_, fun met => ?_⟩, runs₃⟩
  · exact Nat.le_trans spent₃.calls spent₂.calls
  · have time := spent₂.time ((b.exactTimers w).before spent₃.history met)
    have ready : .entered .clientsReady s₂.clock ∈ s₃.history := by
      apply spent₃.history.subset
      rw [history]
      simp
    have outset : .entered .poolScaled s.clock ∈ s₃.history :=
      (spent₂.history.trans spent₃.history).subset scaled
    have slept := GenesisSchedule.wakes_within computed delta
      (Nat.le_trans later₁.clock groups.told.clock) time (met.genesis _ outset _ ready)
    have waited := spent₃.time met
    omega

omit prompt interval in
theorem setupPool_exec_ok {ns : String} {pool : ScaledPool} {l' : Lifecycle} {s' : Session σ}
    (h : (setupPool ns).exec l s = (.ok (.ok pool, l'), s')) :
    .entered .poolScaled s'.clock ∈ s'.history := by
  obtain ⟨-, before, -, rfl⟩ := (setupPool_leads ns).result h
  rw [Session.history_note]
  exact List.mem_append_right _ List.mem_cons_self

theorem bringUp_spends (runs : l.Runs b w) :
    (bringUp : Step σ Environment).Spends b w (b.mostCalls w) (b.longestSetup w) l s := by
  apply Step.Spends.mono
  · apply (setupNamespace_spends prompt runs).bind
    intro ns l₁ s₁ _ runs₁
    apply (setupLogging_spends prompt interval ns runs₁).bind
    intro _ l₂ s₂ _ runs₂
    apply (setupPool_spends prompt interval ns runs₂).bind
    intro pool l₃ s₃ scaled runs₃
    exact deployGroups_spends prompt interval ns pool (setupPool_exec_ok scaled) runs₃
  · unfold Blueprint.mostCalls
    dsimp only
    omega
  · unfold Blueprint.longestSetup
    omega

end Parts

end ProvingGround
