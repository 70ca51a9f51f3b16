import ProvingGround.Proofs.Lifecycle.Exec
import ProvingGround.Proofs.Setup.Causes
import ProvingGround.Proofs.Setup.Genesis
import ProvingGround.Proofs.Trace.Lockstep

/-!
# Setup in two worlds, one of which falters

Where one world tells setup that something is not ready yet, another one fails with a transient
fault. Every check makes the same of both, and with the checks the polls, the tasks and the parts of
setup stay in lockstep.
-/

namespace ProvingGround

open Text

variable {σ τ α β : Type}

/-! ### Answers that find nothing ready -/

/-- The groups of the network, with their replicas. -/
def Blueprint.headcounts (b : Blueprint) : List (String × Int) :=
  (bootstrapGroup, b.bootstrap.replicas) :: b.clientGroups.map fun g => (g.1, g.2.replicas)

theorem Blueprint.headcounts_overrideImages (b : Blueprint) (image : String) :
    (b.overrideImages image).headcounts = b.headcounts := by
  unfold overrideImages
  split
  · rfl
  · unfold headcounts clientGroups
    cases b.clientv2 with
    | none => rfl
    | some v2 =>
      simp only [Option.map_some]
      split <;> rfl

/-- The check of setup that reads the answer finds nothing ready yet. Until the pool is created
workloads have to serve; from then on they have to cover its machines. -/
def Unready (b : Blueprint) (machines : Option Nat) : (c : Call) → c.Answer → Prop
  | .workloadStatus _ _, status =>
    match machines with
    | none => status.any (·.isServing) = false
    | some n => status.any (·.covers n) = false
  | .poolStatus _, status => status = none ∨ status = some .provisioning
  | .listPods _ selector, pods => ∀ g ∈ b.headcounts, podSelector g.1 = selector →
    isWholeGroup (wantedPods g.2) pods = false
  | .podLogs _ _ _, log => holds log timingPhrase = false
  | _, _ => False

/-- The machines of the pool after a call, once it is created. -/
def Call.machines (before : Option Nat) : Call → Option Nat
  | .createPool r => some r.nodes
  | _ => before

/-- An answer and the one in its place: the same, or a transient fault where nothing is ready. -/
inductive Faltered (b : Blueprint) (machines : Option Nat) (c : Call) :
    Except Fault c.Answer → Except Fault c.Answer → Prop where
  | same (x) : Faltered b machines c x x
  | excuse {a f} (unready : Unready b machines c a) (transient : f.isTransient = true) :
    Faltered b machines c (.ok a) (.error f)

/-- The second of two worlds answers as the first does and after the same delays, but for transient
faults where the first one's answers find nothing ready; and so it stays. -/
structure Falters [Services σ] [Services τ] (b : Blueprint) (W : Option Nat → σ → τ → Prop) :
    Prop where
  delay {machines w w'} (h : W machines w w') (now c) :
    (Services.respond w' now c).1.delay = (Services.respond w now c).1.delay
  result {machines w w'} (h : W machines w w') (now c) :
    Faltered b machines c (Services.respond w now c).1.result (Services.respond w' now c).1.result
  next {machines w w'} (h : W machines w w') (now c) :
    W (c.machines machines) (Services.respond w now c).2 (Services.respond w' now c).2

theorem Faltered.of_headcounts {b b' : Blueprint} (same : b'.headcounts = b.headcounts)
    {machines : Option Nat} {c : Call} {x y : Except Fault c.Answer}
    (h : Faltered b machines c x y) : Faltered b' machines c x y := by
  cases h with
  | same => exact .same x
  | @excuse a f unready transient =>
    refine .excuse ?_ transient
    cases c with
    | listPods =>
      unfold Unready at unready ⊢
      rw [same]
      exact unready
    | _ => exact unready

theorem Falters.of_headcounts [Services σ] [Services τ] {b b' : Blueprint}
    {W : Option Nat → σ → τ → Prop} (falters : Falters b W)
    (same : b'.headcounts = b.headcounts) : Falters b' W :=
  ⟨falters.delay, fun h now c => (falters.result h now c).of_headcounts same, falters.next⟩

variable [Services σ] [Services τ] {b : Blueprint} {W : Option Nat → σ → τ → Prop}
  {machines : Option Nat}

/-! ### Calls -/

section Calls

variable (falters : Falters b W)

include falters

/-- What no check reads is answered in the same way. -/
theorem lockstep_unread (c : Call) (unread : ∀ a, ¬ Unready b machines c a) :
    Task.Lockstep (W machines) (Task.call c : Task σ _) (Task.call c : Task τ _)
      fun _ => W (c.machines machines) := by
  apply Task.lockstep_call
  intro w w' now worlds
  refine ⟨?_, falters.next worlds now c⟩
  have delay := falters.delay worlds now c
  have result := falters.result worlds now c
  generalize (Services.respond w now c).1 = x at delay result ⊢
  generalize (Services.respond w' now c).1 = y at delay result ⊢
  obtain ⟨d, r⟩ := x
  obtain ⟨d', r'⟩ := y
  cases result with
  | same =>
    cases delay
    rfl
  | excuse unready => exact absurd unready (unread _)

/-- A check that goes on from an answer, and says not yet when the answer finds nothing ready. -/
theorem indistinct_call {c : Call} {k : c.Answer → Task σ (Option α)}
    {k' : c.Answer → Task τ (Option α)} (stays : c.machines machines = machines)
    (next : ∀ a, Task.Indistinct (W machines) (k a) (k' a))
    (idle : ∀ a, Unready b machines c a → k a = pure none) :
    Task.Indistinct (W machines) (Task.call c >>= k) (Task.call c >>= k') := by
  intro s s' alike worlds
  have delay := falters.delay worlds s.clock c
  have result := falters.result worlds s.clock c
  have later := falters.next worlds s.clock c
  have seen := alike.exchange delay
  rw [stays] at later
  have left : (Task.call c).exec s = (.ok (Services.respond s.world s.clock c).1.result,
    (Act.exchange .exchanged c s).2) := rfl
  have right : (Task.call c).exec s' = (.ok (Services.respond s'.world s.clock c).1.result,
      (Act.exchange .exchanged c s').2) := by
    rw [← alike.clock]
    rfl
  have worlds : W machines (Act.exchange .exchanged c s).2.world
      (Act.exchange .exchanged c s').2.world := by
    simp only [Act.exchange, alike.clock]
    exact later
  rw [Task.exec_bind, Task.exec_bind, left, right]
  generalize (Services.respond s.world s.clock c).1.result = x at result ⊢
  generalize (Services.respond s'.world s.clock c).1.result = y at result ⊢
  cases result with
  | same =>
    cases x with
    | error f => exact ⟨.error f, .error f, _, _, rfl, rfl, rfl, seen, worlds⟩
    | ok a => exact next a _ _ seen worlds
  | @excuse a f unready transient =>
    dsimp only
    rw [idle a unready]
    refine ⟨.ok none, .error f, _, _, rfl, rfl, ?_, seen, worlds⟩
    simp only [Verdict.of, transient, if_true]

end Calls

/-! ### Checks -/

omit [Services τ] in
theorem checkServing_cons (ns : String) (w : Workload) (rest : List Workload) :
    (checkServing ns (w :: rest) : Task σ _) = Task.call (.workloadStatus ns w) >>= fun status =>
      if status.any (·.isServing) then checkServing ns rest else pure none := by
  have serving : (isServing ns w : Task σ Bool) = Task.call (.workloadStatus ns w) >>= fun status =>
      pure (status.any (·.isServing)) := by
    unfold isServing
    congr 1
    funext status
    cases status <;> rfl
  have pass : (checkServing ns (w :: rest) : Task σ _) = isServing ns w >>= fun serves =>
      if serves then checkServing ns rest else pure none := rfl
  rw [pass, serving, bind_assoc]
  simp only [pure_bind]

section Checks

variable (falters : Falters b W)

include falters

theorem checkServing_indistinct (ns : String) (ws : List Workload) :
    Task.Indistinct (W none) (checkServing ns ws : Task σ _) (checkServing ns ws : Task τ _) := by
  induction ws with
  | nil => exact Task.indistinct_pure _
  | cons w rest ih =>
    rw [checkServing_cons, checkServing_cons]
    apply indistinct_call falters rfl
    · intro status
      split
      · exact ih
      · exact Task.indistinct_pure _
    · intro status unready
      have unready : status.any (·.isServing) = false := unready
      rw [unready]
      rfl

theorem checkPool_indistinct (name : String) :
    Task.Indistinct (W machines) (checkPool name : Task σ _) (checkPool name : Task τ _) := by
  apply indistinct_call falters rfl
  · intro status
    split
    · exact Task.indistinct_pure _
    · exact Task.indistinct_throw _
    · exact Task.indistinct_pure _
    · exact Task.indistinct_pure _
  · rintro status (rfl | rfl) <;> rfl

theorem checkCollector_indistinct (ns : String) (nodes : Nat) :
    Task.Indistinct (W (some nodes)) (checkCollector ns nodes : Task σ _)
      (checkCollector ns nodes : Task τ _) := by
  apply indistinct_call falters rfl
  · intro status
    cases status <;> exact Task.indistinct_pure _
  · intro status unready
    have unready : status.any (·.covers nodes) = false := unready
    cases status with
    | none => rfl
    | some counts =>
      have unready : counts.covers nodes = false := unready
      simp only [unready, Bool.false_eq_true, if_false]

theorem checkGroup_indistinct {group : String} {replicas : Int}
    (member : (group, replicas) ∈ b.headcounts) (ns : String) :
    Task.Indistinct (W machines) (checkGroup ns group (wantedPods replicas) : Task σ _)
      (checkGroup ns group (wantedPods replicas) : Task τ _) := by
  apply indistinct_call falters rfl
  · intro pods
    exact Task.indistinct_pure _
  · intro pods unready
    have partial_ : isWholeGroup (wantedPods replicas) pods = false := unready _ member rfl
    simp only [partial_, Bool.false_eq_true, if_false]

theorem checkTiming_indistinct (ns pod : String) :
    Task.Indistinct (W machines) (checkTiming ns pod : Task σ _)
      (checkTiming ns pod : Task τ _) := by
  apply indistinct_call falters rfl
  · intro log
    exact Task.indistinct_pure _
  · intro log unready
    have silent : holds log timingPhrase = false := unready
    simp only [silent, Bool.false_eq_true, if_false]

end Checks

/-! ### Tasks -/

section Tasks

variable (falters : Falters b W)

include falters

theorem claimNamespace_lockstep (ns : String) :
    Task.Lockstep (W machines) (claimNamespace ns : Task σ Unit) (claimNamespace ns : Task τ Unit)
      fun _ => W machines := by
  apply (lockstep_unread falters .listNamespaces fun _ h => h).bind
  intro existing
  split
  · exact Task.lockstep_throw _
  · exact lockstep_unread falters (.createNamespace ns) fun _ h => h

theorem createAll_lockstep (ns : String) (objects : List Manifest) :
    Task.Lockstep (W machines) (createAll ns objects : Task σ Unit)
      (createAll ns objects : Task τ Unit) fun _ => W machines := by
  induction objects with
  | nil => exact Task.lockstep_pure fun _ _ h => h
  | cons m rest ih =>
    apply (lockstep_unread falters (.create ns m) fun _ h => h).bind
    intro _
    exact ih

theorem deployLogging_lockstep (ns : String) (store : StoreSettings) (limits : PollLimits) :
    Task.Lockstep (W none) (deployLogging ns store limits : Task σ Unit)
      (deployLogging ns store limits : Task τ Unit) fun _ => W none := by
  apply (createAll_lockstep falters ns _).bind
  intro _
  exact poll_lockstep _ _ (checkServing_indistinct falters ns _)

theorem scalePool_lockstep (ns : String) (b' : Blueprint) (w : WaitSettings) :
    Task.Lockstep (W none) (scalePool ns b' w : Task σ ScaledPool)
      (scalePool ns b' w : Task τ ScaledPool) fun pool => W (some pool.nodes) := by
  apply (Task.lockstep_ofConfig (b'.planPool ns)).bind
  intro request
  apply (lockstep_unread falters (.createPool request) fun _ h => h).bind
  intro _
  apply (Task.lockstep_lift Act.lockstep_clock).bind
  intro started
  apply (poll_lockstep _ _ (checkPool_indistinct falters _)).bind
  intro _
  apply (Task.lockstep_lift Act.lockstep_clock).bind
  intro finished
  apply (poll_lockstep _ _ (checkCollector_indistinct falters ns _)).bind
  intro _
  exact Task.lockstep_pure fun _ _ h => h

omit falters [Services σ] [Services τ] in
theorem startGenesis_lockstep (delta : Duration) :
    Task.Lockstep (W machines) (GenesisSchedule.start delta : Task σ _)
      (GenesisSchedule.start delta : Task τ _) fun _ => W machines := by
  apply (Task.lockstep_lift Act.lockstep_clock).bind
  intro clock
  apply (Task.lockstep_lift Act.lockstep_today).bind
  intro now
  exact Task.lockstep_ofConfig _

theorem awaitGroup_lockstep {group : String} {replicas : Int}
    (member : (group, replicas) ∈ b.headcounts) (ns : String) (l : PollLimits) :
    Task.Lockstep (W machines) (awaitGroup ns group replicas l : Task σ NodeGroup)
      (awaitGroup ns group replicas l : Task τ NodeGroup) fun _ => W machines := by
  apply (poll_lockstep _ _ (checkGroup_indistinct falters member ns)).bind
  intro pods
  exact Task.lockstep_pure fun _ _ h => h

/-- A poll of the log that ends without a value is told in the words of the timing service. -/
theorem awaitTiming_lockstep (ns : String) (pod : Pod) (l : PollLimits) :
    Task.Lockstep (W machines) (awaitTiming ns pod l : Task σ Unit)
      (awaitTiming ns pod l : Task τ Unit) fun _ => W machines := by
  have check : Task.Indistinct (W machines) _ _ := checkTiming_indistinct falters ns pod.name
  have polled := poll_lockstep "timing service log" l check
  apply (Task.lockstep_lift polled).bind
  intro x
  split
  · exact Task.lockstep_pure fun _ _ h => h _ rfl
  · exact Task.lockstep_throw _
  · exact Task.lockstep_throw _

theorem startTiming_lockstep (ns : String) (pod : Pod) :
    Task.Lockstep (W machines) (startTiming ns pod : Task σ Unit) (startTiming ns pod : Task τ Unit)
      fun _ => W machines := by
  apply (lockstep_unread falters (.startTiming ns pod timingStart) fun _ h => h).bind
  intro response
  split
  · exact Task.lockstep_pure fun _ _ h => h
  · exact Task.lockstep_throw _

theorem deployBootstrap_lockstep (p : DeploymentPlan) {spec : NodeSpec}
    (member : (bootstrapGroup, spec.replicas) ∈ b.headcounts) (timeout : Duration) :
    Task.Lockstep (W machines) (p.deployBootstrap spec timeout : Task σ NodeGroup)
      (p.deployBootstrap spec timeout : Task τ NodeGroup) fun _ => W machines := by
  apply (lockstep_unread falters (.create p.ns _) fun _ h => h).bind
  intro _
  apply (awaitGroup_lockstep falters member _ _).bind
  intro group
  apply (Task.lockstep_ofConfig _).bind
  intro pod
  apply (awaitTiming_lockstep falters _ pod _).bind
  intro _
  apply (startTiming_lockstep falters _ pod).bind
  intro _
  exact Task.lockstep_pure fun _ _ h => h

theorem deployClients_lockstep (p : DeploymentPlan) {group : String} {spec : NodeSpec}
    (member : (group, spec.replicas) ∈ b.headcounts) (pod : Pod) (timeout : Duration) :
    Task.Lockstep (W machines) (p.deployClients group spec pod timeout : Task σ NodeGroup)
      (p.deployClients group spec pod timeout : Task τ NodeGroup) fun _ => W machines := by
  apply (lockstep_unread falters (.create p.ns _) fun _ h => h).bind
  intro _
  exact awaitGroup_lockstep falters member _ _

end Tasks

/-! ### Steps -/

section Steps

variable {V : σ → τ → Prop} {V' : α → σ → τ → Prop} {V'' : β → σ → τ → Prop}

omit [Services σ] [Services τ]

/-- On a run of the blueprint, two steps in lockstep; with a value the run is still one of the
blueprint. -/
def Step.Lockstep (b : Blueprint) (V : σ → τ → Prop) (t : Step σ α) (t' : Step τ α)
    (V' : α → σ → τ → Prop) : Prop :=
  ∀ (l : Lifecycle) (s : Session σ) (s' : Session τ), l.blueprint = b → s.Alike s' →
    V s.world s'.world → ∃ r m m', t.exec l s = (r, m) ∧ t'.exec l s' = (r, m') ∧ m.Alike m' ∧
      ∀ v l', r = .ok (.ok v, l') → l'.blueprint = b ∧ V' v m.world m'.world

namespace Step

theorem Lockstep.bind {t : Step σ α} {t' : Step τ α} {k : α → Step σ β} {k' : α → Step τ β}
    (ht : Lockstep b V t t' V') (hk : ∀ v, Lockstep b (V' v) (k v) (k' v) V'') :
    Lockstep b V (t >>= k) (t' >>= k') V'' := by
  intro l s s' hb alike worlds
  obtain ⟨r, m, m', he, he', alike, ended⟩ := ht l s s' hb alike worlds
  rw [exec_bind, exec_bind, he, he']
  match r with
  | .error halt => exact ⟨.error halt, m, m', rfl, rfl, alike, fun _ _ hv => nomatch hv⟩
  | .ok (.error f, l') =>
    exact ⟨.ok (.error f, l'), m, m', rfl, rfl, alike, fun _ _ hv => nomatch hv⟩
  | .ok (.ok v, l') =>
    obtain ⟨hb, worlds⟩ := ended v l' rfl
    exact hk v l' m m' hb alike worlds

theorem lockstep_pure {v : α} (keep : ∀ w w', V w w' → V' v w w') :
    Lockstep b V (pure v : Step σ α) (pure v : Step τ α) V' := by
  intro l s s' hb alike worlds
  refine ⟨.ok (.ok v, l), s, s', rfl, rfl, alike, fun x l' hx => ?_⟩
  cases hx
  exact ⟨hb, keep _ _ worlds⟩

theorem lockstep_record_bind {k : Lifecycle → Step σ β} {k' : Lifecycle → Step τ β}
    (hk : ∀ l, l.blueprint = b → Lockstep b V (k l) (k' l) V'') :
    Lockstep b V (record >>= k) (record >>= k') V'' := by
  intro l s s' hb alike worlds
  rw [exec_bind, exec_bind, exec_record, exec_record]
  exact hk l hb l s s' hb alike worlds

theorem lockstep_update {f : Lifecycle → Lifecycle}
    (same : ∀ l, (f l).blueprint = l.blueprint) :
    Lockstep b V (update f : Step σ Unit) (update f : Step τ Unit) fun _ => V := by
  intro l s s' hb alike worlds
  refine ⟨.ok (.ok (), f l), s, s', rfl, rfl, alike, fun x l' hx => ?_⟩
  cases hx
  exact ⟨(same l).trans hb, worlds⟩

theorem lockstep_task {p : Phase} {a : Task σ α} {a' : Task τ α}
    (h : Task.Lockstep V a a' V') : Lockstep b V (task p a) (task p a') V' := by
  intro l s s' hb alike worlds
  obtain ⟨r, m, m', ha, ha', alike, ended⟩ := h.exec alike worlds
  have attempt : a.attempt.exec s = (r, m) := ha
  have attempt' : a'.attempt.exec s' = (r, m') := ha'
  unfold task
  rw [exec_bind, exec_bind, exec_lift, exec_lift, Operation.exec_act, Operation.exec_act, attempt,
    attempt']
  match r with
  | .error halt => exact ⟨.error halt, m, m', rfl, rfl, alike, fun _ _ hv => nomatch hv⟩
  | .ok (.error f) =>
    exact ⟨.ok (.error ⟨p, f⟩, l), m, m', rfl, rfl, alike, fun _ _ hv => nomatch hv⟩
  | .ok (.ok v) =>
    refine ⟨.ok (.ok v, l), m, m', rfl, rfl, alike, fun x l' hx => ?_⟩
    cases hx
    exact ⟨hb, ended v rfl⟩

theorem lockstep_act {a : Act σ α} {a' : Act τ α} (h : Act.Lockstep V a a' V') :
    Lockstep b V (lift (Operation.act a)) (lift (Operation.act a')) V' := by
  intro l s s' hb alike worlds
  obtain ⟨r, m, m', ha, ha', alike, ended⟩ := h s s' alike worlds
  rw [exec_lift, exec_lift, Operation.exec_act, Operation.exec_act, ha, ha']
  cases r with
  | error halt => exact ⟨.error halt, m, m', rfl, rfl, alike, fun _ _ hv => nomatch hv⟩
  | ok v =>
    refine ⟨.ok (.ok v, l), m, m', rfl, rfl, alike, fun x l' hx => ?_⟩
    cases hx
    exact ⟨hb, ended v rfl⟩

theorem lockstep_advance (p : Phase) (tr : Trigger) :
    Lockstep b V (advance p tr : Step σ Unit) (advance p tr : Step τ Unit) fun _ => V := by
  intro l s s' hb alike worlds
  cases edge : Transition.find? l.phase tr with
  | none =>
    rw [exec_advance_none edge, exec_advance_none edge]
    exact ⟨_, s, s', rfl, rfl, alike, fun _ _ hv => nomatch hv⟩
  | some e =>
    rw [exec_advance_some edge, exec_advance_some edge, alike.clock]
    refine ⟨_, _, _, rfl, rfl, alike.note rfl, fun x l' hx => ?_⟩
    cases hx
    exact ⟨hb, worlds⟩

end Step

end Steps

/-! ### Parts of setup -/

section Parts

variable (falters : Falters b W)

omit [Services σ] [Services τ] in
theorem GenesisSchedule.await_lockstep {V : σ → τ → Prop} (schedule : GenesisSchedule) :
    Act.Lockstep V (schedule.await : Act σ _) (schedule.await : Act τ _) fun _ => V := by
  intro s s' alike worlds
  rw [schedule.exec_await, schedule.exec_await, alike.clock]
  exact ⟨_, _, _, rfl, rfl, alike.wait _, fun _ _ => worlds⟩

include falters

theorem setupNamespace_lockstep :
    Step.Lockstep b (W none) (setupNamespace : Step σ String) (setupNamespace : Step τ String)
      fun _ => W none := by
  apply Step.lockstep_record_bind
  intro l _
  apply (Step.lockstep_task (claimNamespace_lockstep falters _)).bind
  intro _
  refine Step.Lockstep.bind (Step.lockstep_update ?_) ?_
  · intro l
    rfl
  intro _
  exact Step.lockstep_pure fun _ _ h => h

theorem setupLogging_lockstep (ns : String) :
    Step.Lockstep b (W none) (setupLogging ns : Step σ Unit) (setupLogging ns : Step τ Unit)
      fun _ => W none := by
  apply Step.lockstep_record_bind
  intro l _
  apply (Step.lockstep_task (deployLogging_lockstep falters ns _ _)).bind
  intro _
  exact Step.lockstep_advance _ _

theorem setupPool_lockstep (ns : String) :
    Step.Lockstep b (W none) (setupPool ns : Step σ ScaledPool) (setupPool ns : Step τ ScaledPool)
      fun pool => W (some pool.nodes) := by
  apply Step.lockstep_record_bind
  intro l _
  apply (Step.lockstep_task (scalePool_lockstep falters ns _ _)).bind
  intro pool
  apply (Step.lockstep_advance _ _).bind
  intro _
  exact Step.lockstep_pure fun _ _ h => h

theorem setupBootstrap_lockstep (ns : String) (pool : ScaledPool) :
    Step.Lockstep b (W machines) (setupBootstrap ns pool : Step σ _)
      (setupBootstrap ns pool : Step τ _) fun _ => W machines := by
  apply Step.lockstep_record_bind
  intro l hb
  have member : (bootstrapGroup, l.blueprint.bootstrap.replicas) ∈ b.headcounts := by
    rw [hb]
    exact List.mem_cons_self
  apply (Step.lockstep_task (startGenesis_lockstep _)).bind
  intro schedule
  apply (Step.lockstep_task (deployBootstrap_lockstep falters _ member _)).bind
  intro group
  apply (Step.lockstep_advance _ _).bind
  intro _
  exact Step.lockstep_pure fun _ _ h => h

theorem setupClients_lockstep (plan : DeploymentPlan) (bootstrap : NodeGroup) :
    Step.Lockstep b (W machines) (setupClients plan bootstrap : Step σ Network)
      (setupClients plan bootstrap : Step τ Network) fun _ => W machines := by
  apply Step.lockstep_record_bind
  rintro l rfl
  have first : (clientGroup, l.blueprint.client.replicas) ∈ l.blueprint.headcounts := by
    simp [Blueprint.headcounts, Blueprint.clientGroups]
  apply (Step.lockstep_task (Task.lockstep_ofConfig _)).bind
  intro pod
  apply (Step.lockstep_task (deployClients_lockstep falters _ first pod _)).bind
  intro clients
  have finish : ∀ network : Network,
      Step.Lockstep l.blueprint (W machines)
        (do
          Step.advance .clientsReady .clientsDeployed
          pure network : Step σ Network)
        (do
          Step.advance .clientsReady .clientsDeployed
          pure network : Step τ Network) fun _ => W machines := by
    intro network
    apply (Step.lockstep_advance _ _).bind
    intro _
    exact Step.lockstep_pure fun _ _ h => h
  cases v2 : l.blueprint.clientv2 with
  | none =>
    simp only [pure_bind]
    exact finish _
  | some node =>
    have second : (secondClientGroup, node.node.replicas) ∈ l.blueprint.headcounts := by
      simp [Blueprint.headcounts, Blueprint.clientGroups, v2]
    simp only [pure_bind]
    apply (Step.lockstep_task (deployClients_lockstep falters _ second pod _)).bind
    intro group
    exact finish _

omit falters [Services σ] [Services τ] in
theorem setupGenesis_lockstep {V : σ → τ → Prop} (schedule : GenesisSchedule) :
    Step.Lockstep b V (setupGenesis schedule : Step σ Unit) (setupGenesis schedule : Step τ Unit)
      fun _ => V := by
  apply (Step.lockstep_act schedule.await_lockstep).bind
  intro _
  exact Step.lockstep_advance _ _

theorem bringUp_lockstep :
    Step.Lockstep b (W none) (bringUp : Step σ Environment) (bringUp : Step τ Environment)
      fun env => W (some env.pool.nodes) := by
  apply (setupNamespace_lockstep falters).bind
  intro ns
  apply (setupLogging_lockstep falters ns).bind
  intro _
  apply (setupPool_lockstep falters ns).bind
  intro pool
  apply (setupBootstrap_lockstep falters ns pool).bind
  rintro ⟨plan, bootstrap⟩
  apply (setupClients_lockstep falters plan bootstrap).bind
  intro network
  apply (setupGenesis_lockstep plan.schedule).bind
  intro _
  apply Step.lockstep_record_bind
  intro l _
  exact Step.lockstep_pure fun _ _ h => h

end Parts

end ProvingGround
