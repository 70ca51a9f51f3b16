import ProvingGround.Proofs.Setup.Law
import ProvingGround.Proofs.Trace.Answers
import ProvingGround.Proofs.Trace.Kinds

/-!
# What setup does about nodes

The work of a run on its nodes is the part of its trace in which pools of machines are asked for,
deployments of nodes are created, and pods are listed. Each task of setup that gives a value has
added just the work that is its own.
-/

namespace ProvingGround

open Text

variable {σ α β : Type}

/-! ### Work -/

/-- The container of a node in a deployment. -/
def Manifest.node? (m : Manifest) : Option Container := do
  let (_, pods) ← m.deployment?
  pods.containers.find? (·.name == nodeContainer)

/-- The deed is about nodes and their machines. -/
def Deed.isWork : Deed → Bool
  | asked (.createPool _) _ => true
  | asked (.create _ m) _ => m.node?.isSome
  | asked (.listPods ..) _ => true
  | _ => false

/-- The part of a trace that is about nodes and their machines. -/
def workOf (t : List Deed) : List Deed := t.filter Deed.isWork

theorem workOf_append (t n : List Deed) : workOf (t ++ n) = workOf t ++ workOf n :=
  List.filter_append t n

theorem workOf_eq_self {n : List Deed} (h : Among Deed.isWork n) : workOf n = n :=
  List.filter_eq_self.2 h

/-- What only looks at work may look at the work alone. -/
theorem filterMap_workOf {f : Deed → Option α} (h : ∀ d, d.isWork = false → f d = none)
    (t : List Deed) : (workOf t).filterMap f = t.filterMap f := by
  unfold workOf
  rw [List.filterMap_filter]
  congr 1
  funext d
  split
  · rfl
  next idle => exact (h d (eq_false_of_ne_true idle)).symm

/-! ### Tasks without work -/

/-- However the task ends, it adds no work. -/
def Task.Idles (t : Task σ α) : Prop := t.Traces fun _ n => workOf n = []

namespace Task

theorem Idles.bind {t : Task σ α} {u : α → Task σ β} (ht : t.Idles) (hu : ∀ v, (u v).Idles) :
    (t >>= u).Idles := by
  apply Traces.bind ht
  · intro v m idle
    apply (hu v).mono
    intro r n later
    rw [workOf_append, idle, later]
    rfl
  · intro _ _ _ idle _
    exact idle

theorem idles_pure (v : α) : (pure v : Task σ α).Idles := traces_pure rfl

theorem idles_throw (f : Fault) : (throw f : Task σ α).Idles := traces_throw rfl

theorem idles_clock : (clock : Task σ Duration).Idles := by
  apply traces_clock.mono
  rintro r n ⟨-, rfl⟩
  rfl

theorem idles_ofConfig (x : Except ConfigCause α) : (ofConfig x : Task σ α).Idles :=
  traces_ofConfig (fun _ _ => rfl) fun _ _ => rfl

theorem idles_call [Services σ] {c : Call} (h : ∀ x, Deed.isWork (.asked c x) = false) :
    (call c : Task σ c.Answer).Idles := by
  apply traces_call
  intro x
  apply List.filter_cons_of_neg
  rw [h x]
  exact Bool.false_ne_true

theorem idles_lift {a : Act σ α} (h : a.Traces fun _ n => workOf n = []) : (lift a).Idles :=
  traces_lift h

theorem idles_judged {check : Task σ (Option α)} {c : Call}
    {judge : Except Fault c.Answer → Except Fault (Option α)} (hc : check.Traces (Judged c judge))
    (h : ∀ x, Deed.isWork (.asked c x) = false) : check.Idles := by
  apply Traces.mono hc
  rintro _ _ ⟨x, rfl, -⟩
  apply List.filter_cons_of_neg
  rw [h x]
  exact Bool.false_ne_true

theorem idles_poll {what : String} {l : PollLimits} {check : Task σ (Option α)} (h : check.Idles) :
    (poll what l check).Idles := by
  apply (poll_traces h).mono
  intro r n polled
  induction polled with
  | stalled => rfl
  | halted check | ready check | failed check => exact check
  | expired check => exact check.choose_spec.1
  | again check rest ih =>
    obtain ⟨x, idle, -⟩ := check
    rw [workOf_append, idle, ih]
    rfl

end Task

/-! ### Tasks with work -/

/-- When the task gives a value, the work that it has added is as `P` says. -/
def Task.Works (t : Task σ α) (P : α → List Deed → Prop) : Prop :=
  t.Traces fun r n => ∀ v, r = .ok (.ok v) → P v (workOf n)

namespace Task

variable {t : Task σ α} {P : α → List Deed → Prop}

theorem works_pure {v : α} (h : P v []) : (pure v : Task σ α).Works P := by
  apply traces_pure
  rintro _ ⟨⟩
  exact h

theorem works_ofConfig (x : Except ConfigCause α) :
    (ofConfig x : Task σ α).Works fun v n => x = .ok v ∧ n = [] := by
  apply traces_ofConfig
  · rintro v hx _ ⟨⟩
    exact ⟨hx, rfl⟩
  · intro _ _ _ hv
    cases hv

theorem works_call [Services σ] {c : Call} (h : ∀ x, Deed.isWork (.asked c x) = true) :
    (call c : Task σ c.Answer).Works fun v n => n = [.asked c (.ok v)] := by
  apply traces_call
  rintro x v hx
  rw [Except.ok.inj hx]
  exact List.filter_cons_of_pos (h _)

theorem Works.bind {u : α → Task σ β} {T : β → List Deed → Prop} (ht : t.Works P)
    (hu : ∀ v m, P v m → (u v).Works fun w n => T w (m ++ n)) : (t >>= u).Works T := by
  apply Traces.bind ht
  · intro v m given
    apply Traces.mono (hu v _ (given v rfl))
    intro r n later w hw
    rw [workOf_append]
    exact later w hw
  · rintro r x m - stop w rfl
    cases stop

theorem Idles.works_bind {u : α → Task σ β} {T : β → List Deed → Prop} (ht : t.Idles)
    (hu : ∀ v, (u v).Works T) : (t >>= u).Works T := by
  apply Traces.bind ht
  · intro v m idle
    apply Traces.mono (hu v)
    intro r n later
    rw [workOf_append, idle]
    exact later
  · rintro r x m - stop w rfl
    cases stop

/-- A poll by one call about nodes adds the answers to it. -/
theorem works_poll {what : String} {l : PollLimits} {check : Task σ (Option α)} {c : Call}
    {judge : Except Fault c.Answer → Except Fault (Option α)} (hc : check.Traces (Judged c judge))
    (h : ∀ x, Deed.isWork (.asked c x) = true) :
    (poll what l check).Works fun v n => ∃ xs, n = xs.map (.asked c) ∧ EndsWait judge v xs := by
  apply (poll_traces hc).mono
  intro r n polled v hv
  obtain ⟨xs, rfl, ends⟩ := polled.answers hv
  refine ⟨xs, workOf_eq_self ?_, ends⟩
  intro d hd
  obtain ⟨x, -, rfl⟩ := List.mem_map.1 hd
  exact h x

theorem Idles.exec {s later : Session σ} {r : Ending α} (h : t.Idles)
    (ended : t.exec s = (r, later)) : workOf later.deeds = workOf s.deeds := by
  obtain ⟨n, hn, idle⟩ := h s
  have exec : t.attempt.exec s = t.exec s := rfl
  rw [exec, ended] at hn
  rw [hn, workOf_append, idle, List.append_nil]

theorem Works.exec_ok {s later : Session σ} {v : α} (h : t.Works P)
    (ended : t.exec s = (.ok (.ok v), later)) :
    ∃ n, workOf later.deeds = workOf s.deeds ++ n ∧ P v n := by
  obtain ⟨n, hn, given⟩ := h s
  have exec : t.attempt.exec s = t.exec s := rfl
  rw [exec, ended] at hn given
  refine ⟨workOf n, ?_, given v rfl⟩
  rw [hn, workOf_append]

end Task

/-! ### The tasks of setup -/

section Tasks

variable [Services σ]

theorem claimNamespace_idles (ns : String) : (claimNamespace ns : Task σ Unit).Idles := by
  apply Task.Idles.bind (Task.idles_call fun _ => rfl)
  intro existing
  split
  · exact Task.idles_throw _
  · exact Task.idles_call fun _ => rfl

theorem node?_of_mem_loggingStack {ns : String} {store : StoreSettings} {m : Manifest}
    (h : m ∈ loggingStack ns store) : m.node? = none := by
  simp only [loggingStack, List.mem_cons, List.not_mem_nil, or_false] at h
  rcases h with rfl | rfl | rfl | rfl | rfl | rfl <;> rfl

theorem createAll_idles {ns : String} {objects : List Manifest}
    (other : ∀ m ∈ objects, m.node? = none) : (createAll ns objects : Task σ Unit).Idles := by
  induction objects with
  | nil => exact Task.idles_pure ()
  | cons m rest ih =>
    have idle : ∀ x, Deed.isWork (.asked (.create ns m) x) = false := by
      intro x
      simp only [Deed.isWork, other m List.mem_cons_self, Option.isSome_none]
    apply Task.Idles.bind (Task.idles_call idle)
    intro _
    exact ih fun m' hm' => other m' (List.mem_cons_of_mem m hm')

theorem checkServing_idles (ns : String) (workloads : List Workload) :
    (checkServing ns workloads : Task σ _).Idles := by
  induction workloads with
  | nil => exact Task.idles_pure _
  | cons w rest ih =>
    have serving : (isServing ns w : Task σ Bool).Idles := by
      apply Task.Idles.bind (Task.idles_call fun _ => rfl)
      intro counts
      cases counts <;> exact Task.idles_pure _
    apply Task.Idles.bind serving
    intro served
    split
    · exact ih
    · exact Task.idles_pure _

theorem deployLogging_idles (ns : String) (store : StoreSettings) (limits : PollLimits) :
    (deployLogging ns store limits : Task σ Unit).Idles := by
  apply Task.Idles.bind (createAll_idles fun _ => node?_of_mem_loggingStack)
  intro _
  exact Task.idles_poll (checkServing_idles ns _)

theorem awaitTiming_idles (ns : String) (pod : Pod) (l : PollLimits) :
    (awaitTiming ns pod l : Task σ Unit).Idles := by
  have check : (checkTiming ns pod.name : Task σ _).Idles :=
    Task.idles_judged (checkTiming_judged ns pod.name) fun _ => rfl
  apply Task.Idles.bind (Task.idles_lift (Task.idles_poll check))
  intro r
  split
  · exact Task.idles_pure _
  · exact Task.idles_throw _
  · exact Task.idles_throw _

theorem startTiming_idles (ns : String) (pod : Pod) :
    (startTiming ns pod : Task σ Unit).Idles := by
  apply Task.Idles.bind (Task.idles_call fun _ => rfl)
  intro response
  split
  · exact Task.idles_pure _
  · exact Task.idles_throw _

/-- The pool is asked for once, as planned. -/
theorem scalePool_works (ns : String) (b : Blueprint) (w : WaitSettings) :
    (scalePool ns b w : Task σ ScaledPool).Works fun pool n =>
      ∃ r, b.planPool ns = .ok r ∧ pool.name = r.name ∧ pool.nodes = r.nodes ∧
        n = [.asked (.createPool r) (.ok ())] := by
  apply (Task.works_ofConfig _).bind
  rintro r _ ⟨plan, rfl⟩
  apply (Task.works_call fun _ => rfl).bind
  rintro _ _ rfl
  apply Task.idles_clock.works_bind
  intro started
  have pool : (checkPool r.name : Task σ _).Idles :=
    Task.idles_judged (checkPool_judged r.name) fun _ => rfl
  apply (Task.idles_poll pool).works_bind
  intro _
  apply Task.idles_clock.works_bind
  intro finished
  have collector : (checkCollector ns r.nodes : Task σ _).Idles :=
    Task.idles_judged (checkCollector_judged ns r.nodes) fun _ => rfl
  apply (Task.idles_poll collector).works_bind
  intro _
  exact Task.works_pure ⟨r, plan, rfl, rfl, rfl⟩

/-- The deployment of a group has been created, and its pods have been listed up to a list of the
whole group. -/
structure Deployed (ns : String) (group : NodeSpec × Manifest) (g : NodeGroup) (n : List Deed) :
    Prop where
  name : g.name = group.2.name
  ns_eq : g.ns = ns
  work : ∃ lists, EndsWait (groupVerdict (wantedPods group.1.replicas)) g.pods lists ∧
    n = .asked (.create ns group.2) (.ok ()) ::
      lists.map (.asked (.listPods ns (podSelector g.name)))

theorem awaitGroup_works (ns : String) (group : NodeSpec × Manifest) (l : PollLimits) :
    (awaitGroup ns group.2.name group.1.replicas l : Task σ NodeGroup).Works fun g n =>
      Deployed ns group g (.asked (.create ns group.2) (.ok ()) :: n) := by
  apply (Task.works_poll (checkGroup_judged ns group.2.name _) fun _ => rfl).bind
  rintro pods _ ⟨lists, rfl, ends⟩
  apply Task.works_pure
  rw [List.append_nil]
  exact ⟨rfl, rfl, lists, ends, rfl⟩

theorem isWork_create {ns : String} {m : Manifest} {c : Container} (node : m.node? = some c) :
    ∀ x, Deed.isWork (.asked (.create ns m) x) = true := by
  intro x
  simp only [Deed.isWork, node, Option.isSome_some]

theorem DeploymentPlan.deployBootstrap_works (p : DeploymentPlan) (s : NodeSpec)
    (timeout : Duration) :
    (p.deployBootstrap s timeout : Task σ NodeGroup).Works
      (Deployed p.ns (s, p.placement.bootstrap s)) := by
  apply (Task.works_call (isWork_create rfl)).bind
  rintro _ _ rfl
  apply (awaitGroup_works p.ns (s, p.placement.bootstrap s) _).bind
  intro g n deployed
  apply (Task.idles_ofConfig _).works_bind
  intro pod
  apply (awaitTiming_idles _ _ _).works_bind
  intro _
  apply (startTiming_idles _ _).works_bind
  intro _
  apply Task.works_pure
  rw [List.append_nil]
  exact deployed

theorem DeploymentPlan.deployClients_works (p : DeploymentPlan) (group : String) (s : NodeSpec)
    (pod : Pod) (timeout : Duration) :
    (p.deployClients group s pod timeout : Task σ NodeGroup).Works
      (Deployed p.ns (s, p.placement.clients group s pod)) := by
  apply (Task.works_call (isWork_create rfl)).bind
  rintro _ _ rfl
  exact awaitGroup_works p.ns (s, p.placement.clients group s pod) _

end Tasks

end ProvingGround
