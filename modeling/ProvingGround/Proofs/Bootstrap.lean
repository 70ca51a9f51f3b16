import ProvingGround.Proofs.Lifecycle.Requests
import ProvingGround.Proofs.Setup.Groups
import ProvingGround.Proofs.Trace.Looks

/-!
# How the bootstrap group comes up, or does not

The deployment of the bootstrap group creates it, waits for its pods, waits for the log of the
timing service and starts the service. Two waits with one limit can expire, and every call can fail.
What was asked, and what was answered, tells which of them it was, and so does the result.
-/

namespace ProvingGround

open Text

variable {σ : Type} {p : DeploymentPlan} {s : NodeSpec} {timeout : Duration}

/-! ### Faults -/

/-- The fault is one that the deployment finds on its own, whatever the services say. -/
def Fault.isFinding : Fault → Bool
  | readinessTimeout .. | dependencyNotReady .. | initialization _ => true
  | _ => false

/-- The fault that a call was answered with. -/
def Event.fault? : Event → Option Fault
  | exchanged ⟨_, _, _, .error f⟩ => some f
  | probed ⟨_, _, _, .error f⟩ => some f
  | _ => none

/-- The fault that the last of the events was answered with. -/
def lastFault (h : List Event) : Option Fault := h.getLast?.bind Event.fault?

/-- No call was answered with a fault that the deployment finds on its own. -/
def PlainlyAnswered (h : List Event) : Prop :=
  ∀ e ∈ h, ∀ f, e.fault? = some f → f.isFinding = false

theorem PlainlyAnswered.last {h : List Event} {f : Fault} (plain : PlainlyAnswered h)
    (last : lastFault h = some f) : f.isFinding = false := by
  obtain ⟨e, final, answered⟩ := Option.bind_eq_some_iff.1 last
  exact plain e (List.mem_of_getLast? final) f answered

theorem lastFault_append {h n : List Event} {f : Fault} (last : lastFault n = some f) :
    lastFault (h ++ n) = some f := by
  obtain ⟨e, final, answered⟩ := Option.bind_eq_some_iff.1 last
  unfold lastFault
  rw [List.getLast?_append, final]
  exact answered

theorem Look.fault?_event {c : Call} {look : Look c.Answer} {f : Fault}
    (failed : look.answer = .error f) : (look.event c).fault? = some f := by
  unfold Look.event Event.fault?
  rw [failed]

theorem WaitEnds.lastFault {c : Call} {met : c.Answer → Prop} {limit : Nat}
    {looks : List (Look c.Answer)} {f : Fault} (h : WaitEnds met limit looks (.failed f)) :
    lastFault (looks.map (Look.event c)) = some f := by
  obtain ⟨earlier, last, rfl, -, failed, -⟩ := h
  rw [List.map_append]
  exact lastFault_append (Look.fault?_event failed)

/-- What a fault of the wait for the log of a pod becomes. -/
def blamed (pod : Pod) : Fault → Fault
  | .readinessTimeout _ timeout => .dependencyNotReady pod.name timingPhrase timeout
  | f => f

theorem blamed_of_plain {pod : Pod} {f : Fault} (plain : f.isFinding = false) :
    blamed pod f = f := by
  cases f <;> first | rfl | cases plain

/-- What is made of the answer to the start of the timing service. -/
def startVerdict : Except Fault String → Except Fault Unit
  | .ok response => if trim response = "\x7b\x7d" then .ok () else .error (.initialization response)
  | .error f => .error f

/-! ### Attempts -/

/-- What was asked about the timing service on a pod: its log, time and again, and then to start. -/
structure TimingAttempt where
  pod : Pod
  logs : List (Look String)
  start : Option (Look String)

/-- What was asked when the bootstrap group was deployed: to create it, for its pods, time and
again, and about its timing service. -/
structure BootstrapAttempt where
  created : Look Unit
  pods : List (Look (List Pod))
  timing : Option TimingAttempt

def TimingAttempt.events (ns : String) (t : TimingAttempt) : List Event :=
  t.logs.map (Look.event (.podLogs ns t.pod.name timingContainer)) ++
    (t.start.map (Look.event (.startTiming ns t.pod timingStart))).toList

theorem TimingAttempt.events_unasked (ns : String) (pod : Pod) (logs : List (Look String)) :
    events ns ⟨pod, logs, none⟩ = logs.map (Look.event (.podLogs ns pod.name timingContainer)) := by
  rw [events, Option.map_none, Option.toList_none, List.append_nil]

/-- The log says that the timing service listens. -/
def Listens (log : String) : Prop := timingPhrase.toList <:+: log.toList

namespace BootstrapAttempt

/-- All that is left of the attempt in the history, in order. -/
def events (p : DeploymentPlan) (s : NodeSpec) (a : BootstrapAttempt) : List Event :=
  Look.event (.create p.ns (p.placement.bootstrap s)) a.created ::
    (a.pods.map (Look.event (.listPods p.ns (podSelector bootstrapGroup))) ++
      a.timing.elim [] (·.events p.ns))

/-- The start of the timing service, if it was asked for. -/
def start (a : BootstrapAttempt) : Option (Look String) := a.timing.bind (·.start)

/-- The group was created, and the wait for its pods ended so. -/
def PodsEnd (s : NodeSpec) (timeout : Duration) (a : BootstrapAttempt) (e : WaitEnd (List Pod)) :
    Prop :=
  a.created.answer = .ok () ∧
    WaitEnds (IsWhole s.replicas) (a.created.finish.nanos + timeout.nanos) a.pods e

/-- These pods were found, and the wait for the log of the first of them ended so. -/
def LogEnd (s : NodeSpec) (timeout : Duration) (a : BootstrapAttempt) (pods : List Pod)
    (t : TimingAttempt) (e : WaitEnd String) : Prop :=
  ∃ ready, a.PodsEnd s timeout (.met pods ready) ∧ a.timing = some t ∧ pods.head? = some t.pod ∧
    WaitEnds Listens (ready.nanos + timeout.nanos) t.logs e

/-- The result of a deployment tells what happened in it, and what happened tells the result. -/
structure Classified (p : DeploymentPlan) (s : NodeSpec) (timeout : Duration)
    (a : BootstrapAttempt) (r : Except Fault NodeGroup) : Prop where
  up : ∀ group, r = .ok group ↔ group.name = "bootstrap" ∧ group.ns = p.ns ∧
    ∃ t log clock look response, a.LogEnd s timeout group.pods t (.met log clock) ∧
      t.start = some look ∧ look.answer = .ok response ∧ trim response = "\x7b\x7d"
  unready : ∀ what limit, r = .error (.readinessTimeout what limit) ↔
    what = "bootstrap pods" ∧ limit = timeout ∧ a.PodsEnd s timeout .expired
  silent : ∀ pod phrase limit, r = .error (.dependencyNotReady pod phrase limit) ↔
    ∃ pods t, pod = t.pod.name ∧ phrase = timingPhrase ∧ limit = timeout ∧
      a.LogEnd s timeout pods t .expired
  odd : ∀ response, r = .error (.initialization response) ↔
    ∃ pods t log clock look, a.LogEnd s timeout pods t (.met log clock) ∧
      t.start = some look ∧ look.answer = .ok response ∧ trim response ≠ "\x7b\x7d"
  relayed : ∀ f, r = .error f → f.isFinding = false →
    lastFault (a.events p s) = some f
  started : ∀ look, a.start = some look →
    (∃ pods t log clock, a.LogEnd s timeout pods t (.met log clock) ∧ t.start = some look) ∧
    ∀ f, look.answer = .error f → r = .error f
  unstarted : (∃ what limit, r = .error (.readinessTimeout what limit)) ∨
    (∃ pod phrase limit, r = .error (.dependencyNotReady pod phrase limit)) → a.start = none

end BootstrapAttempt

/-! ### Stages -/

section Stages

variable [Services σ] {l : PollLimits}

theorem awaitGroup_looks (ns group : String) (replicas : Int) (interval : 0 < l.interval.nanos)
    (m : Session σ) :
    ∃ looks e m', (awaitGroup ns group replicas l).exec m =
        (.ok (e.result s!"{group} pods" l.timeout fun pods => ⟨group, ns, pods⟩), m') ∧
      m'.history = m.history ++ looks.map (Look.event (.listPods ns (podSelector group))) ∧
      WaitEnds (IsWhole replicas) (m.clock.nanos + l.timeout.nanos) looks e ∧
      ∀ pods clock, e = .met pods clock → clock = m'.clock := by
  have judges : (checkGroup ns group (wantedPods replicas) : Task σ _).Judges
      (.listPods ns (podSelector group)) (metVerdict (isWholeGroup (wantedPods replicas)) id) :=
    Task.judges_call _ _ _
  obtain ⟨looks, e, m', ended, grown, ends, clock⟩ :=
    poll_looks s!"{group} pods" (l := l) judges interval m
  have whole : (isWholeGroup (wantedPods replicas) · = true) = IsWhole replicas :=
    funext fun _ => propext isWholeGroup_iff
  rw [whole] at ends
  refine ⟨looks, e, m', ?_, grown, ends, clock⟩
  unfold awaitGroup
  rw [Task.exec_bind, ended]
  cases e <;> rfl

theorem awaitTiming_looks (ns : String) (pod : Pod) (interval : 0 < l.interval.nanos)
    (m : Session σ) :
    ∃ looks e m', (awaitTiming ns pod l).exec m =
        (.ok ((e.result "timing service log" l.timeout fun _ => ()).mapError (blamed pod)), m') ∧
      m'.history = m.history ++ looks.map (Look.event (.podLogs ns pod.name timingContainer)) ∧
      WaitEnds Listens (m.clock.nanos + l.timeout.nanos) looks e ∧
      ∀ log clock, e = .met log clock → clock = m'.clock := by
  have judges : (checkTiming ns pod.name : Task σ _).Judges
      (.podLogs ns pod.name timingContainer) (metVerdict (holds · timingPhrase) fun _ => ()) :=
    Task.judges_call _ _ _
  obtain ⟨looks, e, m', ended, grown, ends, clock⟩ :=
    poll_looks "timing service log" (l := l) judges interval m
  have listens : (holds · timingPhrase = true) = Listens :=
    funext fun log => propext (occursIn_iff _ _)
  rw [listens] at ends
  refine ⟨looks, e, m', ?_, grown, ends, clock⟩
  have attempted : (poll "timing service log" l (checkTiming ns pod.name)).attempt.exec m =
    (.ok (e.result "timing service log" l.timeout fun _ => ()), m') := ended
  unfold awaitTiming
  rw [Task.exec_bind, Task.exec_lift, attempted]
  cases e with
  | met | expired => rfl
  | failed f => cases f <;> rfl

theorem startTiming_looks (ns : String) (pod : Pod) (m : Session σ) :
    ∃ look m', (startTiming ns pod).exec m = (.ok (startVerdict look.answer), m') ∧
      m.Looks (.startTiming ns pod timingStart) look m' := by
  obtain ⟨look, m', called, looked⟩ := Task.exec_call_look (.startTiming ns pod timingStart) m
  refine ⟨look, m', ?_, looked⟩
  unfold startTiming
  rw [Task.exec_bind, called]
  cases look.answer with
  | error f => rfl
  | ok response =>
    by_cases empty : trim response = "\x7b\x7d"
    · simp [startVerdict, empty, Task.exec_pure]
    · simp [startVerdict, empty, Task.exec_throw]

end Stages

/-! ### The whole deployment -/

/-- How what is asked about the timing service ends, from the time at which the pods were found. -/
inductive TimingAttempt.Ends (timeout found : Duration) : TimingAttempt → Except Fault Unit → Prop
  where
  | expired {pod logs} (wait : WaitEnds Listens (found.nanos + timeout.nanos) logs .expired) :
    Ends timeout found ⟨pod, logs, none⟩
      (.error (.dependencyNotReady pod.name timingPhrase timeout))
  | failed {pod logs f} (wait : WaitEnds Listens (found.nanos + timeout.nanos) logs (.failed f)) :
    Ends timeout found ⟨pod, logs, none⟩ (.error (blamed pod f))
  | asked {pod logs log clock} (look : Look String)
    (wait : WaitEnds Listens (found.nanos + timeout.nanos) logs (.met log clock)) :
    Ends timeout found ⟨pod, logs, some look⟩ (startVerdict look.answer)

/-- How the deployment of the bootstrap group ends. -/
inductive BootstrapAttempt.Ends (ns : String) (s : NodeSpec) (timeout : Duration) :
    BootstrapAttempt → Except Fault NodeGroup → Prop where
  | refused {created f} (refused : created.answer = .error f) :
    Ends ns s timeout ⟨created, [], none⟩ (.error f)
  | expired {created looks} (pods : PodsEnd s timeout ⟨created, looks, none⟩ .expired) :
    Ends ns s timeout ⟨created, looks, none⟩ (.error (.readinessTimeout "bootstrap pods" timeout))
  | failed {created looks f} (pods : PodsEnd s timeout ⟨created, looks, none⟩ (.failed f)) :
    Ends ns s timeout ⟨created, looks, none⟩ (.error f)
  | found {created looks pods clock t x}
    (found : PodsEnd s timeout ⟨created, looks, some t⟩ (.met pods clock))
    (first : pods.head? = some t.pod) (timing : t.Ends timeout clock x) :
    Ends ns s timeout ⟨created, looks, some t⟩ (x.map fun _ => ⟨bootstrapGroup, ns, pods⟩)

section Deployment

variable [Services σ]

theorem timing_ends {α : Type} (ns : String) (pod : Pod) (v : α) {l : PollLimits}
    (interval : 0 < l.interval.nanos) (m : Session σ) :
    ∃ (t : TimingAttempt) (x : Except Fault Unit) (m' : Session σ),
      (do awaitTiming ns pod l; startTiming ns pod; pure v : Task σ α).exec m =
        (.ok (x.map fun _ => v), m') ∧
      m'.history = m.history ++ t.events ns ∧ t.pod = pod ∧ t.Ends l.timeout m.clock x := by
  obtain ⟨logs, e, m₁, waited, grown, wait, -⟩ := awaitTiming_looks ns pod interval m
  rw [Task.exec_bind, waited]
  cases e with
  | expired =>
    refine ⟨⟨pod, logs, none⟩, _, m₁, rfl, ?_, rfl, .expired wait⟩
    rw [grown, TimingAttempt.events_unasked]
  | failed f =>
    refine ⟨⟨pod, logs, none⟩, _, m₁, rfl, ?_, rfl, .failed wait⟩
    rw [grown, TimingAttempt.events_unasked]
  | met log clock =>
    obtain ⟨look, m₂, started, looked⟩ := startTiming_looks ns pod m₁
    refine ⟨⟨pod, logs, some look⟩, _, m₂, ?_, ?_, rfl, .asked look wait⟩
    · show (startTiming ns pod >>= fun _ => pure v).exec m₁ = _
      rw [Task.exec_bind, started]
      cases startVerdict look.answer <;> rfl
    · rw [looked.history, grown, TimingAttempt.events, List.append_assoc]
      rfl

/-- With an interval, the deployment comes to an end, and leaves an attempt in the history. -/
theorem deployBootstrap_ends (p : DeploymentPlan) (s : NodeSpec) (timeout : Duration)
    (interval : 0 < p.interval.nanos) (m : Session σ) :
    ∃ (a : BootstrapAttempt) (r : Except Fault NodeGroup) (m' : Session σ),
      (p.deployBootstrap s timeout).exec m = (.ok r, m') ∧
      m'.history = m.history ++ a.events p s ∧ a.Ends p.ns s timeout r := by
  obtain ⟨created, m₁, called, looked⟩ :=
    Task.exec_call_look (.create p.ns (p.placement.bootstrap s)) m
  unfold DeploymentPlan.deployBootstrap
  rw [Task.exec_bind, called]
  cases made : created.answer with
  | error f => exact ⟨⟨created, [], none⟩, _, m₁, rfl, looked.history, .refused made⟩
  | ok u =>
    dsimp only
    obtain ⟨looks, e, m₂, waited, grown, wait, clock⟩ :=
      awaitGroup_looks p.ns bootstrapGroup s.replicas (l := ⟨timeout, p.interval⟩) interval m₁
    rw [← looked.finish] at wait
    rw [looked.history] at grown
    rw [Task.exec_bind, waited]
    cases e with
    | expired =>
      refine ⟨⟨created, looks, none⟩, _, m₂, rfl, ?_, .expired ⟨made, wait⟩⟩
      rw [grown, BootstrapAttempt.events, List.append_assoc]
      simp
    | failed f =>
      refine ⟨⟨created, looks, none⟩, _, m₂, rfl, ?_, .failed ⟨made, wait⟩⟩
      rw [grown, BootstrapAttempt.events, List.append_assoc]
      simp
    | met pods ready =>
      obtain rfl : ready = m₂.clock := clock pods ready rfl
      obtain ⟨pod, others, rfl⟩ := List.exists_cons_of_ne_nil wait.holds.1.2
      obtain ⟨t, x, m₃, ended, left, rfl, ends⟩ :=
        timing_ends p.ns pod (⟨bootstrapGroup, p.ns, pod :: others⟩ : NodeGroup)
          (l := ⟨timeout, p.interval⟩) interval m₂
      refine ⟨⟨created, looks, some t⟩, _, m₃, ended, ?_, .found ⟨made, wait⟩ rfl ends⟩
      rw [left, grown, BootstrapAttempt.events, List.append_assoc, List.append_assoc]
      rfl

end Deployment

/-! ### What the result tells -/

theorem startVerdict_eq_ok {x : Except Fault String} {u : Unit} (h : startVerdict x = .ok u) :
    ∃ response, x = .ok response ∧ trim response = "\x7b\x7d" := by
  cases x with
  | error f => cases h
  | ok response =>
    simp only [startVerdict] at h
    split at h
    next empty => exact ⟨response, rfl, empty⟩
    · cases h

theorem startVerdict_eq_error {x : Except Fault String} {f : Fault}
    (h : startVerdict x = .error f) : x = .error f ∨
      ∃ response, x = .ok response ∧ trim response ≠ "\x7b\x7d" ∧ f = .initialization response := by
  cases x with
  | error g =>
    cases h
    exact .inl rfl
  | ok response =>
    simp only [startVerdict] at h
    split at h
    · cases h
    next full =>
      cases h
      exact .inr ⟨response, rfl, full, rfl⟩

namespace TimingAttempt

variable {t : TimingAttempt} {found : Duration} {x : Except Fault Unit} {f : Fault}

theorem Ends.of_expired (ends : t.Ends timeout found x)
    (wait : WaitEnds Listens (found.nanos + timeout.nanos) t.logs .expired) :
    x = .error (.dependencyNotReady t.pod.name timingPhrase timeout) := by
  cases ends with
  | expired => rfl
  | failed wait' => cases wait.unique wait'
  | asked _ wait' => cases wait.unique wait'

theorem Ends.of_met {log : String} {clock : Duration} {look : Look String}
    (ends : t.Ends timeout found x)
    (wait : WaitEnds Listens (found.nanos + timeout.nanos) t.logs (.met log clock))
    (start : t.start = some look) : x = startVerdict look.answer := by
  cases ends with
  | expired wait' => cases wait.unique wait'
  | failed wait' => cases wait.unique wait'
  | asked =>
    cases start
    rfl

theorem Ends.of_start {look : Look String} (ends : t.Ends timeout found x)
    (start : t.start = some look) :
    ∃ log clock, WaitEnds Listens (found.nanos + timeout.nanos) t.logs (.met log clock) := by
  cases ends with
  | expired | failed => cases start
  | asked _ wait => exact ⟨_, _, wait⟩

/-- Why the timing service was not started: a call failed, or it never listened, or it answered
something else. -/
inductive Fails (ns : String) (timeout found : Duration) (t : TimingAttempt) : Fault → Prop where
  | relayed {f : Fault} (last : lastFault (t.events ns) = some f) : Fails ns timeout found t f
  | silent (wait : WaitEnds Listens (found.nanos + timeout.nanos) t.logs .expired)
    (start : t.start = none) :
    Fails ns timeout found t (.dependencyNotReady t.pod.name timingPhrase timeout)
  | odd {log clock look response}
    (wait : WaitEnds Listens (found.nanos + timeout.nanos) t.logs (.met log clock))
    (start : t.start = some look) (answered : look.answer = .ok response)
    (full : trim response ≠ "\x7b\x7d") : Fails ns timeout found t (.initialization response)

theorem Ends.fails {ns : String} (ends : t.Ends timeout found (.error f))
    (plain : PlainlyAnswered (t.events ns)) : t.Fails ns timeout found f := by
  generalize hx : (.error f : Except Fault Unit) = x at ends
  cases ends with
  | expired wait =>
    cases hx
    exact .silent wait rfl
  | @failed pod logs g wait =>
    have last : lastFault (events ns ⟨pod, logs, none⟩) = some g := by
      rw [events_unasked]
      exact wait.lastFault
    -- The pod would be blamed for a service that answers as if a wait of its own had expired.
    rw [blamed_of_plain (plain.last last)] at hx
    cases hx
    exact .relayed last
  | @asked pod logs _ _ look wait =>
    rcases startVerdict_eq_error hx.symm with failed | ⟨response, answered, full, rfl⟩
    · have answered := Look.fault?_event (c := .startTiming ns pod timingStart) failed
      exact .relayed (lastFault_append answered)
    · exact .odd wait rfl answered full

end TimingAttempt

namespace BootstrapAttempt

variable {a : BootstrapAttempt} {r : Except Fault NodeGroup} {f : Fault} {ns : String}

theorem Ends.of_expired (ends : a.Ends ns s timeout r) (pods : a.PodsEnd s timeout .expired) :
    r = .error (.readinessTimeout "bootstrap pods" timeout) := by
  obtain ⟨made, wait⟩ := pods
  cases ends with
  | refused refused =>
    rw [made] at refused
    cases refused
  | expired => rfl
  | failed pods => cases wait.unique pods.2
  | found pods => cases wait.unique pods.2

theorem Ends.of_logEnd {pods : List Pod} {t : TimingAttempt} {e : WaitEnd String}
    (ends : a.Ends ns s timeout r) (log : a.LogEnd s timeout pods t e) :
    ∃ found x, t.Ends timeout found x ∧
      WaitEnds Listens (found.nanos + timeout.nanos) t.logs e ∧
      r = x.map fun _ => ⟨bootstrapGroup, ns, pods⟩ := by
  obtain ⟨ready, ⟨-, pods⟩, tried, -, wait⟩ := log
  cases ends with
  | refused | expired | failed => cases tried
  | found pods' first timing =>
    cases tried
    cases pods.unique pods'.2
    exact ⟨_, _, timing, wait, rfl⟩

/-- Why the group did not come up: a call failed, or its pods were never ready, or its timing
service never listened or answered something else. -/
inductive Fails (p : DeploymentPlan) (s : NodeSpec) (timeout : Duration) (a : BootstrapAttempt) :
    Fault → Prop where
  | relayed {f : Fault} (last : lastFault (a.events p s) = some f) : Fails p s timeout a f
  | unready (pods : a.PodsEnd s timeout .expired) (start : a.start = none) :
    Fails p s timeout a (.readinessTimeout "bootstrap pods" timeout)
  | silent {pods t} (log : a.LogEnd s timeout pods t .expired) (start : a.start = none) :
    Fails p s timeout a (.dependencyNotReady t.pod.name timingPhrase timeout)
  | odd {pods t log clock look response} (listens : a.LogEnd s timeout pods t (.met log clock))
    (start : t.start = some look) (answered : look.answer = .ok response)
    (full : trim response ≠ "\x7b\x7d") : Fails p s timeout a (.initialization response)

theorem Ends.fails (ends : a.Ends p.ns s timeout (.error f))
    (plain : PlainlyAnswered (a.events p s)) : a.Fails p s timeout f := by
  generalize hr : (.error f : Except Fault NodeGroup) = r at ends
  cases ends with
  | @refused created g refused =>
    cases hr
    exact .relayed (Look.fault?_event (c := .create p.ns (p.placement.bootstrap s)) refused)
  | expired pods =>
    cases hr
    exact .unready pods rfl
  | @failed created looks g pods =>
    cases hr
    apply Fails.relayed
    unfold events
    rw [Option.elim_none, List.append_nil]
    exact lastFault_append (h := [_]) pods.2.lastFault
  | @found created looks pods clock t x found first timing =>
    cases x with
    | ok u => cases hr
    | error g =>
      cases hr
      have plain' : PlainlyAnswered (t.events p.ns) := by
        intro e he
        exact plain e (List.mem_cons_of_mem _ (List.mem_append_right _ he))
      cases timing.fails plain' with
      | relayed last => exact .relayed (lastFault_append (h := [_]) (lastFault_append last))
      | silent wait start => exact .silent ⟨clock, found, rfl, first, wait⟩ start
      | odd wait start answered full =>
        exact .odd ⟨clock, found, rfl, first, wait⟩ start answered full

theorem Ends.ok_cases {group : NodeGroup} (ends : a.Ends ns s timeout (.ok group)) :
    group.name = "bootstrap" ∧ group.ns = ns ∧
      ∃ t log clock look response, a.LogEnd s timeout group.pods t (.met log clock) ∧
        t.start = some look ∧ look.answer = .ok response ∧ trim response = "\x7b\x7d" := by
  generalize hr : (.ok group : Except Fault NodeGroup) = r at ends
  cases ends with
  | refused | expired | failed => cases hr
  | @found created looks pods clock t x found first timing =>
    cases x with
    | error f => cases hr
    | ok u =>
      cases hr
      generalize hx : (.ok u : Except Fault Unit) = x at timing
      cases timing with
      | expired | failed => cases hx
      | @asked pod logs log logged look wait =>
        obtain ⟨response, answered, empty⟩ := startVerdict_eq_ok hx.symm
        exact ⟨rfl, rfl, _, log, logged, look, response, ⟨clock, found, rfl, first, wait⟩, rfl,
          answered, empty⟩

theorem Ends.of_answer {pods : List Pod} {t : TimingAttempt} {log : String} {clock : Duration}
    {look : Look String} (ends : a.Ends ns s timeout r)
    (listens : a.LogEnd s timeout pods t (.met log clock)) (start : t.start = some look) :
    r = (startVerdict look.answer).map fun _ => ⟨bootstrapGroup, ns, pods⟩ := by
  obtain ⟨found, x, timing, wait, result⟩ := ends.of_logEnd listens
  rw [result, timing.of_met wait start]

theorem Ends.of_start {look : Look String} (ends : a.Ends ns s timeout r)
    (start : a.start = some look) :
    ∃ pods t log clock, a.LogEnd s timeout pods t (.met log clock) ∧ t.start = some look := by
  cases ends with
  | refused | expired | failed => cases start
  | @found created looks pods clock t x found first timing =>
    obtain ⟨log, logged, wait⟩ := timing.of_start start
    exact ⟨pods, t, log, logged, ⟨clock, found, rfl, first, wait⟩, start⟩

theorem Ends.classified (ends : a.Ends p.ns s timeout r)
    (plain : PlainlyAnswered (a.events p s)) : a.Classified p s timeout r where
  up group := by
    constructor
    · intro h
      rw [h] at ends
      exact ends.ok_cases
    · intro h
      obtain ⟨name, ns, t, log, clock, look, response, listens, start, answered, empty⟩ := h
      obtain ⟨_, _, pods⟩ := group
      dsimp only at name ns listens
      rw [ends.of_answer listens start, answered, name, ns]
      simp [startVerdict, empty, bootstrapGroup, Except.map]
  unready what limit := by
    constructor
    · intro h
      rw [h] at ends
      cases ends.fails plain with
      | relayed last => cases plain.last last
      | unready pods => exact ⟨rfl, rfl, pods⟩
    · intro h
      obtain ⟨rfl, rfl, pods⟩ := h
      exact ends.of_expired pods
  silent pod phrase limit := by
    constructor
    · intro h
      rw [h] at ends
      cases ends.fails plain with
      | relayed last => cases plain.last last
      | silent log => exact ⟨_, _, rfl, rfl, rfl, log⟩
    · intro h
      obtain ⟨pods, t, rfl, rfl, rfl, log⟩ := h
      obtain ⟨found, x, timing, wait, result⟩ := ends.of_logEnd log
      rw [result, timing.of_expired wait]
      rfl
  odd response := by
    constructor
    · intro h
      rw [h] at ends
      cases ends.fails plain with
      | relayed last => cases plain.last last
      | odd listens start answered full => exact ⟨_, _, _, _, _, listens, start, answered, full⟩
    · intro h
      obtain ⟨pods, t, log, clock, look, listens, start, answered, full⟩ := h
      rw [ends.of_answer listens start, answered]
      simp [startVerdict, full, Except.map]
  relayed f := by
    intro h other
    rw [h] at ends
    cases ends.fails plain with
    | relayed last => exact last
    | unready | silent | odd => cases other
  started look := by
    intro start
    obtain ⟨pods, t, log, clock, listens, asked⟩ := ends.of_start start
    refine ⟨⟨pods, t, log, clock, listens, asked⟩, ?_⟩
    intro f failed
    rw [ends.of_answer listens asked, failed]
    rfl
  unstarted := by
    intro h
    rcases h with ⟨what, limit, rfl⟩ | ⟨pod, phrase, limit, rfl⟩
    · cases ends.fails plain with
      | relayed last => cases plain.last last
      | unready _ start => exact start
    · cases ends.fails plain with
      | relayed last => cases plain.last last
      | silent _ start => exact start

end BootstrapAttempt

/-- Every result of a deployment of the bootstrap group says at which stage it ended, and no result
says so of another stage, as long as the services do not themselves answer with the faults by which
a deployment names its stages. -/
theorem bootstrap_classified [Services σ] (p : DeploymentPlan) (s : NodeSpec) (timeout : Duration)
    (interval : 0 < p.interval.nanos) (m : Session σ) :
    ∃ (a : BootstrapAttempt) (r : Except Fault NodeGroup) (m' : Session σ),
      (p.deployBootstrap s timeout).exec m = (.ok r, m') ∧
      m'.history = m.history ++ a.events p s ∧
      (PlainlyAnswered (a.events p s) → a.Classified p s timeout r) := by
  obtain ⟨a, r, m', ended, grown, ends⟩ := deployBootstrap_ends p s timeout interval m
  exact ⟨a, r, m', ended, grown, ends.classified⟩

/-! ### A timing service that says nothing -/

/-- A willing world in which pods are listed only after some lists have failed, and nothing is
logged. A list that fails takes a second, and so does a log. -/
structure Mute where
  failures : Nat

instance : Services Mute where
  respond w now c :=
    match c, w.failures with
    | .listPods .., n + 1 =>
      (⟨.ofSeconds 1, .error (.cluster (.exchange "connection reset"))⟩, ⟨n⟩)
    | .podLogs .., _ => (⟨.ofSeconds 1, .ok ""⟩, w)
    | c, _ => ((Services.respond Biased.willing now c).1, w)

def Mute.session (w : Mute) : Session Mute := ⟨w, .zero, fun _ => ⟨0⟩, 1, []⟩

def DeploymentPlan.everySecond : DeploymentPlan := ⟨"t", none, ⟨.zero, .zero, ⟨0⟩⟩, .ofSeconds 1⟩

/-- The wait for the log expires, after three lists of pods and three logs. -/
theorem bootstrap_classified_mute :
    0 < DeploymentPlan.everySecond.interval.nanos ∧ ∃ (a : BootstrapAttempt) (m' : Session Mute),
      (DeploymentPlan.everySecond.deployBootstrap { image := "node" } (.ofSeconds 5)).exec
        (Mute.session ⟨2⟩) =
        (.ok (.error (.dependencyNotReady "pod" timingPhrase (.ofSeconds 5))), m') ∧
      (∃ pods t, "pod" = t.pod.name ∧
        a.LogEnd { image := "node" } (.ofSeconds 5) pods t .expired) ∧
      a.start = none := by
  have interval : 0 < DeploymentPlan.everySecond.interval.nanos := by decide
  have named : (DeploymentPlan.everySecond.deployBootstrap { image := "node" }
      (.ofSeconds 5)).exec (Mute.session ⟨2⟩) |>.1.toOption = some
        (.error (.dependencyNotReady "pod" timingPhrase (.ofSeconds 5))) := by
    decide +kernel
  have plainly : (DeploymentPlan.everySecond.deployBootstrap { image := "node" }
      (.ofSeconds 5)).exec (Mute.session ⟨2⟩) |>.2.history.all
        (fun e => e.fault?.all (!·.isFinding)) = true := by
    decide +kernel
  obtain ⟨a, r, m', ended, grown, classified⟩ :=
    bootstrap_classified .everySecond { image := "node" } (.ofSeconds 5) interval (Mute.session ⟨2⟩)
  rw [ended] at named plainly
  cases Option.some.inj named
  have plain : PlainlyAnswered (a.events .everySecond { image := "node" }) := by
    intro e he f answered
    have member : e ∈ m'.history := grown ▸ List.mem_append_right _ he
    have told := List.all_eq_true.1 plainly e member
    rw [answered] at told
    simpa using told
  obtain ⟨pods, t, named, -, -, log⟩ := ((classified plain).silent _ _ _).1 rfl
  exact ⟨interval, a, m', ended, ⟨pods, t, named, log⟩,
    (classified plain).unstarted (.inr ⟨_, _, _, rfl⟩)⟩

end ProvingGround
