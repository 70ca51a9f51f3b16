import ProvingGround.Proofs.Lifecycle.Requests
import ProvingGround.Proofs.PoolAnswers
import ProvingGround.Proofs.Trace.Carried

/-!
# Waiting for a pool over the web

A pool is asked for once, and then looked at until an answer settles what has become of it. Which
answers do is a matter of their status codes and of what their bodies say; all others leave the wait
open up to its limit.
-/

namespace ProvingGround

open Http Text

variable {τ : Type}

/-! ### Answers of the pool service -/

namespace Http

/-- The request was granted by whoever answered. -/
def Granted (response : Option Response) : Prop :=
  ∃ r, response = some r ∧ 200 ≤ r.status ∧ r.status < 300

/-- A request that goes to the cluster and changes nothing there. -/
def Carried.OnlyLooks (c : Carried) : Prop :=
  c.request.method = .get ∧ ∃ path query, c.request.target = .cluster path query

end Http

namespace PoolApi

/-- The request for a pool. -/
def creation (a : PoolApi) (q : PoolRequest) : Http.Request :=
  ⟨.post, .web a.base, a.token, some (createBody q).render⟩

/-- The request for the status of a pool. -/
def look (a : PoolApi) (name : String) : Http.Request :=
  ⟨.get, .web (a.poolUrl name), a.token, none⟩

end PoolApi

/-! ### Waits -/

section Waits

variable (a : PoolApi) (name : String) (l : PollLimits) (start : Duration)

/-- Nothing but looks at the pool, each answered within the limit in a way that leaves the wait
open. -/
def LeftOpen (n : List Carried) : Prop :=
  ∀ c ∈ n, c.request = a.look name ∧ PoolApi.Outlook name c.response .notYet ∧
    c.arrival.nanos < start.nanos + l.timeout.nanos

/-- How the wait for a pool ends that began at an instant, by what was carried for it. -/
inductive PoolWait : Task.Ending Unit → List Carried → Prop where
  | unmade {f} (made : (a.status name).request = .error f) : PoolWait (.ok (.error f)) []
  | running {earlier last} (waited : LeftOpen a name l start earlier)
    (look : last.request = a.look name) (told : PoolApi.Outlook name last.response (.ready ())) :
    PoolWait (.ok (.ok ())) (earlier ++ [last])
  | failed {earlier last f} (waited : LeftOpen a name l start earlier)
    (look : last.request = a.look name) (told : PoolApi.Outlook name last.response (.failed f)) :
    PoolWait (.ok (.error f)) (earlier ++ [last])
  | expired {earlier last} (waited : LeftOpen a name l start earlier)
    (look : last.request = a.look name) (told : PoolApi.Outlook name last.response .notYet)
    (late : start.nanos + l.timeout.nanos ≤ last.arrival.nanos) :
    PoolWait (.ok (.error (.readinessTimeout s!"node pool {name}" l.timeout))) (earlier ++ [last])
  /-- Without an interval the wait may go on and on. -/
  | endless {n} (waited : LeftOpen a name l start n) (interval : l.interval.nanos = 0) :
    PoolWait (.error .stalled) n

end Waits

/-- How a wait for the collector ends, for a pool that was asked for. -/
inductive CollectorWait (q : PoolRequest) (w : WaitSettings) : Task.Ending ScaledPool → Prop where
  | covered (elapsed) : CollectorWait q w (.ok (.ok ⟨q.name, q.nodes, elapsed⟩))
  | expired : CollectorWait q w
      (.ok (.error (.readinessTimeout "DaemonSet/fluent-bit on new nodes" w.collector)))
  | failed (f) : CollectorWait q w (.ok (.error (.cluster f)))
  | endless (interval : w.pollInterval.nanos = 0) : CollectorWait q w (.error .stalled)

/-- How the scaling of a pool ends, by what was carried for it. -/
inductive Scaling (a : PoolApi) (q : PoolRequest) (w : WaitSettings) :
    Task.Ending ScaledPool → List Carried → Prop where
  | unmade {f} (made : (a.create q).request = .error f) : Scaling a q w (.ok (.error f)) []
  | refused {c f} (creation : c.request = a.creation q) (refused : ¬ Granted c.response) :
    Scaling a q w (.ok (.error f)) [c]
  | stopped {c gets r x} (creation : c.request = a.creation q) (granted : Granted c.response)
    (waited : PoolWait a q.name ⟨w.nodePool, w.pollInterval⟩ c.arrival r gets)
    (stops : Task.Stops r x) : Scaling a q w x (c :: gets)
  /-- Once the pool runs, only the cluster is asked. -/
  | ran {c gets more r} (creation : c.request = a.creation q) (granted : Granted c.response)
    (waited : PoolWait a q.name ⟨w.nodePool, w.pollInterval⟩ c.arrival (.ok (.ok ())) gets)
    (others : ∀ d ∈ more, d.OnlyLooks)
    (collector : CollectorWait q w r) : Scaling a q w r (c :: (gets ++ more))

/-! ### Errands -/

theorem webRequest_ok {method : Method} {url : String} {token : Option String} {body : Option Json}
    {q : Http.Request} (h : webRequest method url token body = .ok q) :
    q = ⟨method, .web url, token, body.map (·.render)⟩ := by
  unfold webRequest at h
  split at h
  · cases h
    rfl
  · cases h

namespace PoolApi

theorem creation_of_create {a : PoolApi} {q : PoolRequest} {x : Http.Request}
    (h : (a.create q).request = .ok x) : x = a.creation q := by
  dsimp only [create] at h
  exact webRequest_ok h

theorem look_of_status {a : PoolApi} {name : String} {x : Http.Request}
    (h : (a.status name).request = .ok x) : x = a.look name := by
  dsimp only [status] at h
  exact webRequest_ok h

theorem read_create (a : PoolApi) (q : PoolRequest) (r : Http.Response) :
    (a.create q).read r = (checkGranted "node pool create" a.base r).map fun _ => () := by
  show (checkGranted "node pool create" a.base r >>= fun _ => pure ()) = _
  cases checkGranted "node pool create" a.base r <;> rfl

/-- A pool is created just when the request is granted. -/
theorem create_comes {a : PoolApi} {q : PoolRequest} {later : Duration} {x : Except Fault Unit}
    {n : List Carried} (h : (a.create q).Comes later x n) :
    (∃ f, (a.create q).request = .error f ∧ x = .error f ∧ n = []) ∨
      ∃ response, n = [⟨a.creation q, response, later⟩] ∧
        (x = .ok () → Granted response) ∧ ((∃ f, x = .error f) → ¬ Granted response) := by
  cases h with
  | unmade made => exact .inl ⟨_, made, rfl, rfl⟩
  | lost made =>
    rw [creation_of_create made]
    refine .inr ⟨none, rfl, ?_, ?_⟩
    · intro granted
      cases granted
    · rintro - ⟨r, absent, -⟩
      cases absent
  | answered made r =>
    rw [creation_of_create made, read_create]
    refine .inr ⟨some r, rfl, ?_, ?_⟩
    · intro granted
      refine ⟨r, rfl, ?_⟩
      by_contra refused
      by_cases transient : r.status = 429 ∨ 500 ≤ r.status ∧ r.status < 600
      · rw [checkGranted_transient transient] at granted
        cases granted
      · rw [checkGranted_refused refused transient] at granted
        cases granted
    · rintro ⟨f, refused⟩ ⟨r', same, granted⟩
      cases same
      rw [checkGranted_granted granted] at refused
      cases refused

end PoolApi

/-! ### Waits for the pool -/

section PoolWaits

variable {a : PoolApi} {name : String} {l : PollLimits} {start later : Duration}

theorem unbuildable_of_status {f : Fault} (h : (a.status name).request = .error f) :
    f.isTransient = false := by
  dsimp only [PoolApi.status, webRequest] at h
  split at h
  · cases h
  · cases h
    rfl

theorem Verdict.of_final {α : Type} {f : Fault} (h : f.isTransient = false) :
    Verdict.of (.error f : Except Fault (Option α)) = .failed f := by
  simp only [Verdict.of, h, Bool.false_eq_true, if_false]

/-- A check of the pool is one look at it, judged by the answer, or cannot be made. -/
theorem PoolApi.status_judges {x : Except Fault (Option Unit)} {n : List Carried}
    (h : (a.status name).Judges (poolVerdict name) x n later) :
    (∃ f, (a.status name).request = .error f ∧ Verdict.of x = .failed f ∧ n = []) ∨
      (∃ q, (a.status name).request = .ok q) ∧ ∃ response, n = [⟨a.look name, response, later⟩] ∧
        Outlook name response (Verdict.of x) := by
  obtain ⟨y, rfl, comes⟩ := h
  cases comes with
  | unmade made => exact .inl ⟨_, made, Verdict.of_final (unbuildable_of_status made), rfl⟩
  | lost made =>
    rw [← look_of_status made]
    exact .inr ⟨⟨_, made⟩, none, rfl, .lost⟩
  | answered made r =>
    rw [← look_of_status made]
    exact .inr ⟨⟨_, made⟩, some r, rfl, outlook_of_read name (a.poolUrl name) r⟩

/-- An answer that leaves the wait open goes before what follows. -/
theorem PoolWait.after {c : Carried} {r : Task.Ending Unit} {n : List Carried}
    (made : ∃ q, (a.status name).request = .ok q) (open_ : LeftOpen a name l start [c])
    (h : PoolWait a name l start r n) : PoolWait a name l start r (c :: n) := by
  have more : ∀ {m}, LeftOpen a name l start m → LeftOpen a name l start (c :: m) := by
    intro m waited d hd
    rcases List.mem_cons.1 hd with rfl | hd
    · exact open_ d List.mem_cons_self
    · exact waited d hd
  cases h with
  | unmade unmade =>
    obtain ⟨q, made⟩ := made
    rw [made] at unmade
    cases unmade
  | running waited look told => exact .running (more waited) look told
  | failed waited look told => exact .failed (more waited) look told
  | expired waited look told late => exact .expired (more waited) look told late
  | endless waited interval => exact .endless (more waited) interval

theorem PollCarries.poolWait {r : Task.Ending Unit} {n : List Carried}
    (h : PollCarries s!"node pool {name}" l start ((a.status name).Judges (poolVerdict name)) r n
      later) : PoolWait a name l start r n := by
  have nothing : LeftOpen a name l start [] := fun _ hc => nomatch hc
  induction h with
  | stalled endless => exact .endless nothing endless
  | ready check =>
    obtain ⟨f, -, told, -⟩ | ⟨-, response, rfl, told⟩ := PoolApi.status_judges check
    · cases told
    · exact .running nothing rfl told
  | failed check final =>
    obtain ⟨f, made, told, rfl⟩ | ⟨-, response, rfl, told⟩ := PoolApi.status_judges check
    · rw [Verdict.of_final final] at told
      cases told
      exact .unmade made
    · rw [Verdict.of_final final] at told
      exact .failed nothing rfl told
  | expired check waits late =>
    obtain ⟨f, -, told, -⟩ | ⟨-, response, rfl, told⟩ := PoolApi.status_judges check
    · rw [waits] at told
      cases told
    · rw [waits] at told
      exact .expired nothing rfl told late
  | again check waits early _ ih =>
    obtain ⟨f, -, told, -⟩ | ⟨made, response, rfl, told⟩ := PoolApi.status_judges check
    · rw [waits] at told
      cases told
    · apply ih.after made
      intro c hc
      rw [List.mem_singleton.1 hc]
      rw [waits] at told
      exact ⟨rfl, told, early⟩

end PoolWaits

/-! ### Waits for the collector -/

section CollectorWaits

variable {ns : String} {q : PoolRequest} {w : WaitSettings} {start later : Duration}

theorem isCluster_of_readJson {α : Type} {decode : Json → Json.Decoded α} {r : Http.Response}
    {f : Fault} (h : ClusterApi.readJson decode r = .error f) : ∃ c, f = .cluster c := by
  unfold ClusterApi.readJson at h
  cases granted : ClusterApi.granted r with
  | error g =>
    rw [granted] at h
    cases h
    unfold ClusterApi.granted at granted
    split at granted
    · cases granted
      exact ⟨_, rfl⟩
    · cases granted
  | ok body =>
    rw [granted] at h
    dsimp only [bind, Except.bind] at h
    split at h
    · cases h
      exact ⟨_, rfl⟩
    · split at h
      · cases h
      · cases h
        exact ⟨_, rfl⟩

theorem isCluster_of_orAbsent {α : Type} {read : Http.Response → Except Fault α}
    {r : Http.Response} {f : Fault} (cluster : ∀ g, read r = .error g → ∃ c, g = .cluster c)
    (h : ClusterApi.orAbsent read r = .error f) : ∃ c, f = .cluster c := by
  unfold ClusterApi.orAbsent at h
  split at h
  · cases h
  · split at h
    · cases h
    · cases h
      exact ⟨_, rfl⟩
  next g failed =>
    cases h
    exact cluster _ failed

theorem namedRequest_looks (name path : String) (query : List (String × String)) :
    (∃ c, ClusterApi.namedRequest name path query = .error (.cluster c)) ∨
      ∃ q, ClusterApi.namedRequest name path query = .ok q ∧ q.method = .get ∧
        ∃ path query, q.target = .cluster path query := by
  unfold ClusterApi.namedRequest ClusterApi.request
  split
  · exact .inl ⟨_, rfl⟩
  · split
    · exact .inr ⟨_, rfl, rfl, _, _, rfl⟩
    · exact .inl ⟨_, rfl⟩

/-- Looking at an object of the cluster changes nothing there, and fails with a fault of its own. -/
theorem lookAt_comes {α : Type} {workload : Workload} {decode : Json → Json.Decoded α}
    {x : Except Fault (Option α)} {n : List Carried}
    (h : (ClusterApi.lookAt ns workload decode).Comes later x n) :
    (∀ c ∈ n, c.OnlyLooks) ∧ ∀ f, x = .error f → ∃ c, f = .cluster c := by
  have made : ∀ y, (ClusterApi.lookAt ns workload decode).request = y →
      (∃ c, y = .error (.cluster c)) ∨
        ∃ q, y = .ok q ∧ q.method = .get ∧ ∃ path query, q.target = .cluster path query := by
    rintro _ rfl
    exact namedRequest_looks _ _ _
  cases h with
  | unmade unmade =>
    refine ⟨fun _ hc => (nomatch hc), ?_⟩
    rintro f ⟨⟩
    obtain ⟨c, hc⟩ | ⟨q, hq, -⟩ := made _ unmade
    · cases hc
      exact ⟨c, rfl⟩
    · cases hq
  | lost sent =>
    obtain ⟨c, hc⟩ | ⟨q, hq, looks⟩ := made _ sent
    · cases hc
    · cases hq
      refine ⟨fun c hc => ?_, ?_⟩
      · rw [List.mem_singleton.1 hc]
        exact looks
      · rintro f ⟨⟩
        exact ⟨_, rfl⟩
  | answered sent r =>
    obtain ⟨c, hc⟩ | ⟨q, hq, looks⟩ := made _ sent
    · cases hc
    · cases hq
      refine ⟨fun c hc => ?_, fun f failed => ?_⟩
      · rw [List.mem_singleton.1 hc]
        exact looks
      · exact isCluster_of_orAbsent (fun g => isCluster_of_readJson) failed

end CollectorWaits

/-! ### Scaling -/

section Scaling

variable [Transport τ] {a : PoolApi} {q : PoolRequest} {ns : String} {w : WaitSettings}

theorem awaitPool_carries (a : PoolApi) (name : String) (w : WaitSettings) :
    (awaitPool name w : Task (Remote (Recorder τ)) Unit).Carries a fun now r n _ =>
      PoolWait a name ⟨w.nodePool, w.pollInterval⟩ now r n := by
  have check : (checkPool name : Task (Remote (Recorder τ)) _).Carries a fun now r n later =>
      now.nanos ≤ later.nanos ∧
        ∃ x, r = .ok x ∧ (a.status name).Judges (poolVerdict name) x n later := by
    apply Task.carries_judged (c := .poolStatus name)
    · rintro r rfl
      rfl
    · exact fun _ => rfl
    · intro x s
      rcases x with _ | _ | _ | _ <;> rfl
  exact (poll_carries check).mono fun _ _ _ _ polled => polled.poolWait

/-- Waiting for the collector looks at the cluster only. -/
theorem awaitCollector_carries (a : PoolApi) (ns : String) (q : PoolRequest) (w : WaitSettings) :
    (awaitCollector ns q.nodes w : Task (Remote (Recorder τ)) Unit).Carries a fun _ r n _ =>
      (∀ c ∈ n, c.OnlyLooks) ∧ ∀ x, Task.Stops r x → CollectorWait q w x := by
  let e := ClusterApi.lookAt ns collectorWorkload ClusterApi.readDaemonSet
  have check : (checkCollector ns q.nodes : Task (Remote (Recorder τ)) _).Carries a
      fun now r n later => now.nanos ≤ later.nanos ∧
        ∃ x, r = .ok x ∧ e.Judges (coverVerdict q.nodes) x n later := by
    apply Task.carries_judged (c := .workloadStatus ns collectorWorkload)
    · exact fun _ _ => rfl
    · exact fun _ => rfl
    · intro x s
      cases x <;> rfl
  apply (poll_carries check).mono
  intro now r n later polled
  constructor
  · refine PollCarries.among (K := Carried.OnlyLooks) polled ?_
    rintro _ n later ⟨y, -, comes⟩
    exact (lookAt_comes comes).1
  · rintro x (f | halt)
    · obtain rfl | ⟨n, later, y, judged, comes⟩ := polled.fault rfl
      · exact .expired
      · have failed := metVerdict_eq_error judged.symm
        obtain ⟨c, rfl⟩ := (lookAt_comes comes).2 f failed
        exact .failed c
    · obtain ⟨rfl, endless⟩ := polled.halt rfl
      exact .endless endless

/-- What follows the creation of a pool. -/
theorem scaled_carries (a : PoolApi) (ns : String) (q : PoolRequest) (w : WaitSettings) :
    (do
      let started ← Task.clock
      awaitPool q.name w
      let elapsed := (← Task.clock).remaining started
      awaitCollector ns q.nodes w
      pure ⟨q.name, q.nodes, elapsed⟩ : Task (Remote (Recorder τ)) ScaledPool).Carries a
      fun now r n _ =>
        (∃ x, PoolWait a q.name ⟨w.nodePool, w.pollInterval⟩ now x n ∧ Task.Stops x r) ∨
          ∃ gets more, n = gets ++ more ∧
            PoolWait a q.name ⟨w.nodePool, w.pollInterval⟩ now (.ok (.ok ())) gets ∧
            (∀ c ∈ more, c.OnlyLooks) ∧ CollectorWait q w r := by
  apply Task.carries_clock_bind
  intro started
  apply (awaitPool_carries a q.name w).bind
  · intro _
    apply Task.carries_clock_bind
    intro finished
    apply (awaitCollector_carries a ns q w).bind
    · intro _
      apply Task.carries_still fun _ => rfl
      rintro _ _ more ⟨looks, -⟩ - now gets waited -
      rw [List.append_nil]
      exact .inr ⟨gets, more, rfl, waited, looks, .covered _⟩
    · rintro _ r x more _ ⟨looks, ends⟩ stops - now gets waited -
      exact .inr ⟨gets, more, rfl, waited, looks, ends x stops⟩
  · rintro now r x n _ waited stops -
    exact .inl ⟨r, waited, stops⟩

theorem scalePool_carries {b : Blueprint} (planned : b.planPool ns = .ok q) :
    (scalePool ns b w : Task (Remote (Recorder τ)) ScaledPool).Carries a fun _ r n _ =>
      Scaling a q w r n := by
  have created : (Task.call (.createPool q) : Task (Remote (Recorder τ)) Unit).Carries a
      fun now r n later => now.nanos ≤ later.nanos ∧
        ∃ x, r = .ok x ∧ (a.create q).Comes later x n := by
    apply Task.carries_call
    rintro r rfl
    rfl
  simp only [scalePool, planned, Task.ofConfig, pure_bind]
  apply created.bind
  · intro _
    apply (scaled_carries a ns q w).mono
    rintro middle r n _ onwards now m ⟨-, x, hx, comes⟩
    cases hx
    obtain ⟨f, -, wrong, -⟩ | ⟨response, rfl, granted, -⟩ := PoolApi.create_comes comes
    · cases wrong
    obtain ⟨y, waited, stops⟩ | ⟨gets, more, rfl, waited, looks, collector⟩ := onwards
    · exact .stopped rfl (granted rfl) waited stops
    · rw [List.singleton_append]
      exact .ran rfl (granted rfl) waited looks collector
  · rintro now r x m later ⟨-, y, rfl, comes⟩ stops
    cases stops with
    | fault f =>
      obtain ⟨f', made, same, rfl⟩ | ⟨response, rfl, -, refused⟩ := PoolApi.create_comes comes
      · cases same
        exact .unmade made
      · exact .refused rfl (refused ⟨f, rfl⟩)

end Scaling

/-- Whatever a transport answers and whenever, scaling asks for the pool once, looks at it until an
answer settles the wait, and ends as that answer says; without a plan nothing is carried. -/
theorem scales_over_web [Transport τ] (ns : String) (b : Blueprint) (w : WaitSettings)
    (s : Session (Remote (Recorder τ))) :
    ∃ n, ((scalePool ns b w).exec s).2.world.transport.carried = s.world.transport.carried ++ n ∧
      match b.planPool ns with
      | .error cause => ((scalePool ns b w).exec s).1 = .ok (.error (.config cause)) ∧ n = []
      | .ok q => Scaling s.world.pools q w ((scalePool ns b w).exec s).1 n := by
  cases planned : b.planPool ns with
  | error cause =>
    have ended : (scalePool ns b w).exec s = (.ok (.error (.config cause)), s) := by
      unfold scalePool
      rw [planned]
      rfl
    rw [ended]
    exact ⟨[], (List.append_nil _).symm, rfl, rfl⟩
  | ok q =>
    obtain ⟨r, s', n, ended, -, carried, scaling⟩ := scalePool_carries planned (w := w) s rfl
    rw [ended]
    exact ⟨n, carried, scaling⟩

/-! ### Prepared answers -/

/-- A transport that gives prepared answers one after the other, each after a second. -/
structure Prepared where
  answers : List (Option Http.Response)

namespace Prepared

instance : Transport Prepared where
  send t _ _ := (⟨.ofSeconds 1, t.answers.head?.join⟩, ⟨t.answers.tail⟩)

def pools : PoolApi := ⟨"http://localhost/nodePools", none⟩

def session (answers : List (Option Http.Response)) : Session (Remote (Recorder Prepared)) :=
  ⟨⟨⟨⟨answers⟩, []⟩, pools, .atEndpoint "http://localhost" none⟩, .zero, fun _ => ⟨0⟩, 1, []⟩

def waits : WaitSettings :=
  { (default : WaitSettings) with
    nodePool := .ofSeconds 60, collector := .ofSeconds 60, pollInterval := .ofSeconds 1 }

/-- The answers of a service that takes its time. The pool runs as soon as it is told so, whatever
else there is in the body. -/
def patient : List (Option Http.Response) :=
  [some ⟨200, "\x7b\x7d"⟩, some ⟨404, "no such pool"⟩, none, some ⟨503, "overloaded"⟩,
    some ⟨200, "\x7b\"status\":\"PROVISIONING\"\x7d"⟩,
    some ⟨200, "\x7b\"nodes\":1e999,\"status\":\"RUNNING\"\x7d"⟩,
    some ⟨200, "\x7b\"status\":\x7b\"desiredNumberScheduled\":1,\"numberReady\":1\x7d\x7d"⟩]

/-- The answers of a service that cannot make the pool. -/
def exhausted : List (Option Http.Response) :=
  [some ⟨200, ""⟩,
    some ⟨200, " \x7b \"status\" : \"ERROR\", \"statusMessage\" : \"quota\" \x7d "⟩]

/-- The answers of a service that does not know what it is asked. -/
def confused : List (Option Http.Response) :=
  [some ⟨200, ""⟩, some ⟨429, ""⟩, some ⟨200, "\x7b\"status\":null\x7d"⟩]

end Prepared

theorem scales_over_web_prepared :
    ∃ q, Blueprint.least.planPool "t" = .ok q ∧
      (∃ n, n.map Carried.response = Prepared.patient ∧
        Scaling Prepared.pools q Prepared.waits (.ok (.ok ⟨"pool-t", 1, .ofSeconds 9⟩)) n) ∧
      (∃ n, n.map Carried.response = Prepared.exhausted ∧
        Scaling Prepared.pools q Prepared.waits
          (.ok (.error (.cloud "node pool pool-t failed: quota"))) n) ∧
      ∃ n, n.map Carried.response = Prepared.confused ∧
        Scaling Prepared.pools q Prepared.waits
          (.ok (.error (.http (.undecodable "no node pool")))) n := by
  obtain ⟨q, planned⟩ : ∃ q, Blueprint.least.planPool "t" = .ok q := ⟨_, rfl⟩
  have run : ∀ answers x,
      ((scalePool "t" .least Prepared.waits).exec (Prepared.session answers)).1 = x →
      ((scalePool "t" .least Prepared.waits).exec
        (Prepared.session answers)).2.world.transport.carried.map Carried.response = answers →
      ∃ n, n.map Carried.response = answers ∧
        Scaling Prepared.pools q Prepared.waits x n := by
    intro answers x ended served
    obtain ⟨n, carried, scaled⟩ :=
      scales_over_web "t" .least Prepared.waits (Prepared.session answers)
    simp only [planned, ended] at scaled
    rw [carried] at served
    exact ⟨n, served, scaled⟩
  refine ⟨q, planned, ?_, ?_, ?_⟩
  · exact run Prepared.patient _ (by decide +kernel) (by decide +kernel)
  · exact run Prepared.exhausted _ (by decide +kernel) (by decide +kernel)
  · exact run Prepared.confused _ (by decide +kernel) (by decide +kernel)

end ProvingGround
