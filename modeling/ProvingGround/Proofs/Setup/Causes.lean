import ProvingGround.Proofs.Setup.Tasks
import ProvingGround.Proofs.Trace.Settling

/-!
# What a task of setup fails of

A task of setup fails of the last thing that happened: a call that was refused, a reading at which a
poll gave up, or the phase after which a part could not even begin. Up to there every call that is
no reading has been made once.
-/

namespace ProvingGround

open Text

variable {σ α : Type} {b : Blueprint} {st : Settings} {ns : String} {p : Phase} {t : List Deed}
  {E : List OneShot}

/-! ### Causes -/

def Blueprint.clientGroups (b : Blueprint) : List (String × NodeSpec) :=
  (clientGroup, b.client) :: b.clientv2.toList.map fun v2 => (secondClientGroup, v2.node)

/-- The phase in which setup stands while it is on the way to another. -/
def Phase.ground : Phase → Phase
  | provisioning => provisioning
  | loggingReady => provisioning
  | poolScaled => loggingReady
  | bootstrapReady => poolScaled
  | clientsReady => bootstrapReady
  | p => p

/-- What is made of a poll of the timing service that fails. -/
def timingFault (pod : Pod) : Fault → Fault
  | .readinessTimeout _ timeout => .dependencyNotReady pod.name timingPhrase timeout
  | f => f

/-- The deed makes setup in a namespace fail with a fault, on the way to a phase. -/
inductive Decides (b : Blueprint) (st : Settings) (ns : String) : Phase → Deed → Fault → Prop where
  | listing {f} : Decides b st ns .provisioning (.asked .listNamespaces (.error f)) f
  | taken {names} (exists_ : ns ∈ names) :
    Decides b st ns .provisioning (.asked .listNamespaces (.ok names))
      (.duplicateResource "namespace" ns)
  | creation {f} : Decides b st ns .provisioning (.asked (.createNamespace ns) (.error f)) f
  | loggingObject {m f} (stack : m ∈ loggingStack ns st.store) :
    Decides b st ns .loggingReady (.asked (.create ns m) (.error f)) f
  | loggingPoll {w x f} (stack : w ∈ loggingWorkloads)
    (ends : PollEnds "logging stack" st.waits.loggingStack (servingVerdict x) (.error f)) :
    Decides b st ns .loggingReady (.asked (.workloadStatus ns w) x) f
  | sizing {c} (plan : b.planPool ns = .error c) :
    Decides b st ns .poolScaled (.entered .loggingReady) (.config c)
  | poolCreation {r f} (plan : b.planPool ns = .ok r) :
    Decides b st ns .poolScaled (.asked (.createPool r) (.error f)) f
  | poolPoll {r x f} (plan : b.planPool ns = .ok r)
    (ends : PollEnds s!"node pool {r.name}" st.waits.nodePool (poolVerdict r.name x) (.error f)) :
    Decides b st ns .poolScaled (.asked (.poolStatus r.name) x) f
  | collectorPoll {r x f} (plan : b.planPool ns = .ok r)
    (ends : PollEnds s!"{collectorWorkload.text} on new nodes" st.waits.collector
      (coverVerdict r.nodes x) (.error f)) :
    Decides b st ns .poolScaled (.asked (.workloadStatus ns collectorWorkload) x) f
  | schedule {clock now c} (beyond : GenesisSchedule.compute b.genesisSpan clock now = .error c) :
    Decides b st ns .bootstrapReady (.entered .poolScaled) (.config c)
  | bootstrapObject {m f} (named : m.workload = ⟨.deployment, bootstrapGroup⟩) :
    Decides b st ns .bootstrapReady (.asked (.create ns m) (.error f)) f
  | bootstrapPoll {x f}
    (ends : PollEnds s!"{bootstrapGroup} pods" b.readySpan
      (groupVerdict (wantedPods b.bootstrap.replicas) x) (.error f)) :
    Decides b st ns .bootstrapReady (.asked (.listPods ns (podSelector bootstrapGroup)) x) f
  | timingPoll {pod x f}
    (ends : PollEnds "timing service log" b.readySpan (timingVerdict x) (.error f)) :
    Decides b st ns .bootstrapReady (.asked (.podLogs ns pod.name timingContainer) x)
      (timingFault pod f)
  | timingCall {pod f} :
    Decides b st ns .bootstrapReady (.asked (.startTiming ns pod timingStart) (.error f)) f
  | timingAnswer {pod response} (filled : trim response ≠ "\x7b\x7d") :
    Decides b st ns .bootstrapReady (.asked (.startTiming ns pod timingStart) (.ok response))
      (.initialization response)
  | clientObject {g m f} (group : g ∈ b.clientGroups) (named : m.workload = ⟨.deployment, g.1⟩) :
    Decides b st ns .clientsReady (.asked (.create ns m) (.error f)) f
  | clientPoll {g x f} (group : g ∈ b.clientGroups)
    (ends : PollEnds s!"{g.1} pods" b.readySpan
      (groupVerdict (wantedPods g.2.replicas) x) (.error f)) :
    Decides b st ns .clientsReady (.asked (.listPods ns (podSelector g.1)) x) f

theorem PollEnds.error_eq {what : String} {timeout : Duration} {y : Except Fault (Option α)}
    {f : Fault} (h : PollEnds what timeout y (.error f)) :
    y = .error f ∨ f = .readinessTimeout what timeout := by
  cases h with
  | final => exact .inl rfl
  | late => exact .inr rfl

theorem poolVerdict_eq_error {name : String} {x : Except Fault (Option PoolStatus)} {f : Fault}
    (h : poolVerdict name x = .error f) : x = .error f ∨ ∃ message, f = .cloud message := by
  unfold poolVerdict at h
  split at h
  · cases h
  · cases h
    exact .inr ⟨_, rfl⟩
  · cases h
  · cases h
  · cases h
    exact .inl rfl

/-- A fault that is not the answer to a call: setup makes it itself, after a deed and on the way to
a phase. -/
inductive OwnFault (b : Blueprint) (ns : String) : Phase → Deed → Fault → Prop where
  | taken {p d name} : OwnFault b ns p d (.duplicateResource "namespace" name)
  | late {p d what timeout} : OwnFault b ns p d (.readinessTimeout what timeout)
  | silent {p d pod phrase timeout} : OwnFault b ns p d (.dependencyNotReady pod phrase timeout)
  | broken {p d message} : OwnFault b ns p d (.cloud message)
  | unstarted {p d response} : OwnFault b ns p d (.initialization response)
  | unplanned {c} (plan : b.planPool ns = .error c) :
    OwnFault b ns .poolScaled (.entered .loggingReady) (.config c)
  | unscheduled {clock now c}
    (beyond : GenesisSchedule.compute b.genesisSpan clock now = .error c) :
    OwnFault b ns .bootstrapReady (.entered .poolScaled) (.config c)

theorem PollEnds.answered_or_own {β : Type} {what : String} {timeout : Duration} {met : β → Bool}
    {v : β → α} {x : Except Fault β} {d : Deed} {f : Fault}
    (h : PollEnds what timeout (metVerdict met v x) (.error f)) :
    x = .error f ∨ OwnFault b ns p d f := by
  rcases h.error_eq with judged | rfl
  · exact .inl (metVerdict_eq_error judged)
  · exact .inr .late

/-- What makes setup fail is an answer with the fault, or setup makes the fault itself. -/
theorem Decides.answered_or_own {d : Deed} {f : Fault} (h : Decides b st ns p d f) :
    (∃ c : Call, d = .asked c (.error f)) ∨ OwnFault b ns p d f := by
  cases h with
  | listing | creation | loggingObject | poolCreation | bootstrapObject | timingCall
  | clientObject => exact .inl ⟨_, rfl⟩
  | taken => exact .inr .taken
  | sizing plan => exact .inr (.unplanned plan)
  | schedule beyond => exact .inr (.unscheduled beyond)
  | timingAnswer => exact .inr .unstarted
  | loggingPoll stack ends => exact ends.answered_or_own.imp_left fun hx => ⟨_, congrArg _ hx⟩
  | collectorPoll plan ends => exact ends.answered_or_own.imp_left fun hx => ⟨_, congrArg _ hx⟩
  | bootstrapPoll ends => exact ends.answered_or_own.imp_left fun hx => ⟨_, congrArg _ hx⟩
  | clientPoll group ends => exact ends.answered_or_own.imp_left fun hx => ⟨_, congrArg _ hx⟩
  | poolPoll plan ends =>
    rcases ends.error_eq with judged | rfl
    · rcases poolVerdict_eq_error judged with refused | ⟨message, rfl⟩
      · exact .inl ⟨_, congrArg _ refused⟩
      · exact .inr .broken
    · exact .inr .late
  | @timingPoll pod x g ends =>
    rcases ends.error_eq with judged | rfl
    · rw [metVerdict_eq_error judged]
      unfold timingFault
      split
      · exact .inr .silent
      · exact .inl ⟨_, rfl⟩
    · exact .inr .silent

/-- Setup has no refused transition of its own: the fault has come with an answer. -/
theorem Decides.of_invalidTransition {d : Deed} {f : Fault} {source : Phase} {tr : Trigger}
    (h : Decides b st ns p d f) (hf : f = .invalidTransition source tr) :
    ∃ c : Call, d = .asked c (.error f) := by
  rcases h.answered_or_own with answered | own
  · exact answered
  · rw [hf] at own
    cases own

/-- What is configured fails at the plan of the pool or at the schedule of genesis, if the fault has
not come with an answer. -/
theorem Decides.of_config {d : Deed} {c : ConfigCause} (h : Decides b st ns p d (.config c)) :
    (∃ call : Call, d = .asked call (.error (.config c))) ∨ b.planPool ns = .error c ∨
      (p = .bootstrapReady ∧ d = .entered .poolScaled) ∧
        ∃ clock now, GenesisSchedule.compute b.genesisSpan clock now = .error c := by
  rcases h.answered_or_own with answered | own
  · exact .inl answered
  · cases own with
    | unplanned plan => exact .inr (.inl plan)
    | unscheduled beyond => exact .inr (.inr ⟨⟨rfl, rfl⟩, _, _, beyond⟩)

/-- On the way to a phase setup has failed with a fault, which the last deed has decided. -/
structure Blamed (b : Blueprint) (st : Settings) (ns : String) (p : Phase) (f : Fault)
    (t : List Deed) : Prop where
  decided : ∃ pre d, t = pre ++ [d] ∧ Decides b st ns p d f
  order : (oneShots t).Sublist OneShot.deployed

theorem Clear.blamed {d : Deed} {f : Fault} {n : List Deed} (clear : Clear E (t ++ n))
    (within : E.Sublist OneShot.deployed) (last : ∃ pre, t ++ n = pre ++ [d])
    (decides : Decides b st ns p d f) : Blamed b st ns p f (t ++ n) := by
  obtain ⟨pre, hn⟩ := last
  exact ⟨⟨pre, d, hn, decides⟩, clear.order.trans within⟩

/-! ### Calls and polls -/

section Parts

variable [Services σ]

/-- A call that is made once, after a clear trace. -/
theorem oneShot_settles {c : Call} {o : OneShot} (clear : Clear E t) (shot : c.oneShot? = some o)
    (new : o ∉ E) (within : (E ++ [o]).Sublist OneShot.deployed)
    (free : ∀ other, c = .createNamespace other →
      ∃ names, .asked .listNamespaces (.ok names) ∈ t ∧ other ∉ names)
    (blame : ∀ f, Decides b st ns p (.asked c (.error f)) f) :
    (Task.call c : Task σ c.Answer).Settles AskingLaw t
      (fun v later => later = t ++ [.asked c (.ok v)] ∧ Clear (E ++ [o]) later)
      (Blamed b st ns p) := by
  have asked : ∀ x, AskingLaw t (.asked c x) := by
    intro x
    refine ⟨?_, fun hindered => absurd hindered clear.unhindered, free⟩
    intro o' ho
    rw [shot] at ho
    cases ho
    exact fun hm => new (clear.order.subset hm)
  apply Task.settles_call asked
  · intro v
    exact ⟨rfl, clear.granted shot⟩
  · intro f
    refine ⟨⟨t, _, rfl, blame f⟩, ?_⟩
    have single : oneShots [.asked c (.error f)] = [o] := by
      simp [oneShots, Deed.oneShot?, shot]
    rw [oneShots_append, single]
    exact (clear.order.append (List.Sublist.refl _)).trans within

omit [Services σ] in
theorem judgedPoll_settles {what : String} {l : PollLimits} {check : Task σ (Option α)} {c : Call}
    {judge : Except Fault c.Answer → Except Fault (Option α)} (clear : Clear E t)
    (within : E.Sublist OneShot.deployed) (hc : check.Traces (Judged c judge))
    (reading : c.oneShot? = none)
    (blame : ∀ x f, PollEnds what l.timeout (judge x) (.error f) →
      Decides b st ns p (.asked c x) f) :
    (poll what l check).Settles AskingLaw t
      (fun v later => Clear E later ∧ ∃ x, judge x = .ok (some v)) (Blamed b st ns p) := by
  have reads : check.Traces (Reads fun d y => ∃ x, d = .asked c x ∧ y = judge x) :=
    hc.mono fun _ _ h => h.reads reading
  apply (poll_settles clear reads).mono
  · intro v n settled
    obtain ⟨still, pre, d, y, -, ⟨x, -, rfl⟩, ends⟩ := settled
    refine ⟨still, x, ?_⟩
    generalize judge x = y at ends
    cases ends
    rfl
  · intro f n settled
    obtain ⟨still, pre, d, y, hn, ⟨x, rfl, rfl⟩, ends⟩ := settled
    exact still.blamed within ⟨pre, hn⟩ (blame x f ends)

/-! ### The namespace -/

theorem claimNamespace_settles (clear : Clear [] t) :
    (claimNamespace ns : Task σ Unit).Settles AskingLaw t
      (fun _ later => Clear OneShot.claimed later) (Blamed b st ns .provisioning) := by
  have list : (Task.call .listNamespaces : Task σ (List String)).Settles AskingLaw t
      (fun names later => later = t ++ [.asked .listNamespaces (.ok names)] ∧
        Clear [.listing] later) (Blamed b st ns .provisioning) :=
    oneShot_settles clear rfl List.not_mem_nil (by decide) nofun fun _ => .listing
  apply list.seq
  intro names n listed
  obtain ⟨hn, still⟩ := listed
  split
  next taken =>
    apply Task.settles_throw
    exact still.blamed (by decide) ⟨t, hn⟩ (.taken (List.contains_iff_mem.1 taken))
  next free =>
    have listed : ∀ other, Call.createNamespace ns = .createNamespace other →
        ∃ names, .asked .listNamespaces (.ok names) ∈ t ++ n ∧ other ∉ names := by
      intro other same
      cases same
      refine ⟨names, ?_, fun taken => free (List.contains_iff_mem.2 taken)⟩
      rw [hn]
      exact List.mem_append_right t List.mem_cons_self
    apply (oneShot_settles still rfl (by decide) (by decide) listed fun _ => .creation).mono
    · intro _ _ created
      exact created.2
    · intro _ _ blamed
      exact blamed

/-! ### The logging stack -/

theorem createAll_settles {objects : List Manifest} (clear : Clear E t)
    (stack : objects ⊆ loggingStack ns st.store)
    (new : (E ++ objects.map fun m => OneShot.object m.workload).Nodup)
    (within : (E ++ objects.map fun m => OneShot.object m.workload).Sublist OneShot.deployed) :
    (createAll ns objects : Task σ Unit).Settles AskingLaw t
      (fun _ later => Clear (E ++ objects.map fun m => .object m.workload) later)
      (Blamed b st ns .loggingReady) := by
  induction objects generalizing E t with
  | nil =>
    apply Task.settles_pure
    simpa using clear
  | cons m rest ih =>
    have split : E ++ (m :: rest).map (fun m => OneShot.object m.workload) =
        (E ++ [.object m.workload]) ++ rest.map fun m => OneShot.object m.workload := by simp
    have first : OneShot.object m.workload ∉ E := by
      intro hm
      have disjoint := (List.nodup_append.1 new).2.2
      exact disjoint _ hm _ List.mem_cons_self rfl
    rw [split] at new within ⊢
    have within' : (E ++ [OneShot.object m.workload]).Sublist OneShot.deployed :=
      (List.sublist_append_left _ _).trans within
    have create : (Task.call (.create ns m) : Task σ Unit).Settles AskingLaw t
        (fun _ later => later = t ++ [.asked (.create ns m) (.ok ())] ∧
          Clear (E ++ [.object m.workload]) later) (Blamed b st ns .loggingReady) :=
      oneShot_settles clear rfl first within' nofun
        fun _ => .loggingObject (stack List.mem_cons_self)
    apply create.seq
    intro _ n created
    exact ih created.2 (fun _ h => stack (List.mem_cons_of_mem m h)) new within

theorem deployLogging_settles {interval : Duration} (clear : Clear OneShot.claimed t) :
    (deployLogging ns st.store ⟨st.waits.loggingStack, interval⟩ : Task σ Unit).Settles AskingLaw t
      (fun _ later => Clear OneShot.logged later) (Blamed b st ns .loggingReady) := by
  have logged := loggingStack_oneShots ns st.store
  have objects : (createAll ns (loggingStack ns st.store) : Task σ Unit).Settles AskingLaw t
      (fun _ later => Clear OneShot.logged later) (Blamed b st ns .loggingReady) := by
    rw [logged]
    apply createAll_settles clear (List.Subset.refl _)
    · rw [← logged]
      decide
    · rw [← logged]
      decide
  apply objects.seq
  intro _ n created
  have reads : (checkServing ns loggingWorkloads : Task σ (Option Unit)).Traces
      (Reads fun d y => ∃ w ∈ loggingWorkloads, ∃ x, d = .asked (.workloadStatus ns w) x ∧
        y = servingVerdict x) :=
    (checkServing_traces ns loggingWorkloads).mono fun _ _ h => h.reads (List.cons_ne_nil _ _)
  apply (poll_settles created reads).mono
  · intro _ _ settled
    exact settled.1
  · intro f m settled
    obtain ⟨still, pre, d, y, hm, ⟨w, stack, x, rfl, rfl⟩, ends⟩ := settled
    exact still.blamed (by decide) ⟨pre, hm⟩ (.loggingPoll stack ends)

/-! ### The pool -/

theorem scalePool_settles (clear : Clear OneShot.logged t)
    (last : ∃ pre, t = pre ++ [.entered .loggingReady]) :
    (scalePool ns b st.waits : Task σ ScaledPool).Settles AskingLaw t
      (fun _ later => Clear OneShot.pooled later) (Blamed b st ns .poolScaled) := by
  have plan : (Task.ofConfig (b.planPool ns) : Task σ PoolRequest).Settles AskingLaw t
      (fun r later => later = t ∧ b.planPool ns = .ok r) (Blamed b st ns .poolScaled) := by
    apply Task.settles_ofConfig
    · intro r hr
      exact ⟨rfl, hr⟩
    · intro c hc
      obtain ⟨pre, ht⟩ := last
      exact ⟨⟨pre, _, ht, .sizing hc⟩, clear.order.trans (by decide)⟩
  apply plan.seq
  intro r n planned
  obtain ⟨hn, plan⟩ := planned
  rw [hn]
  have create : (Task.call (.createPool r) : Task σ Unit).Settles AskingLaw t
      (fun _ later => later = t ++ [.asked (.createPool r) (.ok ())] ∧
        Clear OneShot.pooled later) (Blamed b st ns .poolScaled) :=
    oneShot_settles clear rfl (by decide) (by decide) nofun fun _ => .poolCreation plan
  apply create.seq
  intro _ m created
  apply Task.Settles.after_silent Task.traces_clock
  intro started
  have pool : (awaitPool r.name st.waits : Task σ Unit).Settles AskingLaw (t ++ m)
      (fun _ later => Clear OneShot.pooled later ∧ ∃ x, poolVerdict r.name x = .ok (some ()))
      (Blamed b st ns .poolScaled) :=
    judgedPoll_settles created.2 (by decide) (checkPool_judged r.name) rfl
      fun _ _ ends => .poolPoll plan ends
  apply pool.seq
  intro _ k ran
  apply Task.Settles.after_silent Task.traces_clock
  intro finished
  have collector : (awaitCollector ns r.nodes st.waits : Task σ Unit).Settles AskingLaw
      (t ++ m ++ k)
      (fun _ later => Clear OneShot.pooled later ∧ ∃ x, coverVerdict r.nodes x = .ok (some ()))
      (Blamed b st ns .poolScaled) :=
    judgedPoll_settles ran.1 (by decide) (checkCollector_judged ns r.nodes) rfl
      fun _ _ ends => .collectorPoll plan ends
  apply collector.seq
  intro _ j covered
  exact Task.settles_pure covered.1

/-! ### Groups -/

omit [Services σ] in
theorem startGenesis_settles (clear : Clear E t) (within : E.Sublist OneShot.deployed)
    (last : ∃ pre, t = pre ++ [.entered .poolScaled]) :
    (GenesisSchedule.start b.genesisSpan : Task σ GenesisSchedule).Settles AskingLaw t
      (fun _ later => later = t) (Blamed b st ns .bootstrapReady) := by
  apply Task.Settles.after_silent Task.traces_clock
  intro clock
  have today : (Task.lift Act.today : Task σ Timestamp).Settles AskingLaw t
      (fun _ later => later = t) (Blamed b st ns .bootstrapReady) :=
    Task.settles_lift (Act.obeys_of_silent (Act.traces_today fun _ => rfl))
  apply today.seq
  intro now n hn
  rw [hn]
  apply Task.settles_ofConfig
  · intro _ _
    rfl
  · intro c beyond
    obtain ⟨pre, ht⟩ := last
    exact ⟨⟨pre, _, ht, .schedule beyond⟩, clear.order.trans within⟩

theorem awaitGroup_settles {group : String} {replicas : Int} {l : PollLimits} (clear : Clear E t)
    (within : E.Sublist OneShot.deployed)
    (blame : ∀ x f, PollEnds s!"{group} pods" l.timeout
        (groupVerdict (wantedPods replicas) x) (.error f) →
      Decides b st ns p (.asked (.listPods ns (podSelector group)) x) f) :
    (awaitGroup ns group replicas l : Task σ NodeGroup).Settles AskingLaw t
      (fun g later => Clear E later ∧ ∃ pod, g.firstPod = .ok pod) (Blamed b st ns p) := by
  have pods : (poll s!"{group} pods" l (checkGroup ns group (wantedPods replicas)) :
      Task σ (List Pod)).Settles AskingLaw t
      (fun v later => Clear E later ∧ ∃ x, groupVerdict (wantedPods replicas) x = .ok (some v))
      (Blamed b st ns p) :=
    judgedPoll_settles clear within (checkGroup_judged ns group (wantedPods replicas)) rfl blame
  apply pods.seq
  intro v n listed
  obtain ⟨still, x, met⟩ := listed
  obtain ⟨pods, -, whole, rfl⟩ := metVerdict_eq_some met
  obtain ⟨pod, first, -⟩ := firstPod_of_isWholeGroup group ns whole
  exact Task.settles_pure ⟨still, pod, first⟩

theorem awaitTiming_settles {pod : Pod} {l : PollLimits} (clear : Clear E t)
    (within : E.Sublist OneShot.deployed) (span : l.timeout = b.readySpan) :
    (awaitTiming ns pod l : Task σ Unit).Settles AskingLaw t (fun _ later => Clear E later)
      (Blamed b st ns .bootstrapReady) := by
  have reads : (checkTiming ns pod.name : Task σ (Option Unit)).Traces
      (Reads fun d y => ∃ x, d = .asked (.podLogs ns pod.name timingContainer) x ∧
        y = timingVerdict x) :=
    (checkTiming_judged ns pod.name).mono fun _ _ h => h.reads rfl
  have polled : (poll "timing service log" l (checkTiming ns pod.name) :
      Task σ Unit).Settles AskingLaw t (fun _ later => Clear E later)
      fun f later => Blamed b st ns .bootstrapReady (timingFault pod f) later := by
    apply (poll_settles clear reads).mono
    · intro _ _ settled
      exact settled.1
    · intro f n settled
      obtain ⟨still, pre, d, y, hn, ⟨x, rfl, rfl⟩, ends⟩ := settled
      rw [span] at ends
      exact still.blamed within ⟨pre, hn⟩ (.timingPoll ends)
  have attempt : (Task.lift (poll "timing service log" l (checkTiming ns pod.name)).attempt :
      Task σ (Except Fault Unit)).Settles AskingLaw t
      (Task.Meets (fun _ later => Clear E later)
        fun f later => Blamed b st ns .bootstrapReady (timingFault pod f) later)
      (Blamed b st ns .bootstrapReady) := Task.settles_lift polled
  apply attempt.seq
  intro r n settled
  split
  · exact Task.settles_pure settled
  · exact Task.settles_throw settled
  next f other =>
    have same : timingFault pod f = f := by
      unfold timingFault
      split
      · exact absurd rfl (other _ _)
      · rfl
    apply Task.settles_throw
    rw [← same]
    exact settled

theorem startTiming_settles {pod : Pod} (clear : Clear E t) (new : OneShot.timing ∉ E)
    (within : (E ++ [OneShot.timing]).Sublist OneShot.deployed) :
    (startTiming ns pod : Task σ Unit).Settles AskingLaw t
      (fun _ later => Clear (E ++ [.timing]) later) (Blamed b st ns .bootstrapReady) := by
  have start : (Task.call (.startTiming ns pod timingStart) : Task σ String).Settles AskingLaw t
      (fun response later =>
        later = t ++ [.asked (.startTiming ns pod timingStart) (.ok response)] ∧
          Clear (E ++ [.timing]) later) (Blamed b st ns .bootstrapReady) :=
    oneShot_settles clear rfl new within nofun fun _ => .timingCall
  apply start.seq
  intro response n started
  obtain ⟨hn, still⟩ := started
  split
  · exact Task.settles_pure still
  next filled =>
    apply Task.settles_throw
    exact still.blamed within ⟨t, hn⟩ (.timingAnswer filled)

theorem deployBootstrap_settles {plan : DeploymentPlan} (clear : Clear OneShot.pooled t) :
    (plan.deployBootstrap b.bootstrap b.readySpan : Task σ NodeGroup).Settles AskingLaw t
      (fun g later => Clear OneShot.bootstrapped later ∧ ∃ pod, g.firstPod = .ok pod)
      (Blamed b st plan.ns .bootstrapReady) := by
  have create : (Task.call (.create plan.ns (plan.placement.bootstrap b.bootstrap)) :
      Task σ Unit).Settles AskingLaw t
      (fun _ later => later = t ++
          [.asked (.create plan.ns (plan.placement.bootstrap b.bootstrap)) (.ok ())] ∧
        Clear (OneShot.pooled ++ [.ofObject .deployment bootstrapGroup]) later)
      (Blamed b st plan.ns .bootstrapReady) :=
    oneShot_settles clear rfl (by decide) (by decide) nofun fun _ => .bootstrapObject rfl
  apply create.seq
  intro _ n created
  apply (awaitGroup_settles created.2 (by decide) fun _ _ ends => .bootstrapPoll ends).seq
  intro group m found
  obtain ⟨still, pod, first⟩ := found
  have config : (Task.ofConfig group.firstPod : Task σ Pod) = pure pod := by
    rw [first]
    rfl
  rw [config, pure_bind]
  apply (awaitTiming_settles still (by decide) rfl).seq
  intro _ k listens
  apply (startTiming_settles listens (by decide) (by decide)).seq
  intro _ j started
  exact Task.settles_pure ⟨started, pod, first⟩

theorem deployClients_settles {plan : DeploymentPlan} {group : String} {s : NodeSpec} {pod : Pod}
    (listed : (group, s) ∈ b.clientGroups) (clear : Clear E t)
    (new : OneShot.ofObject .deployment group ∉ E)
    (within : (E ++ [OneShot.ofObject .deployment group]).Sublist OneShot.deployed) :
    (plan.deployClients group s pod b.readySpan : Task σ NodeGroup).Settles AskingLaw t
      (fun _ later => Clear (E ++ [.ofObject .deployment group]) later)
      (Blamed b st plan.ns .clientsReady) := by
  have create : (Task.call (.create plan.ns (plan.placement.clients group s pod)) :
      Task σ Unit).Settles AskingLaw t
      (fun _ later => later = t ++
          [.asked (.create plan.ns (plan.placement.clients group s pod)) (.ok ())] ∧
        Clear (E ++ [.ofObject .deployment group]) later) (Blamed b st plan.ns .clientsReady) :=
    oneShot_settles clear rfl new within nofun fun _ => .clientObject listed rfl
  apply create.seq
  intro _ n created
  apply (awaitGroup_settles created.2 within fun _ _ ends => .clientPoll listed ends).mono
  · intro _ _ found
    exact found.1
  · intro _ _ blamed
    exact blamed

end Parts

end ProvingGround
