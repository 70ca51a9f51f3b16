import Mathlib.Data.List.Forall2
import ProvingGround.Deployment.Logging
import ProvingGround.Deployment.Nodes
import ProvingGround.Pool.Scale
import ProvingGround.Proofs.Trace.Poll

/-!
# Traces of checks

What a check asks of the services, and which answers make it ready. All checks but one make a single
call; a check of workloads asks for one after the other, and is ready when all of them serve.
-/

namespace ProvingGround

open Text

variable {σ α : Type}

/-! ### Checks of one call -/

/-- The check makes one call, and judges the answer. -/
def Judged (c : Call) (judge : Except Fault c.Answer → Except Fault (Option α))
    (r : Task.Ending (Option α)) (n : List Deed) : Prop :=
  ∃ x, n = [.asked c x] ∧ r = .ok (judge x)

theorem judged_call [Services σ] {c : Call}
    {judge : Except Fault c.Answer → Except Fault (Option α)} {next : c.Answer → Task σ (Option α)}
    (refused : ∀ f, judge (.error f) = .error f)
    (answered : ∀ a, (next a).Traces fun r n => n = [] ∧ r = .ok (judge (.ok a))) :
    (Task.call c >>= next).Traces (Judged c judge) := by
  apply Task.traces_call_bind
  · intro a
    apply (answered a).mono
    intro r n given
    obtain ⟨rfl, rfl⟩ := given
    exact ⟨.ok a, rfl, rfl⟩
  · intro f
    exact ⟨.error f, rfl, congrArg _ (refused f).symm⟩

/-- The check makes one call, and its value is read off the answer. -/
def AnsweredBy (c : Call) (ready : c.Answer → α → Prop) (r : Task.Ending (Option α))
    (n : List Deed) : Prop :=
  ∃ x, n = [.asked c x] ∧ ∀ v, r = .ok (.ok (some v)) → ∃ a, x = .ok a ∧ ready a v

theorem Judged.answeredBy {c : Call} {judge : Except Fault c.Answer → Except Fault (Option α)}
    {ready : c.Answer → α → Prop} {r : Task.Ending (Option α)} {n : List Deed}
    (h : Judged c judge r n) (yields : ∀ x v, judge x = .ok (some v) → ∃ a, x = .ok a ∧ ready a v) :
    AnsweredBy c ready r n := by
  obtain ⟨x, hn, rfl⟩ := h
  exact ⟨x, hn, fun v hv => yields x v (Except.ok.inj hv)⟩

/-! ### Verdicts on answers -/

/-- An answer that is no fault may meet what is waited for. -/
def metVerdict {β : Type} (met : β → Bool) (v : β → α) :
    Except Fault β → Except Fault (Option α)
  | .ok a => .ok (if met a then some (v a) else none)
  | .error f => .error f

theorem metVerdict_eq_some {β : Type} {met : β → Bool} {v : β → α} {x : Except Fault β} {w : α}
    (h : metVerdict met v x = .ok (some w)) : ∃ a, x = .ok a ∧ met a = true ∧ v a = w := by
  cases x with
  | error f => cases h
  | ok a =>
    by_cases hm : met a = true
    · simp only [metVerdict, if_pos hm, Except.ok.injEq, Option.some.injEq] at h
      exact ⟨a, rfl, hm, h⟩
    · simp [metVerdict, hm] at h

theorem metVerdict_eq_error {β : Type} {met : β → Bool} {v : β → α} {x : Except Fault β}
    {f : Fault} (h : metVerdict met v x = .error f) : x = .error f := by
  cases x with
  | error g =>
    cases h
    rfl
  | ok a => cases h

/-- What is made of the status of a pool. -/
def poolVerdict (name : String) : Except Fault (Option PoolStatus) → Except Fault (Option Unit)
  | .ok (some .running) => .ok (some ())
  | .ok (some (.failed message)) => .error (.cloud s!"node pool {name} failed: {message}")
  | .ok (some .provisioning) => .ok none
  | .ok none => .ok none
  | .error f => .error f

/-- What is made of the counts of a workload of the logging stack. -/
def servingVerdict : Except Fault (Option ReplicaCounts) → Except Fault (Option Unit) :=
  metVerdict (fun counts => counts.any (·.isServing)) fun _ => ()

/-- What is made of the counts of the collector. -/
def coverVerdict (nodes : Nat) : Except Fault (Option ReplicaCounts) → Except Fault (Option Unit) :=
  metVerdict (fun counts => counts.any (·.covers nodes)) fun _ => ()

/-- What is made of the pods of a group. -/
def groupVerdict (wanted : Nat) : Except Fault (List Pod) → Except Fault (Option (List Pod)) :=
  metVerdict (isWholeGroup wanted) id

/-- What is made of the log of the timing service. -/
def timingVerdict : Except Fault String → Except Fault (Option Unit) :=
  metVerdict (holds · timingPhrase) fun _ => ()

/-! ### Polls -/

theorem poll_answered_obeys {what : String} {l : PollLimits} {check : Task σ (Option α)} {c : Call}
    {ready : c.Answer → α → Prop} {law : List Deed → Deed → Prop} {t : List Deed}
    (hc : check.Traces (AnsweredBy c ready)) (lawful : ∀ m x, law (t ++ m) (.asked c x)) :
    (poll what l check).Obeys law t fun v later =>
      ∃ m a, later = t ++ m ++ [.asked c (.ok a)] ∧ ready a v := by
  have hp : (poll what l check).Obeys law t fun v later =>
      ∃ m k, later = t ++ m ++ k ∧ AnsweredBy c ready (.ok (.ok (some v))) k := by
    apply poll_obeys hc
    intro m x k given
    obtain ⟨a, rfl, -⟩ := given
    exact .single (lawful m a)
  apply hp.mono
  intro v n given
  obtain ⟨m, k, h, x, rfl, hx⟩ := given
  obtain ⟨a, rfl, ha⟩ := hx v rfl
  exact ⟨m, a, h, ha⟩

section Checks

variable [Services σ]

theorem checkPool_judged (name : String) :
    (checkPool name : Task σ (Option Unit)).Traces (Judged (.poolStatus name) (poolVerdict name)) := by
  apply judged_call (fun _ => rfl)
  intro status
  split
  · exact Task.traces_pure ⟨rfl, rfl⟩
  · exact Task.traces_throw ⟨rfl, rfl⟩
  · exact Task.traces_pure ⟨rfl, rfl⟩
  · exact Task.traces_pure ⟨rfl, rfl⟩

theorem checkCollector_judged (ns : String) (nodes : Nat) :
    (checkCollector ns nodes : Task σ (Option Unit)).Traces
      (Judged (.workloadStatus ns collectorWorkload) (coverVerdict nodes)) := by
  apply judged_call (fun _ => rfl)
  intro status
  split
  next counts => exact Task.traces_pure ⟨rfl, rfl⟩
  · exact Task.traces_pure ⟨rfl, rfl⟩

theorem checkGroup_judged (ns group : String) (wanted : Nat) :
    (checkGroup ns group wanted : Task σ (Option (List Pod))).Traces
      (Judged (.listPods ns (podSelector group)) (groupVerdict wanted)) := by
  apply judged_call (fun _ => rfl)
  intro pods
  exact Task.traces_pure ⟨rfl, rfl⟩

theorem checkTiming_judged (ns pod : String) :
    (checkTiming ns pod : Task σ (Option Unit)).Traces
      (Judged (.podLogs ns pod timingContainer) timingVerdict) := by
  apply judged_call (fun _ => rfl)
  intro log
  exact Task.traces_pure ⟨rfl, rfl⟩

theorem checkPool_traces (name : String) :
    (checkPool name : Task σ (Option Unit)).Traces
      (AnsweredBy (.poolStatus name) fun status _ => status = some .running) := by
  apply (checkPool_judged name).mono
  intro r n h
  apply h.answeredBy
  intro x v hv
  unfold poolVerdict at hv
  split at hv
  · exact ⟨_, rfl, rfl⟩
  all_goals cases hv

theorem checkCollector_traces (ns : String) (nodes : Nat) :
    (checkCollector ns nodes : Task σ (Option Unit)).Traces
      (AnsweredBy (.workloadStatus ns collectorWorkload) fun status _ =>
        ∃ counts : ReplicaCounts, status = some counts ∧ counts.covers nodes = true) := by
  apply (checkCollector_judged ns nodes).mono
  intro r n h
  apply h.answeredBy
  intro x v hv
  obtain ⟨status, rfl, met, -⟩ := metVerdict_eq_some hv
  exact ⟨status, rfl, (Option.any_eq_true _ _).1 met⟩

theorem checkGroup_traces (ns group : String) (wanted : Nat) :
    (checkGroup ns group wanted : Task σ (Option (List Pod))).Traces
      (AnsweredBy (.listPods ns (podSelector group)) fun pods v =>
        v = pods ∧ isWholeGroup wanted pods = true) := by
  apply (checkGroup_judged ns group wanted).mono
  intro r n h
  apply h.answeredBy
  intro x v hv
  obtain ⟨pods, rfl, met, same⟩ := metVerdict_eq_some hv
  exact ⟨pods, rfl, same.symm, met⟩

theorem checkTiming_traces (ns pod : String) :
    (checkTiming ns pod : Task σ (Option Unit)).Traces
      (AnsweredBy (.podLogs ns pod timingContainer) fun log _ =>
        holds log timingPhrase = true) := by
  apply (checkTiming_judged ns pod).mono
  intro r n h
  apply h.answeredBy
  intro x v hv
  obtain ⟨log, rfl, met, -⟩ := metVerdict_eq_some hv
  exact ⟨log, rfl, met⟩

/-! ### Passes over workloads -/

/-- What one pass over workloads can do. -/
inductive PassTrace (ns : String) :
    List Workload → Task.Ending (Option Unit) → List Deed → Prop where
  | served : PassTrace ns [] (.ok (.ok (some ()))) []
  | failed (w rest f) :
    PassTrace ns (w :: rest) (.ok (.error f)) [.asked (.workloadStatus ns w) (.error f)]
  | idle (w rest) {x : Option ReplicaCounts} (unready : x.any (·.isServing) = false) :
    PassTrace ns (w :: rest) (.ok (.ok none)) [.asked (.workloadStatus ns w) (.ok x)]
  | serves (w) {rest c r n} (h : c.isServing = true) (later : PassTrace ns rest r n) :
    PassTrace ns (w :: rest) r (.asked (.workloadStatus ns w) (.ok (some c)) :: n)

theorem isServing_traces (ns : String) (w : Workload) :
    (isServing ns w : Task σ Bool).Traces fun r n => ∃ x, n = [.asked (.workloadStatus ns w) x] ∧
      r = .ok (x.map fun counts => counts.any (·.isServing)) := by
  apply Task.traces_call_bind
  · intro counts
    cases counts with
    | none => exact Task.traces_pure ⟨_, rfl, rfl⟩
    | some c => exact Task.traces_pure ⟨_, rfl, rfl⟩
  · intro f
    exact ⟨_, rfl, rfl⟩

theorem checkServing_traces (ns : String) (ws : List Workload) :
    (checkServing ns ws : Task σ (Option Unit)).Traces (PassTrace ns ws) := by
  induction ws with
  | nil => exact Task.traces_pure .served
  | cons w rest ih =>
    apply (isServing_traces ns w).bind
    · intro v m given
      obtain ⟨_ | x, rfl, hx⟩ := given
      · cases hx
      have hv : v = x.any (·.isServing) := Except.ok.inj (Except.ok.inj hx)
      cases v with
      | false => exact Task.traces_pure (.idle w rest hv.symm)
      | true =>
        obtain ⟨c, rfl, hc⟩ := (Option.any_eq_true _ _).1 hv.symm
        apply (show (checkServing ns rest : Task σ (Option Unit)).Traces _ from ih).mono
        intro r n hr
        exact .serves w hc hr
    · intro r y m given stop
      obtain ⟨x, rfl, rfl⟩ := given
      cases x with
      | ok v => cases stop
      | error f =>
        cases stop
        exact .failed w rest f

/-- The deeds of a pass in which every workload serves. -/
def ServingPass (ns : String) (ws : List Workload) (n : List Deed) : Prop :=
  List.Forall₂ (fun w d => ∃ c : ReplicaCounts, c.isServing = true ∧
    d = .asked (.workloadStatus ns w) (.ok (some c))) ws n

theorem PassTrace.servingPass {ns : String} {ws : List Workload} {r : Task.Ending (Option Unit)}
    {n : List Deed} (h : PassTrace ns ws r n) (hr : r = .ok (.ok (some ()))) :
    ServingPass ns ws n := by
  induction h with
  | served => exact .nil
  | failed | idle => cases hr
  | serves w hc _ ih => exact .cons ⟨_, hc, rfl⟩ (ih hr)

theorem PassTrace.lawful {ns : String} {ws : List Workload} {r : Task.Ending (Option Unit)}
    {n : List Deed} {law : List Deed → Deed → Prop} {t : List Deed} (h : PassTrace ns ws r n)
    (status : ∀ m w x, law (t ++ m) (.asked (.workloadStatus ns w) x)) : Lawful law t n := by
  induction h generalizing t with
  | served => trivial
  | failed w | idle w =>
    have hs := status [] w
    rw [List.append_nil] at hs
    exact .single (hs _)
  | @serves w _ c _ n _ _ ih =>
    have hs := status [] w
    rw [List.append_nil] at hs
    refine ⟨hs _, ih ?_⟩
    intro m w' x
    rw [List.append_assoc]
    exact status _ w' x

theorem awaitServing_obeys {what : String} {l : PollLimits} {ns : String} {ws : List Workload}
    {law : List Deed → Deed → Prop} {t : List Deed}
    (status : ∀ m w x, law (t ++ m) (.asked (.workloadStatus ns w) x)) :
    (poll what l (checkServing ns ws) : Task σ Unit).Obeys law t fun _ later =>
      ∃ m k, later = t ++ m ++ k ∧ ServingPass ns ws k := by
  have hp : (poll what l (checkServing ns ws) : Task σ Unit).Obeys law t fun v later =>
      ∃ m k, later = t ++ m ++ k ∧ PassTrace ns ws (.ok (.ok (some v))) k := by
    apply poll_obeys (checkServing_traces ns ws)
    intro m x k h
    apply h.lawful
    intro m' w y
    rw [List.append_assoc]
    exact status _ w y
  apply hp.mono
  intro v n given
  obtain ⟨m, k, h, hk⟩ := given
  exact ⟨m, k, h, hk.servingPass rfl⟩

end Checks

end ProvingGround
