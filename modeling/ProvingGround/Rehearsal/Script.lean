import ProvingGround.Session.Basic

/-!
# Scripts of services

A script says what services answer, call by call: for each kind of call, and for some kinds for each
name, a list of cues. Every call takes the next cue, and the last cue stays. A cue may leave the
answer to the rehearsal, and may only delay it.
-/

namespace ProvingGround

structure Cue (α : Type) where
  delay : Duration := .zero
  /-- The answer; without it the usual one is given. -/
  result : Option (Except Fault α) := none

namespace Cue

/-- The cue for the next call, and the cues for those after it. -/
def next {α : Type} : List (Cue α) → Cue α × List (Cue α)
  | [] => ({}, [])
  | [c] => (c, [c])
  | c :: d :: rest => (c, d :: rest)

/-- The last cue stays. -/
theorem next_singleton {α : Type} (c : Cue α) : next [c] = (c, [c]) := rfl

end Cue

structure Script where
  listNamespaces : List (Cue (List String)) := []
  createNamespace : List (Cue Unit) := []
  /-- By kind and name of the object. -/
  create : Keyed (List (Cue Unit)) := ∅
  /-- By selector. -/
  listPods : Keyed (List (Cue (List Pod))) := ∅
  podLogs : List (Cue String) := []
  /-- By kind and name of the workload. -/
  workloadStatus : Keyed (List (Cue (Option ReplicaCounts))) := ∅
  /-- By name of the service. -/
  serviceAddress : Keyed (List (Cue (Option String))) := ∅
  createPool : List (Cue Unit) := []
  poolStatus : List (Cue (Option PoolStatus)) := []
  submit : List (Cue Unit) := []
  startTiming : List (Cue String) := []

namespace Script

def nextAt {α : Type} (cues : Keyed (List (Cue α))) (key : String) :
    Cue α × Keyed (List (Cue α)) :=
  let (cue, later) := Cue.next ((cues.get? key).getD [])
  (cue, cues.insert key later)

/-- The cue for a call, and the script after it. -/
def cue (s : Script) : (c : Call) → Cue c.Answer × Script
  | .listNamespaces =>
    let (cue, later) := Cue.next s.listNamespaces
    (cue, { s with listNamespaces := later })
  | .createNamespace _ =>
    let (cue, later) := Cue.next s.createNamespace
    (cue, { s with createNamespace := later })
  | .create _ object =>
    let (cue, later) := nextAt s.create object.workload.text
    (cue, { s with create := later })
  | .listPods _ selector =>
    let (cue, later) := nextAt s.listPods selector
    (cue, { s with listPods := later })
  | .podLogs .. =>
    let (cue, later) := Cue.next s.podLogs
    (cue, { s with podLogs := later })
  | .workloadStatus _ workload =>
    let (cue, later) := nextAt s.workloadStatus workload.text
    (cue, { s with workloadStatus := later })
  | .serviceAddress _ service =>
    let (cue, later) := nextAt s.serviceAddress service
    (cue, { s with serviceAddress := later })
  | .createPool _ =>
    let (cue, later) := Cue.next s.createPool
    (cue, { s with createPool := later })
  | .poolStatus _ =>
    let (cue, later) := Cue.next s.poolStatus
    (cue, { s with poolStatus := later })
  | .submit .. =>
    let (cue, later) := Cue.next s.submit
    (cue, { s with submit := later })
  | .startTiming .. =>
    let (cue, later) := Cue.next s.startTiming
    (cue, { s with startTiming := later })

end Script

end ProvingGround
