import ProvingGround.Deployment.Nodes
import ProvingGround.Rehearsal.Script

/-!
# Rehearsals

A rehearsal plays all services of a run without any of them. It follows a script, and where the
script is silent everything goes well: what is created exists and is ready at once. Only what was
created with success is remembered.
-/

namespace ProvingGround

structure Rehearsal where
  script : Script
  namespaces : List String
  objects : List Manifest
  pools : List String

namespace Rehearsal

/-! ### Usual answers -/

/-- A pod of a group; its address has the length of the group's name and the number of the pod. -/
def usualPod (group : String) (i : Nat) : Pod :=
  ⟨s!"{group}-{i}", s!"10.0.{group.utf8ByteSize}.{i}", true⟩

/-- The replicas of the deployment of a group, none if there is no deployment. -/
def replicasOf (r : Rehearsal) (group : String) : Nat :=
  match r.objects.find? fun m => m.workload = ⟨.deployment, group⟩ with
  | some m => (m.deployment?.map fun (n, _) => n.toNat).getD 0
  | none => 0

def groupOf (selector : String) : String :=
  let head := podSelector ""
  if selector.startsWith head then (selector.drop head.length).toString else selector

/-- How many replicas of an object are ready. -/
def usualCounts (w : Workload) : ReplicaCounts := if w.kind = .daemonSet then ⟨8, 8⟩ else ⟨1, 1⟩

/-- What a call is answered with when the script is silent. -/
def usual (r : Rehearsal) : (c : Call) → c.Answer
  | .listNamespaces => r.namespaces
  | .createNamespace _ => ()
  | .create .. => ()
  | .listPods _ selector =>
    let group := groupOf selector
    (List.range (r.replicasOf group)).map (usualPod group)
  | .podLogs _ pod _ => pod ++ " starting\n" ++ timingPhrase ++ "\n"
  | .workloadStatus _ w =>
    if r.objects.any fun m => m.workload = w then some (usualCounts w) else none
  | .serviceAddress .. => some "34.120.0.7"
  | .createPool _ => ()
  | .poolStatus name => if r.pools.contains name then some .running else none
  | .submit .. => ()
  | .startTiming .. => "\x7b\x7d"

def remember (r : Rehearsal) : Call → Rehearsal
  | .createNamespace name => { r with namespaces := r.namespaces ++ [name] }
  | .create _ object => { r with objects := object :: r.objects }
  | .createPool request => { r with pools := request.name :: r.pools }
  | _ => r

def respond (r : Rehearsal) (c : Call) : Reply c.Answer × Rehearsal :=
  let (cue, script) := r.script.cue c
  let next := { r with script }
  match cue.result with
  | some (.error f) => (⟨cue.delay, .error f⟩, next)
  | some (.ok a) => (⟨cue.delay, .ok a⟩, next.remember c)
  | none => (⟨cue.delay, .ok (next.usual c)⟩, next.remember c)

instance : Services Rehearsal := ⟨fun r _ c => r.respond c⟩

/-- A rehearsal before the first call. -/
def start (script : Script) (namespaces : List String) : Rehearsal := ⟨script, namespaces, [], []⟩

end Rehearsal

end ProvingGround
