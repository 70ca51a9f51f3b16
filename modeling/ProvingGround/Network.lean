import ProvingGround.Manifest.Basic
import ProvingGround.Time.Timestamp

/-!
# Networks that run

A group of nodes as it was found when it became ready, and the groups of a network, the bootstrap
group first.
-/

namespace ProvingGround

/-- A deployed group of nodes. -/
structure NodeGroup where
  name : String
  ns : String
  pods : List Pod
  deriving DecidableEq, Repr

def NodeGroup.firstPod (g : NodeGroup) : Except ConfigCause Pod :=
  match g.pods with
  | [] => .error (.emptyGroup g.name)
  | p :: _ => .ok p

theorem NodeGroup.firstPod_mem {g : NodeGroup} {p : Pod} (h : g.firstPod = .ok p) : p ∈ g.pods := by
  unfold firstPod at h
  split at h
  · cases h
  · next hp =>
    cases h
    simp [hp]

structure Network where
  ns : String
  bootstrap : NodeGroup
  clients : NodeGroup
  secondClients : Option NodeGroup
  deriving DecidableEq, Repr

namespace Network

def groups (n : Network) : List NodeGroup := n.bootstrap :: n.clients :: n.secondClients.toList

def pods (n : Network) : List Pod := n.groups.flatMap (·.pods)

theorem mem_pods {n : Network} {p : Pod} : p ∈ n.pods ↔ ∃ g ∈ n.groups, p ∈ g.pods := by
  simp [pods]

end Network

/-- A pool that runs and whose machines the collector covers. -/
structure ScaledPool where
  name : String
  nodes : Nat
  /-- The time until the pool ran. -/
  elapsed : Duration
  deriving DecidableEq, Repr

/-- A network ready for scenarios, with what a scenario may want to know about it. -/
structure Environment where
  ns : String
  blueprint : Blueprint
  network : Network
  pool : ScaledPool
  genesis : Timestamp
  /-- The date of the run's log indices. -/
  indexDate : String
  deriving DecidableEq, Repr

end ProvingGround
