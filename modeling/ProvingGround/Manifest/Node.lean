import ProvingGround.Hint
import ProvingGround.Manifest.Basic

/-!
# Deployments of nodes

The bootstrap group runs a node beside the timing service. Client groups run nodes alone and are
pointed at a pod of the bootstrap group. All nodes are told the same genesis, behind the arguments
of their group.
-/

namespace ProvingGround

/-! ### Names and ports -/

def clientGroup : String := "client"

def secondClientGroup : String := "clientv2"

def nodeContainer : String := "node"

/-- The port on which nodes speak to each other. -/
def peerPort : Nat := 7513

/-- The port on which a node takes orders. -/
def orderPort : Nat := 9092

def timingPort : Nat := 80

/-- Where nodes run, and what they are told about time. -/
structure Placement where
  ns : String
  pool : Option String
  /-- Genesis as nodes are told. -/
  genesis : String
  deriving DecidableEq, Repr

/-! ### Containers -/

/-- The argument with the instant of genesis. -/
def genesisArg (genesis : String) : String := "--genesis-time=" ++ genesis

/-- The container of a node; further arguments follow genesis. -/
def NodeSpec.container (s : NodeSpec) (genesis : String) (more : List String) : Container where
  name := nodeContainer
  image := s.image
  args := s.renderedArgs ++ genesisArg genesis :: more
  ports := [⟨"p2p", peerPort⟩, ⟨"grpc", orderPort⟩]
  resources := some s.resources

def NodeSpec.timing (s : NodeSpec) : Container where
  name := timingContainer
  image := s.timingImageOrDefault
  args := [s!"--restlisten=0.0.0.0:{timingPort}", s!"--nodeaddr=127.0.0.1:{orderPort}"]
  ports := [⟨"rest", timingPort⟩]

def clientArgs (bootstrap : Pod) : List String :=
  [s!"--bootstrap={bootstrap.address}:{peerPort}",
   s!"--poet-server={bootstrap.address}:{timingPort}"]

/-! ### Deployments -/

def Placement.deployment (p : Placement) (group : String) (replicas : Int)
    (containers : List Container) : Manifest where
  name := group
  ns := p.ns
  spec := .deployment replicas { containers, pool := p.pool }

def Placement.bootstrap (p : Placement) (s : NodeSpec) : Manifest :=
  p.deployment bootstrapGroup s.replicas [s.container p.genesis [], s.timing]

def Placement.clients (p : Placement) (group : String) (s : NodeSpec) (bootstrap : Pod) :
    Manifest :=
  p.deployment group s.replicas [s.container p.genesis (clientArgs bootstrap)]

theorem genesisArg_mem_args (s : NodeSpec) (genesis : String) (more : List String) :
    genesisArg genesis ∈ (s.container genesis more).args := by
  simp [NodeSpec.container]

end ProvingGround
