import ProvingGround.Decimal.Notation
import ProvingGround.MemorySize
import ProvingGround.Text.Keyed
import ProvingGround.Time.Duration
import ProvingGround.Word

/-!
# Blueprints of test networks

A blueprint says what a test network is made of: a bootstrap group, a client group, an optional
second client group, the pool of machines they run on, and two spans of time. It is checked as a
whole before anything is created, and the images of its nodes may be overridden for one run.
-/

namespace ProvingGround

open Text

/-! ### Arguments -/

/-- The value of an argument of a node. -/
inductive ArgValue where
  | bool (b : Bool)
  | int (n : Int)
  | float (x : Binary64)
  | text (s : String)
  deriving DecidableEq, Repr

/-- The value as a command line carries it. -/
def ArgValue.show : ArgValue → String
  | bool b => toString b
  | int n => toString n
  | float x => x.plain
  | text s => s

/-! ### Groups of nodes -/

/-- Requested and allowed amounts by resource name. -/
structure Resources where
  requests : Keyed String := ∅
  limits : Keyed String := ∅
  deriving DecidableEq, Repr, Inhabited

structure NodeSpec where
  image : String
  replicas : Int := 1
  resources : Resources := {}
  args : Keyed ArgValue := ∅
  /-- The image of the timing service, which only the bootstrap group runs. -/
  timingImage : Option String := none
  deriving DecidableEq, Repr, Inhabited

def defaultTimingImage : String := "spacemeshos/poet:develop"

namespace NodeSpec

/-- The megabytes that one pod of the group requests, zero when it requests none. -/
def requestedMemory (s : NodeSpec) : Except ConfigCause Nat :=
  match s.resources.requests.get? "memory" with
  | none => .ok 0
  | some size => MemorySize.parse size

/-- The value of an argument that is a whole number. -/
def naturalArg (s : NodeSpec) (name : String) : Except ConfigCause Nat :=
  match s.args.get? name with
  | none => .error (.missingArgument name)
  | some (.int n) =>
    if 0 ≤ n then .ok n.toNat else .error (.argumentNotNatural name (ArgValue.int n).show)
  | some (.text t) =>
    match readNatural (Word.count 64) (trim t) with
    | some n => .ok n
    | none => .error (.argumentNotInteger name t)
  | some v => .error (.argumentNotNatural name v.show)

/-- The arguments of the command line, in the order of their names. -/
def renderedArgs (s : NodeSpec) : List String :=
  s.args.toList.map fun (name, value) => s!"--{name}={value.show}"

def timingImageOrDefault (s : NodeSpec) : String := s.timingImage.getD defaultTimingImage

def podCount (s : NodeSpec) : Nat := s.replicas.toNat

def check (s : NodeSpec) (group : String) : Except ConfigCause Unit :=
  if isAllBlank s.image then .error (.emptyImage group)
  else if s.replicas < 1 then .error (.tooFewReplicas group s.replicas)
  else
    match s.requestedMemory with
    | .error cause => .error (.groupResources group cause)
    | .ok _ => .ok ()

end NodeSpec

/-! ### Networks -/

/-- A second group of clients. -/
structure SecondClients where
  /-- The group's image stays when images are overridden. -/
  keepsImage : Bool := false
  node : NodeSpec
  deriving DecidableEq, Repr, Inhabited

/-- The machines that the nodes run on. -/
structure PoolSpec where
  machineType : String := "n1-standard-4"
  /-- The memory of one machine that pods can use. -/
  nodeMemory : String := "15G"
  diskSize : Nat := 100
  deriving DecidableEq, Repr, Inhabited

/-- What a test network is made of. -/
structure Blueprint where
  /-- The namespace asked for; a blank one is generated. -/
  ns : String
  bootstrap : NodeSpec
  client : NodeSpec
  clientv2 : Option SecondClients := none
  /-- Seconds from the start of the bootstrap phase to genesis. -/
  genesisDelta : Nat
  /-- Seconds in which each group has to become ready. -/
  readyTimeout : Nat
  pool : PoolSpec := {}
  deriving DecidableEq, Repr, Inhabited

namespace Blueprint

/-- Checks the blueprint; the first fault counts. -/
def check (b : Blueprint) : Except ConfigCause Unit := do
  b.bootstrap.check "bootstrap"
  b.client.check "client"
  match b.clientv2 with
  | some v2 => v2.node.check "clientv2"
  | none => pure ()
  if b.readyTimeout = 0 then .error .zeroDeploymentTimeout
  else
    match MemorySize.parse b.pool.nodeMemory with
    | .error cause => .error (.poolMemory cause)
    | .ok _ => .ok ()

/-- The span from the start of the bootstrap phase to genesis. -/
def genesisSpan (b : Blueprint) : Duration := .ofSeconds b.genesisDelta

/-- The span in which each group has to become ready. -/
def readySpan (b : Blueprint) : Duration := .ofSeconds b.readyTimeout

def groups (b : Blueprint) : List NodeSpec :=
  b.bootstrap :: b.client :: (b.clientv2.map (·.node)).toList

/-- Gives all groups another image, but for a second client group that keeps its own. No image
changes nothing. -/
def overrideImages (b : Blueprint) (image : String) : Blueprint :=
  if image.isEmpty then b
  else
    { b with
      bootstrap := { b.bootstrap with image := image }
      client := { b.client with image := image }
      clientv2 := b.clientv2.map fun v2 =>
        if v2.keepsImage then v2 else { v2 with node := { v2.node with image := image } } }

end Blueprint

end ProvingGround
