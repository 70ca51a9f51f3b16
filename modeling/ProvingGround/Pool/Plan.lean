import ProvingGround.Blueprint.Basic
import ProvingGround.Hint
import ProvingGround.Word

/-!
# The plan of a node pool

A pool holds the memory that the pods of a network request, and has at least one machine. Sums stop
at the greatest number of 64 bits and counts of machines at the greatest of 32 bits.
-/

namespace ProvingGround

/-! ### Sizes -/

/-- The greatest number of megabytes that is counted. -/
def memoryCap : Nat := Word.count 64 - 1

/-- The greatest number of machines that is asked for. -/
def nodeCap : Nat := Word.count 32 - 1

/-- The machines of `machine` megabytes that hold `total` megabytes; one if machines have none. -/
def nodesFor (total machine : Nat) : Nat :=
  if machine = 0 then 1 else max 1 (min ((total + machine - 1) / machine) nodeCap)

theorem one_le_nodesFor (total machine : Nat) : 1 ≤ nodesFor total machine := by
  simp only [nodesFor]
  split <;> omega

def NodeSpec.groupMemory (s : NodeSpec) : Except ConfigCause Nat := do
  let pod ← s.requestedMemory
  pure (min (pod * s.podCount) memoryCap)

/-- The megabytes that the pods of a list of groups request, on top of a sum. -/
def addGroupMemory (total : Nat) : List NodeSpec → Except ConfigCause Nat
  | [] => .ok total
  | s :: rest => do
    let m ← s.groupMemory
    addGroupMemory (min (total + m) memoryCap) rest

def Blueprint.requestedMemory (b : Blueprint) : Except ConfigCause Nat := addGroupMemory 0 b.groups

/-! ### Plans -/

structure PoolRequest where
  name : String
  nodes : Nat
  machineType : String
  /-- The disk of one machine in gigabytes. -/
  diskSize : Nat
  deriving DecidableEq, Repr

/-- The pool for a network in a namespace. -/
def Blueprint.planPool (b : Blueprint) (ns : String) : Except ConfigCause PoolRequest := do
  let machine ← MemorySize.parse b.pool.nodeMemory
  let total ← b.requestedMemory
  pure ⟨poolName ns, nodesFor total machine, b.pool.machineType, b.pool.diskSize⟩

end ProvingGround
