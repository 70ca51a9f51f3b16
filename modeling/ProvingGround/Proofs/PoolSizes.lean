import Mathlib.Order.Bounds.Basic
import ProvingGround.Proofs.Acceptance
import ProvingGround.Proofs.Deployments

/-!
# The least pool

What the pods of a network request together has no limit; the sum that a pool is planned by has one,
and so has the count of machines. Below both limits the count is the least that holds the demand,
and whatever the limits do, no machine is asked for that the demand does not need.
-/

namespace ProvingGround

/-! ### Demand -/

/-- The megabytes that one pod of the group requests, none when they cannot be read. -/
def NodeSpec.podMemory (s : NodeSpec) : Nat := s.requestedMemory.toOption.getD 0

/-- The megabytes that all pods of a network request together. -/
def Blueprint.demand (b : Blueprint) : Nat :=
  b.bootstrap.podMemory * b.bootstrap.podCount + b.client.podMemory * b.client.podCount +
    match b.clientv2 with
    | none => 0
    | some v2 => v2.node.podMemory * v2.node.podCount

theorem Blueprint.demand_eq_sum (b : Blueprint) :
    b.demand = (b.groups.map fun s => s.podMemory * s.podCount).sum := by
  unfold demand groups
  cases b.clientv2 with
  | none => exact Nat.add_assoc _ _ 0
  | some v2 => exact Nat.add_assoc _ _ _

theorem NodeSpec.podMemory_eq {s : NodeSpec} {m : Nat} (h : s.requestedMemory = .ok m) :
    s.podMemory = m := by
  unfold podMemory
  rw [h]
  rfl

theorem sum_of_needs {specs : List NodeSpec} {sizes : List Nat}
    (h : List.Forall₂ NodeSpec.Needs specs sizes) :
    sizes.sum = (specs.map fun s => s.podMemory * s.podCount).sum := by
  induction h with
  | nil => rfl
  | cons needs _ ih =>
    obtain ⟨pod, requested, rfl⟩ := needs
    simp only [List.sum_cons, List.map_cons, ih, NodeSpec.podMemory_eq requested]

theorem Blueprint.planPool_demand {b : Blueprint} {ns : String} {request : PoolRequest}
    (h : b.planPool ns = .ok request) : ∃ machine,
      MemorySize.parse b.pool.nodeMemory = .ok machine ∧
      request.nodes = nodesFor (min b.demand memoryCap) machine := by
  obtain ⟨sizes, machine, needs, parsed, nodes⟩ := planPool_ok h
  have sum : sizes.sum = b.demand := (sum_of_needs needs).trans b.demand_eq_sum.symm
  rw [sum] at nodes
  exact ⟨machine, parsed, nodes⟩

/-- A sum that 64 bits can count is counted as it is. -/
theorem min_memoryCap {total : Nat} (counted : total < Word.count 64) :
    min total memoryCap = total := by
  have cap : memoryCap + 1 = Word.count 64 := by decide +kernel
  omega

theorem NodeSpec.one_le_replicas_of_check {s : NodeSpec} {group : String}
    (h : s.check group = .ok ()) : 1 ≤ s.replicas := by
  unfold check at h
  split at h
  · cases h
  split at h
  · cases h
  · omega

/-! ### Counts of machines -/

section Counts

variable {total machine : Nat}

/-- A ceiling is the least number whose multiple reaches the total. -/
theorem isLeast_machines (some_ : 0 < machine) (total : Nat) :
    IsLeast {n | 1 ≤ n ∧ total ≤ n * machine} (max 1 ((total + machine - 1) / machine)) := by
  have quotient := Nat.div_add_mod (total + machine - 1) machine
  have rest := Nat.mod_lt (total + machine - 1) some_
  rw [Nat.mul_comm] at quotient
  constructor
  · have reached : total ≤ (total + machine - 1) / machine * machine := by omega
    have more := Nat.mul_le_mul_right machine
      (Nat.le_max_right 1 ((total + machine - 1) / machine))
    exact ⟨Nat.le_max_left _ _, Nat.le_trans reached more⟩
  · intro n hn
    obtain ⟨one, enough⟩ := hn
    have below : (total + machine - 1) / machine < n + 1 := by
      rw [Nat.div_lt_iff_lt_mul some_, Nat.succ_mul]
      omega
    omega

theorem nodesFor_lt (total machine : Nat) : nodesFor total machine < Word.count 32 := by
  have cap : nodeCap = 4294967295 := by decide +kernel
  have words : Word.count 32 = 4294967296 := by decide +kernel
  unfold nodesFor
  rw [cap, words]
  split <;> omega

theorem nodesFor_eq_of_isLeast {n : Nat} (some_ : 0 < machine)
    (least : IsLeast {n | 1 ≤ n ∧ total ≤ n * machine} n) (fits : n < Word.count 32) :
    nodesFor total machine = n := by
  have least' := least.unique (isLeast_machines some_ total)
  have cap : nodeCap + 1 = Word.count 32 := by decide +kernel
  have positive : machine ≠ 0 := Nat.ne_of_gt some_
  unfold nodesFor
  rw [if_neg positive]
  omega

/-- What the greatest count of machines can hold, the planned ones hold. -/
theorem le_nodesFor_mul (holdable : total ≤ nodeCap * machine) :
    total ≤ nodesFor total machine * machine := by
  rcases Nat.eq_zero_or_pos machine with rfl | some_
  · omega
  · have reached := (isLeast_machines some_ total).1.2
    have positive : machine ≠ 0 := Nat.ne_of_gt some_
    have cap : nodeCap = 4294967295 := by decide +kernel
    have counted : nodesFor total machine = max 1 ((total + machine - 1) / machine) ∨
        nodesFor total machine = nodeCap := by
      unfold nodesFor
      rw [if_neg positive]
      omega
    rcases counted with nodes | nodes <;> rw [nodes]
    · exact reached
    · exact holdable

/-- No machine is superfluous, at the greatest count neither. -/
theorem nodesFor_pred_mul_lt (several : 2 ≤ nodesFor total machine) :
    (nodesFor total machine - 1) * machine < total := by
  have positive : machine ≠ 0 := by
    intro none
    simp [nodesFor, none] at several
  have most : nodesFor total machine ≤ (total + machine - 1) / machine := by
    unfold nodesFor at several ⊢
    rw [if_neg positive] at several ⊢
    omega
  have product := Nat.mul_le_mul_right machine most
  have quotient := Nat.div_mul_le_self (total + machine - 1) machine
  rw [Nat.sub_one_mul]
  have one := Nat.mul_le_mul_right machine several
  omega

end Counts

/-! ### Plans -/

/-- The pool of an accepted blueprint can always be planned. Its machines are at least one and no
more than the demand needs; they are the least that hold the demand, if it has 64 bits and their
count 32, and if machines have any memory. -/
theorem plans_least_pool {b : Blueprint} (accepted : b.check = .ok ()) (ns : String) :
    ∃ request machine, b.planPool ns = .ok request ∧
      MemorySize.parse b.pool.nodeMemory = .ok machine ∧
      (∀ s ∈ b.groups, 1 ≤ s.replicas ∧ s.requestedMemory = .ok s.podMemory) ∧
      (0 < machine → b.demand < Word.count 64 → ∀ n,
        IsLeast {n | 1 ≤ n ∧ b.demand ≤ n * machine} n → n < Word.count 32 →
          request.nodes = n) ∧
      1 ≤ request.nodes ∧ request.nodes < Word.count 32 ∧
      (2 ≤ request.nodes → (request.nodes - 1) * machine < b.demand) := by
  obtain ⟨groups, -⟩ := Blueprint.check_eq_ok accepted
  have sized := Blueprint.sized_of_check accepted
  obtain ⟨request, planned⟩ := sized.planPool_ok ns
  obtain ⟨machine, parsed, nodes⟩ := Blueprint.planPool_demand planned
  refine ⟨request, machine, planned, parsed, ?_, ?_, ?_, ?_, ?_⟩
  · intro s hs
    obtain ⟨group, checked⟩ := groups s hs
    obtain ⟨m, requested⟩ := sized.groups s hs
    rw [NodeSpec.podMemory_eq requested]
    exact ⟨NodeSpec.one_le_replicas_of_check checked, requested⟩
  · intro some_ counted n least fits
    rw [nodes, min_memoryCap counted]
    exact nodesFor_eq_of_isLeast some_ least fits
  · rw [nodes]
    exact one_le_nodesFor _ _
  · rw [nodes]
    exact nodesFor_lt _ _
  · intro several
    rw [nodes] at several ⊢
    have needed := nodesFor_pred_mul_lt several
    omega

/-- A network whose demand has more than 64 bits, on machines of a megabyte. -/
def Blueprint.vast : Blueprint where
  ns := ""
  bootstrap := { image := "node" }
  client :=
    { image := "node"
      replicas := 3
      resources := { requests := .ofList [("memory", "18446744073709551615M")] } }
  genesisDelta := 0
  readyTimeout := 1
  pool := { nodeMemory := "1M" }

theorem plans_least_pool_vast : Blueprint.vast.check = .ok () ∧
    ∃ request, Blueprint.vast.planPool "t" = .ok request ∧ 1 ≤ request.nodes ∧
      request.nodes < Word.count 32 ∧ Word.count 64 < Blueprint.vast.demand := by
  have accepted : Blueprint.vast.check = .ok () := by decide +kernel
  obtain ⟨request, machine, planned, -, -, -, one, most, -⟩ := plans_least_pool accepted "t"
  exact ⟨accepted, request, planned, one, most, by decide +kernel⟩

end ProvingGround
