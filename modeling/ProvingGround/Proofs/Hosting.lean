import Mathlib.Algebra.BigOperators.Ring.List
import Mathlib.Algebra.Group.Action.Defs
import Mathlib.Algebra.Order.BigOperators.Group.List
import Mathlib.Algebra.Order.Group.Nat
import Mathlib.Algebra.Ring.Nat
import Mathlib.Data.Nat.Cast.Basic
import ProvingGround.Proofs.PoolSizes

/-!
# Pods on machines

A pool is planned by the sum of what pods request, but a pod runs on one machine. The pods can be
spread so that no machine carries more than its memory and a part of its smallest pod. Where
requests divide one another and the memory of a machine, they fit; in general they do not.
-/

namespace ProvingGround

variable {α : Type} {size : α → Nat} {items : List α} {n : Nat} {machines : List (List α)}

/-! ### Loads -/

/-- The sizes of the items on one machine together. -/
def load (size : α → Nat) (items : List α) : Nat := (items.map size).sum

theorem load_cons (size : α → Nat) (p : α) (items : List α) :
    load size (p :: items) = size p + load size items := List.sum_cons

theorem load_flatten (size : α → Nat) (machines : List (List α)) :
    load size machines.flatten = (machines.map (load size)).sum := by
  unfold load
  rw [List.map_flatten, List.sum_flatten, List.map_map]
  rfl

/-- Every item is on one of so many machines. -/
structure Spread (items : List α) (n : Nat) (machines : List (List α)) : Prop where
  count : machines.length = n
  all : machines.flatten.Perm items

theorem Spread.load_eq (h : Spread items n machines) (size : α → Nat) :
    (machines.map (load size)).sum = load size items := by
  rw [← load_flatten]
  exact (h.all.map size).sum_eq

theorem Spread.mem (h : Spread items n machines) {m : List α} {p : α} (hm : m ∈ machines)
    (hp : p ∈ m) : p ∈ items :=
  h.all.subset (List.mem_flatten.2 ⟨m, hm, hp⟩)

/-- What fits on every machine fits on all of them together. -/
theorem Spread.load_le (h : Spread items n machines) {capacity : Nat}
    (fits : ∀ m ∈ machines, load size m ≤ capacity) : load size items ≤ n * capacity := by
  have each : ∀ k ∈ machines.map (load size), k ≤ capacity := by
    intro k hk
    obtain ⟨m, hm, rfl⟩ := List.mem_map.1 hk
    exact fits m hm
  have sum := List.sum_le_card_nsmul _ _ each
  rwa [h.load_eq, List.length_map, h.count, smul_eq_mul] at sum

/-- Some machine carries no more than the average. -/
theorem exists_least_loaded (size : α → Nat) (some_ : machines ≠ []) :
    ∃ m ∈ machines, machines.length * load size m ≤ (machines.map (load size)).sum := by
  apply List.exists_le_of_sum_le some_
  rw [List.sum_map_mul_left]
  simp

/-! ### Even sizes -/

/-- Of any two sizes one divides the other, and each of them divides the capacity. -/
structure EvenSizes (size : α → Nat) (items : List α) (capacity : Nat) : Prop where
  pairs : ∀ p ∈ items, ∀ q ∈ items, size p ∣ size q ∨ size q ∣ size p
  capacity : ∀ p ∈ items, 0 < size p → size p ∣ capacity

theorem EvenSizes.of_subset {capacity : Nat} {some_ : List α} (h : EvenSizes size items capacity)
    (sub : ∀ p ∈ some_, p ∈ items) : EvenSizes size some_ capacity :=
  ⟨fun p hp q hq => h.pairs p (sub p hp) q (sub q hq), fun p hp => h.capacity p (sub p hp)⟩

/-- The smaller of two even sizes divides the other. -/
theorem EvenSizes.dvd {capacity : Nat} (h : EvenSizes size items capacity) {p q : α}
    (hp : p ∈ items) (hq : q ∈ items) (positive : 0 < size p) (le : size p ≤ size q) :
    size p ∣ size q := by
  rcases h.pairs p hp q hq with divides | divides
  · exact divides
  · have same := Nat.le_antisymm le (Nat.le_of_dvd positive divides)
    rw [same]

/-! ### Balance -/

/-- No machine is above the average by more than a part of any item on it, and even sizes leave no
gap. -/
structure Balanced (size : α → Nat) (items : List α) (n : Nat) (machines : List (List α)) :
    Prop where
  spread : Spread items n machines
  fair : ∀ m ∈ machines, ∀ p ∈ m, n * load size m ≤ load size items + (n - 1) * size p
  tight : ∀ capacity, EvenSizes size items capacity → load size items ≤ n * capacity →
    ∀ m ∈ machines, load size m ≤ capacity

theorem balanced_nil (size : α → Nat) (n : Nat) :
    Balanced size [] n (List.replicate n []) := by
  have empty : ∀ m ∈ List.replicate n ([] : List α), m = [] :=
    fun m hm => List.eq_of_mem_replicate hm
  constructor
  · exact ⟨List.length_replicate, by simp⟩
  · intro m hm p hp
    rw [empty m hm] at hp
    cases hp
  · intro capacity _ _ m hm
    rw [empty m hm]
    exact Nat.zero_le _

section Placing

variable {x : α} {pre post : List (List α)} {m : List α}

theorem Spread.place (h : Spread items n (pre ++ m :: post)) :
    Spread (x :: items) n (pre ++ (x :: m) :: post) := by
  have count := h.count
  have all := h.all
  simp only [List.length_append, List.length_cons] at count
  simp only [List.flatten_append, List.flatten_cons] at all
  constructor
  · simpa using count
  · simp only [List.flatten_append, List.flatten_cons, List.cons_append]
    exact List.perm_middle.trans (all.cons x)

/-- An item that is no larger than the others goes to the machine with the least load. -/
theorem Balanced.place (h : Balanced size items n (pre ++ m :: post))
    (smallest : ∀ p ∈ items, size x ≤ size p) (least : n * load size m ≤ load size items) :
    Balanced size (x :: items) n (pre ++ (x :: m) :: post) := by
  have some_ : 1 ≤ n := by
    have count := h.spread.count
    simp only [List.length_append, List.length_cons] at count
    omega
  have member : m ∈ pre ++ m :: post := by simp
  have others : ∀ k ∈ pre ++ (x :: m) :: post, k = x :: m ∨ k ∈ pre ++ m :: post := by
    intro k hk
    simp only [List.mem_append, List.mem_cons] at hk ⊢
    rcases hk with hk | hk | hk
    · exact .inr (.inl hk)
    · exact .inl hk
    · exact .inr (.inr (.inr hk))
  constructor
  · exact h.spread.place
  · intro k hk p hp
    rw [load_cons]
    rcases others k hk with rfl | old
    · have le : size x ≤ size p := by
        rcases List.mem_cons.1 hp with rfl | hp
        · exact Nat.le_refl _
        · exact smallest p (h.spread.mem member hp)
      have part := Nat.mul_le_mul_left (n - 1) le
      have whole : n * size x = size x + (n - 1) * size x := by
        rw [Nat.sub_one_mul]
        have one := Nat.mul_le_mul_right (size x) some_
        omega
      rw [load_cons, Nat.mul_add]
      omega
    · have fair := h.fair k old p hp
      omega
  · intro capacity even enough k hk
    rw [load_cons] at enough
    have rest : EvenSizes size items capacity :=
      even.of_subset fun p hp => List.mem_cons_of_mem x hp
    have tight := h.tight capacity rest (by omega)
    rcases others k hk with rfl | old
    · rw [load_cons]
      rcases Nat.eq_zero_or_pos (size x) with none | positive
      · have fits := tight m member
        omega
      · -- The load and the capacity are multiples of the size, so that a gap has room for it.
        have below : load size m < capacity := by
          have less : n * load size m < n * capacity := by omega
          exact Nat.lt_of_mul_lt_mul_left less
        have divides : size x ∣ load size m := by
          refine List.dvd_sum fun k hk => ?_
          obtain ⟨p, hp, rfl⟩ := List.mem_map.1 hk
          have found := h.spread.mem member hp
          exact even.dvd List.mem_cons_self (List.mem_cons_of_mem x found) positive
            (smallest p found)
        have gap : size x ∣ capacity - load size m :=
          Nat.dvd_sub (even.capacity x List.mem_cons_self positive) divides
        have room := Nat.le_of_dvd (by omega) gap
        omega
    · exact tight k old

end Placing

theorem exists_balanced_of_sorted (some_ : 0 < n)
    (sorted : items.Pairwise fun p q => size p ≤ size q) :
    ∃ machines, Balanced size items n machines := by
  induction items with
  | nil => exact ⟨_, balanced_nil size n⟩
  | cons x rest ih =>
    obtain ⟨smallest, sorted⟩ := List.pairwise_cons.1 sorted
    obtain ⟨machines, balanced⟩ := ih sorted
    have count := balanced.spread.count
    have nonempty : machines ≠ [] := by
      rintro rfl
      simp at count
      omega
    obtain ⟨m, hm, least⟩ := exists_least_loaded size nonempty
    rw [balanced.spread.load_eq, count] at least
    obtain ⟨pre, post, rfl⟩ := List.append_of_mem hm
    exact ⟨_, balanced.place smallest least⟩

theorem exists_balanced (size : α → Nat) (items : List α) (some_ : 0 < n) :
    ∃ machines, Balanced size items n machines := by
  have sorted : (items.mergeSort fun p q => decide (size p ≤ size q)).Pairwise
      fun p q => size p ≤ size q := by
    refine (List.pairwise_mergeSort ?_ ?_ items).imp of_decide_eq_true
    · intro p q r hpq hqr
      simp only [decide_eq_true_eq] at hpq hqr ⊢
      omega
    · intro p q
      simp only [Bool.or_eq_true, decide_eq_true_eq]
      omega
  have perm := List.mergeSort_perm items fun p q => decide (size p ≤ size q)
  obtain ⟨machines, balanced⟩ := exists_balanced_of_sorted some_ sorted
  have loads : load size (items.mergeSort fun p q => decide (size p ≤ size q)) = load size items :=
    (perm.map size).sum_eq
  refine ⟨machines, ⟨balanced.spread.count, balanced.spread.all.trans perm⟩, ?_, ?_⟩
  · rw [← loads]
    exact balanced.fair
  · intro capacity even
    rw [← loads]
    exact balanced.tight capacity (even.of_subset fun p hp => perm.subset hp)

/-! ### Networks -/

/-- The pods of a network, each as what its group says of it. -/
def Blueprint.pods (b : Blueprint) : List NodeSpec :=
  b.groups.flatMap fun s => List.replicate s.podCount s

/-- All pods of a network run on so many machines, and none of these carries more than its
memory. -/
def Blueprint.HostedBy (b : Blueprint) (n capacity : Nat) : Prop :=
  ∃ machines, Spread b.pods n machines ∧ ∀ m ∈ machines, load NodeSpec.podMemory m ≤ capacity

theorem Blueprint.load_pods (b : Blueprint) : load NodeSpec.podMemory b.pods = b.demand := by
  rw [demand_eq_sum]
  unfold pods
  rw [List.flatMap_def, load_flatten, List.map_map]
  congr 2
  funext s
  simp [load, Nat.mul_comm]

/-- The memory that is planned is enough together, unless the demand is beyond all counts. -/
theorem demand_le_of_planned {b : Blueprint} {ns : String} {request : PoolRequest} {machine : Nat}
    (planned : b.planPool ns = .ok request)
    (parsed : MemorySize.parse b.pool.nodeMemory = .ok machine)
    (counted : b.demand < Word.count 64) (holdable : b.demand ≤ nodeCap * machine) :
    b.demand ≤ request.nodes * machine := by
  obtain ⟨machine', parsed', nodes⟩ := Blueprint.planPool_demand planned
  cases parsed.symm.trans parsed'
  rw [nodes, min_memoryCap counted]
  exact le_nodesFor_mul holdable

/-- The pods of an accepted document can be spread over the planned machines, with no machine above
its memory by more than a part of any pod that it carries, when the machines have the memory for all
pods together. Where sizes are even, all machines keep within their memory. Without that memory in
sum the pods cannot be hosted in any way. -/
theorem planned_pool_spreads {text : String} {b : Blueprint}
    (accepted : Blueprint.ofText text = .ok b) (ns : String) :
    ∃ request machine, b.planPool ns = .ok request ∧
      MemorySize.parse b.pool.nodeMemory = .ok machine ∧
      (∀ s ∈ b.groups, s.requestedMemory = .ok s.podMemory) ∧
      (b.demand < Word.count 64 → b.demand ≤ nodeCap * machine →
        b.demand ≤ request.nodes * machine) ∧
      (b.HostedBy request.nodes machine → b.demand ≤ request.nodes * machine) ∧
      (b.demand ≤ request.nodes * machine → ∃ machines, Spread b.pods request.nodes machines ∧
        (∀ m ∈ machines, ∀ p ∈ m, request.nodes * load NodeSpec.podMemory m ≤
          request.nodes * machine + (request.nodes - 1) * p.podMemory) ∧
        (EvenSizes NodeSpec.podMemory b.pods machine →
          ∀ m ∈ machines, load NodeSpec.podMemory m ≤ machine)) := by
  have sized := Blueprint.sized_of_check (Blueprint.check_of_ofText accepted)
  obtain ⟨request, planned⟩ := sized.planPool_ok ns
  obtain ⟨machine, parsed, nodes⟩ := Blueprint.planPool_demand planned
  refine ⟨request, machine, planned, parsed, ?_, demand_le_of_planned planned parsed, ?_, ?_⟩
  · intro s hs
    obtain ⟨m, requested⟩ := sized.groups s hs
    rw [NodeSpec.podMemory_eq requested]
    exact requested
  · intro hosted
    obtain ⟨machines, spread, fits⟩ := hosted
    have sum := spread.load_le fits
    rwa [b.load_pods] at sum
  · intro enough
    have some_ : 0 < request.nodes := by
      rw [nodes]
      exact one_le_nodesFor _ _
    obtain ⟨machines, balanced⟩ := exists_balanced NodeSpec.podMemory b.pods some_
    have tight := balanced.tight machine
    have fair := balanced.fair
    rw [b.load_pods] at tight fair
    refine ⟨machines, balanced.spread, ?_, fun even => tight even enough⟩
    intro m hm p hp
    have share := fair m hm p hp
    omega

/-! ### Pods that leave gaps -/

/-- A document with three pods of eight gigabytes, for machines of fifteen. -/
def gappyText : String :=
  "namespace: t\nbootstrap:\n  image: node\n  resources:\n    requests:\n      memory: 8G\n" ++
    "client:\n  image: node\n  replicas: 2\n  resources:\n    requests:\n      memory: 8G\n" ++
    "genesis_delta: 60\ndeployment_ready_time_out: 20\n"

def Blueprint.gappy : Blueprint where
  ns := "t"
  bootstrap := { image := "node", resources := { requests := .ofList [("memory", "8G")] } }
  client :=
    { image := "node", replicas := 2, resources := { requests := .ofList [("memory", "8G")] } }
  genesisDelta := 60
  readyTimeout := 20

theorem ofText_gappyText : Blueprint.ofText gappyText = .ok .gappy := by decide +kernel

theorem planned_pool_spreads_gappy : Blueprint.ofText gappyText = .ok .gappy ∧
    ∃ request, Blueprint.gappy.planPool "t" = .ok request ∧ ∃ machines,
      Spread Blueprint.gappy.pods request.nodes machines ∧
      ∀ m ∈ machines, ∀ p ∈ m, request.nodes * load NodeSpec.podMemory m ≤
        request.nodes * 15360 + (request.nodes - 1) * p.podMemory := by
  obtain ⟨request, machine, planned, parsed, -, enough, -, spreads⟩ :=
    planned_pool_spreads ofText_gappyText "t"
  have size : MemorySize.parse Blueprint.gappy.pool.nodeMemory = .ok 15360 := by decide +kernel
  cases parsed.symm.trans size
  obtain ⟨machines, spread, fair, -⟩ :=
    spreads (enough (by decide +kernel) (by decide +kernel))
  exact ⟨ofText_gappyText, request, planned, machines, spread, fair⟩

/-- Two machines are planned for three pods, none of which leaves room for another one. -/
theorem planned_pool_overfull : Blueprint.ofText gappyText = .ok .gappy ∧
    Blueprint.gappy.planPool "t" = .ok ⟨"pool-t", 2, "n1-standard-4", 100⟩ ∧
    MemorySize.parse Blueprint.gappy.pool.nodeMemory = .ok 15360 ∧
    ¬ Blueprint.gappy.HostedBy 2 15360 := by
  refine ⟨ofText_gappyText, by decide +kernel, by decide +kernel, ?_⟩
  intro hosted
  obtain ⟨machines, spread, fits⟩ := hosted
  have large : ∀ p ∈ Blueprint.gappy.pods, p.podMemory = 8192 := by decide +kernel
  have three : Blueprint.gappy.pods.length = 3 := by decide +kernel
  have single : ∀ m ∈ machines, load (fun _ => 1) m ≤ 1 := by
    intro m hm
    have weights : m.map NodeSpec.podMemory = List.replicate m.length 8192 := by
      refine List.eq_replicate_iff.2 ⟨List.length_map .., ?_⟩
      intro k hk
      obtain ⟨p, hp, rfl⟩ := List.mem_map.1 hk
      exact large p (spread.mem hm hp)
    have fit := fits m hm
    simp only [load, weights, List.sum_replicate, smul_eq_mul] at fit
    simp only [load, List.map_const', List.sum_replicate, smul_eq_mul]
    omega
  have most := spread.load_le single
  simp only [load, List.map_const', List.sum_replicate, smul_eq_mul, three] at most
  omega

end ProvingGround
