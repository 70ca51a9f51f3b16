import Mathlib.Data.Bool.Count
import ProvingGround.Proofs.Lifecycle.Requests
import ProvingGround.Proofs.Trace.Time

/-!
# Machines under the collector

A pool is handed over on two counts that do not tell the machines of the pool from those that were
there before: how many machines are to carry the collector, as far as its controller has got, and on
how many it is ready. What they say about the machines of the pool is less than that all of them are
covered, unless the controller had got to all of them.
-/

namespace ProvingGround

variable {σ : Type}

/-! ### Fleets -/

/-- The machines of a cluster at a moment, each with whether the collector is ready on it. -/
structure Fleet where
  /-- The machines that were there before the pool. -/
  old : List Bool
  /-- The machines of the pool. -/
  new : List Bool
  /-- The machines that the controller of the collector has accounted for. -/
  accounted : Nat
  known : old.length ≤ accounted

namespace Fleet

def ready (f : Fleet) : Nat := (f.old ++ f.new).count true

/-- What the cluster tells about the collector. -/
def counts (f : Fleet) : ReplicaCounts := ⟨f.accounted, f.ready⟩

/-- The collector is ready on every machine of the pool. -/
def Covered (f : Fleet) : Prop := ∀ ready ∈ f.new, ready = true

theorem covered_iff {f : Fleet} : f.Covered ↔ f.new.count false = 0 := by
  rw [List.count_eq_zero]
  constructor
  · intro covered bare
    exact Bool.false_ne_true (covered _ bare)
  · rintro none ready member
    cases ready with
    | true => rfl
    | false => exact absurd member none

/-- Every machine carries a ready collector or does not. -/
theorem ready_add_bare (f : Fleet) :
    f.ready + f.old.count false + f.new.count false = f.old.length + f.new.length := by
  have old := List.count_true_add_count_false f.old
  have new := List.count_true_add_count_false f.new
  unfold ready
  rw [List.count_append]
  omega

/-- What is vouched for when the counts cover a pool. -/
structure Vouched (f : Fleet) : Prop where
  /-- The collector is ready wherever its controller has got to. -/
  complete : f.ready = f.accounted
  /-- Old machines may pass for machines of the pool, each for one. -/
  bare : f.new.length ≤ coverageCap → f.new.count false ≤ f.old.count true
  covered : f.old.length + f.new.length ≤ f.accounted → f.Covered

theorem vouched_of_covers {f : Fleet} (h : f.counts.covers f.new.length = true) : f.Vouched := by
  unfold ReplicaCounts.covers counts at h
  rw [Bool.and_eq_true, decide_eq_true_eq, beq_iff_eq] at h
  obtain ⟨enough, all⟩ := h
  have sum := f.ready_add_bare
  have old := List.count_true_add_count_false f.old
  have complete : f.ready = f.accounted := Int.ofNat.inj all
  have enough : min f.new.length coverageCap ≤ f.ready := Int.ofNat_le.1 enough
  refine ⟨complete, ?_, ?_⟩
  · intro small
    omega
  · intro accounted
    rw [covered_iff]
    omega

end Fleet

/-! ### Pools -/

theorem scalePool_exec_ok [Services σ] {ns : String} {b : Blueprint} {w : WaitSettings}
    {s later : Session σ} {pool : ScaledPool}
    (h : (scalePool ns b w).exec s = (.ok (.ok pool), later)) :
    ∃ earlier start counts, later.history = earlier ++
        [.exchanged ⟨.workloadStatus ns collectorWorkload, start, later.clock, .ok (some counts)⟩] ∧
      counts.covers pool.nodes = true := by
  obtain ⟨request, s₁, -, rest⟩ := Task.exec_bind_ok h
  obtain ⟨_, s₂, -, rest⟩ := Task.exec_bind_ok rest
  obtain ⟨_, s₃, -, rest⟩ := Task.exec_bind_ok rest
  obtain ⟨_, s₄, -, rest⟩ := Task.exec_bind_ok rest
  obtain ⟨_, s₅, -, rest⟩ := Task.exec_bind_ok rest
  obtain ⟨_, s₆, waited, rest⟩ := Task.exec_bind_ok rest
  cases rest
  obtain ⟨s₇, check⟩ := poll_exec_ok waited
  obtain ⟨status, s₈, call, rest⟩ := Task.exec_bind_ok check
  cases status with
  | none => cases rest
  | some counts =>
    have covers : counts.covers request.nodes = true := by
      by_contra bare
      simp only [if_neg bare] at rest
      cases rest
    simp only [if_pos covers] at rest
    cases rest
    exact ⟨s₇.history, s₇.clock, counts, Task.exec_call_ok call, covers⟩

/-- When a pool is handed over, the last thing that was done is a look at the collector. Whatever
machines there were at that look, they are vouched for; only when the controller had got to all of
them is the whole pool known to be covered. -/
theorem scaled_vouched [Services σ] {ns : String} {b : Blueprint} {w : WaitSettings}
    {s later : Session σ} {pool : ScaledPool}
    (h : (scalePool ns b w).exec s = (.ok (.ok pool), later)) :
    ∃ earlier start counts, later.history = earlier ++
        [.exchanged ⟨.workloadStatus ns collectorWorkload, start, later.clock, .ok (some counts)⟩] ∧
      ∀ f : Fleet, f.counts = counts → f.new.length = pool.nodes → f.Vouched := by
  obtain ⟨earlier, start, counts, history, covers⟩ := scalePool_exec_ok h
  refine ⟨earlier, start, counts, history, ?_⟩
  rintro f rfl size
  rw [← size] at covers
  exact Fleet.vouched_of_covers covers

/-! ### A cluster that grows -/

/-- A cluster that grants every call. Its machines stand as given, look after look at the
collector. -/
structure Growth where
  fleet : Nat → Fleet
  looks : Nat

instance : Services Growth where
  respond g now c :=
    match c with
    | .workloadStatus .. =>
      (⟨.zero, .ok (some (g.fleet g.looks).counts)⟩, { g with looks := g.looks + 1 })
    | c => ((Services.respond Biased.willing now c).1, g)

def Growth.session (fleet : Nat → Fleet) : Session Growth :=
  ⟨⟨fleet, 0⟩, .zero, fun _ => ⟨0⟩, 1, []⟩

/-- Three machines of old, and one of the pool that the controller has not got to. -/
def Fleet.lagging : Fleet := ⟨[true, true, true], [false], 3, by decide⟩

/-- Three machines of old, and one of the pool, all with a collector. -/
def Fleet.complete : Fleet := ⟨[true, true, true], [true], 4, by decide⟩

/-- The old machines alone pass for a pool, none of whose machines is covered. -/
theorem scaled_uncovered :
    ∃ pool later, (scalePool "pools" .least default).exec (Growth.session fun _ => .lagging) =
        (.ok (.ok pool), later) ∧
      Fleet.lagging.new.length = pool.nodes ∧ ¬ Fleet.lagging.Covered := by
  obtain ⟨later, ended⟩ := Task.exec_of_toOption (v := ⟨"pool-pools", 1, .zero⟩)
    (t := scalePool "pools" .least default) (s := Growth.session fun _ => .lagging)
    (by decide +kernel)
  refine ⟨_, later, ended, rfl, ?_⟩
  intro covered
  exact Bool.false_ne_true (covered false List.mem_cons_self)

theorem scaled_vouched_complete :
    ∃ pool later, (scalePool "pools" .least default).exec (Growth.session fun _ => .complete) =
        (.ok (.ok pool), later) ∧
      ∃ earlier start counts, later.history = earlier ++
          [.exchanged ⟨.workloadStatus "pools" collectorWorkload, start, later.clock,
            .ok (some counts)⟩] ∧
        ∀ f : Fleet, f.counts = counts → f.new.length = pool.nodes → f.Vouched := by
  obtain ⟨later, ended⟩ := Task.exec_of_toOption (v := ⟨"pool-pools", 1, .zero⟩)
    (t := scalePool "pools" .least default) (s := Growth.session fun _ => .complete)
    (by decide +kernel)
  exact ⟨_, later, ended, scaled_vouched ended⟩

end ProvingGround
