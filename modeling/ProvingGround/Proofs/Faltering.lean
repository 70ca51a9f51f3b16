import ProvingGround.Proofs.Lifecycle.Requests
import ProvingGround.Proofs.Setup.Lockstep

/-!
# Transient faults are no news

Setup cannot tell a service that is not ready from one that fails for the moment. With either it
makes the same calls at the same times, and it ends with the same network, or with the same failure
in the same phase.
-/

namespace ProvingGround

variable {σ τ : Type}

theorem settleFailure_lockstep {b : Blueprint} {V : σ → τ → Prop} (f : PhaseFailure) :
    Step.Lockstep b V (settleFailure f : Step σ SetupResult) (settleFailure f : Step τ SetupResult)
      fun _ => V := by
  apply Step.lockstep_record_bind
  intro l _
  split
  · intro l s s' hb alike worlds
    exact ⟨.ok (.error f, l), s, s', rfl, rfl, alike, fun _ _ hv => nomatch hv⟩
  · apply (Step.lockstep_advance _ _).bind
    intro _
    exact Step.lockstep_pure fun _ _ h => h

/-- When the second of two worlds falters where the first one finds nothing ready, the setup of a
fresh run goes the same way in both: one result, one record of the run, the same calls at the same
times. -/
theorem setup_falters [Services σ] [Services τ] {W : Option Nat → σ → τ → Prop} (b : Blueprint)
    (st : Settings) (draws : SuffixDraws) (born : Timestamp) (falters : Falters b W)
    {s : Session σ} {s' : Session τ} (alike : s.Alike s') (worlds : W none s.world s'.world) :
    ∃ r later later',
      (setup false).exec (.create b st draws born) s = (r, later) ∧
      (setup false).exec (.create b st draws born) s' = (r, later') ∧ later.Alike later' := by
  have same : ((Lifecycle.create b st draws born).begun s.today).blueprint.headcounts =
    b.headcounts := b.headcounts_overrideImages st.imageOverride
  have begun : s.begun.Alike s'.begun := by
    unfold Session.begun
    rw [alike.clock]
    exact alike.note rfl
  obtain ⟨r, m, m', up, up', seen, -⟩ :=
    bringUp_lockstep (falters.of_headcounts same) _ s.begun s'.begun rfl begun worlds
  rw [exec_setup_begun rfl, exec_setup_begun rfl, alike.today, up, up']
  match r with
  | .error halt => exact ⟨.error halt, m, m', rfl, rfl, seen⟩
  | .ok (.ok env, l') => exact ⟨.ok (.ok (.ready env), l'), m, m', rfl, rfl, seen⟩
  | .ok (.error f, l') =>
    obtain ⟨r, later, later', settled, settled', seen, -⟩ :=
      settleFailure_lockstep (V := fun _ _ => True) f l' m m' rfl seen trivial
    exact ⟨r, later, later', settled, settled', seen⟩

/-! ### A pool that takes its time -/

/-- A willing world, but for the status of the pool: it is told only after some readings. -/
structure Hesitant where
  readings : Nat
  /-- What is told before. -/
  excuse : Except Fault (Option PoolStatus)

instance : Services Hesitant where
  respond w now c :=
    match c, w.readings with
    | .poolStatus _, n + 1 => (⟨.zero, w.excuse⟩, { w with readings := n })
    | c, _ => ((Services.respond Biased.willing now c).1, w)

namespace Hesitant

def session (w : Hesitant) : Session Hesitant := ⟨w, .zero, fun _ => ⟨0⟩, 1, []⟩

/-- The pool is being made. -/
def slow (readings : Nat) : Hesitant := ⟨readings, .ok (some .provisioning)⟩

/-- Nobody tells the status of the pool. -/
def lost (readings : Nat) : Hesitant := ⟨readings, .error (.cluster (.exchange "connection reset"))⟩

def Excused (_ : Option Nat) (w w' : Hesitant) : Prop :=
  ∃ readings, w = slow readings ∧ w' = lost readings

theorem falters (b : Blueprint) : Falters b Excused where
  delay := by
    rintro machines _ _ ⟨_ | n, rfl, rfl⟩ now c <;> cases c <;> rfl
  result := by
    rintro machines _ _ ⟨_ | n, rfl, rfl⟩ now c <;>
      first
      | exact .same _
      | cases c <;> first | exact .same _ | exact .excuse (.inr rfl) rfl
  next := by
    rintro machines _ _ ⟨_ | n, rfl, rfl⟩ now c <;> cases c <;> exact ⟨_, rfl, rfl⟩

end Hesitant

/-- A run that waits for its pool. -/
def Lifecycle.waiting : Lifecycle :=
  .create .least { (default : Settings) with
    waits := { (default : WaitSettings) with
      nodePool := .ofSeconds 10, pollInterval := .ofSeconds 1 } } (.ofNat 0) ⟨0⟩

theorem setup_falters_pool :
    Falters .least Hesitant.Excused ∧ Hesitant.Excused none (.slow 2) (.lost 2) ∧
      ∃ r later later',
        (setup false).exec .waiting (Hesitant.slow 2).session = (r, later) ∧
        (setup false).exec .waiting (Hesitant.lost 2).session = (r, later') ∧
        later.Alike later' := by
  have excused : Hesitant.Excused none (.slow 2) (.lost 2) := ⟨2, rfl, rfl⟩
  have alike : (Hesitant.slow 2).session.Alike (Hesitant.lost 2).session := ⟨rfl, rfl, rfl, rfl⟩
  exact ⟨Hesitant.falters .least, excused,
    setup_falters .least _ _ _ (Hesitant.falters .least) alike excused⟩

example :
    ((setup false).exec .waiting (Hesitant.lost 2).session).1.toOption.map (·.2.phase) =
      some .genesisSynced ∧
    ((setup false).exec .waiting (Hesitant.lost 2).session).2.clock = .ofSeconds 2 := by
  decide +kernel

end ProvingGround
