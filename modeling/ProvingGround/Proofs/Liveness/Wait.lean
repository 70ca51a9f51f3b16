import ProvingGround.Proofs.Acceptance
import ProvingGround.Proofs.Liveness.Checks
import ProvingGround.Proofs.Trace.Countdown

/-!
# How long liveness waits

Two products make the span for which a network is left to itself, and neither of them overflows: they
stop at the greatest word. The end of that span is a sum, which does not stop there. What the words
can hold does not matter, since the clock counts less: the scenario waits for the true span when it
ends on the clock, and never comes to a verdict when it does not.
-/

namespace ProvingGround

/-! ### Arguments about epochs -/

/-- The argument of a node that the cause is about. -/
def ConfigCause.argument? : ConfigCause → Option String
  | argumentNotInteger name _ | argumentNotNatural name _ | missingArgument name => some name
  | _ => none

namespace NodeSpec

variable {s : NodeSpec} {cause : ConfigCause}

/-- The arguments about epochs are whole numbers. -/
structure Counts (s : NodeSpec) (layers seconds : Nat) : Prop where
  layers : s.naturalArg layersPerEpochArg = .ok layers
  seconds : s.naturalArg layerDurationArg = .ok seconds

theorem argument?_of_naturalArg {name : String} (h : s.naturalArg name = .error cause) :
    cause.argument? = some name := by
  unfold naturalArg at h
  split at h
  · cases h
    rfl
  · split at h
    · cases h
    · cases h
      rfl
  · split at h
    · cases h
    · cases h
      rfl
  · cases h
    rfl

theorem Counts.unique {layers seconds layers' seconds' : Nat} (h : s.Counts layers seconds)
    (h' : s.Counts layers' seconds') : layers = layers' ∧ seconds = seconds' := by
  have layers := h.layers
  have seconds := h.seconds
  rw [h'.layers] at layers
  rw [h'.seconds] at seconds
  cases layers
  cases seconds
  exact ⟨rfl, rfl⟩

theorem Counts.epoch {layers seconds : Nat} (h : s.Counts layers seconds) :
    s.epoch = .ok (.ofSeconds (min (layers * seconds) (Word.count 64 - 1))) := by
  unfold NodeSpec.epoch
  rw [h.layers, h.seconds]
  rfl

theorem counts_or_misread (s : NodeSpec) :
    (∃ layers seconds, s.Counts layers seconds) ∨
      ∃ cause, s.epoch = .error cause ∧
        (cause.argument? = some layersPerEpochArg ∨ cause.argument? = some layerDurationArg) := by
  rcases layers : s.naturalArg layersPerEpochArg with cause | l
  · refine .inr ⟨cause, ?_, .inl (argument?_of_naturalArg layers)⟩
    unfold epoch
    rw [layers]
    rfl
  rcases seconds : s.naturalArg layerDurationArg with cause | d
  · refine .inr ⟨cause, ?_, .inr (argument?_of_naturalArg seconds)⟩
    unfold epoch
    rw [layers, seconds]
    rfl
  · exact .inl ⟨l, d, layers, seconds⟩

end NodeSpec

/-! ### The span -/

/-- The nanoseconds of so many epochs, whatever a word can hold. -/
def epochsNanos (layers seconds epochs : Nat) : Nat :=
  layers * seconds * min epochs (Word.count 32 - 1) * Duration.second

theorem min_saturated_mul {horizon widest cap unit : Nat} (factor : horizon ≤ widest)
    (product : horizon * unit ≤ cap) (m n : Nat) :
    min (min (min m widest * unit * n) cap) (horizon * unit) =
      min (m * n * unit) (horizon * unit) := by
  rw [Nat.mul_right_comm _ unit]
  rcases Nat.eq_zero_or_pos n with rfl | some_
  · simp
  by_cases narrow : m ≤ widest
  · rw [Nat.min_eq_left narrow]
    omega
  · have far : ∀ k, horizon ≤ k → horizon * unit ≤ k * n * unit := fun k wide =>
      Nat.mul_le_mul_right _ (Nat.le_trans wide (Nat.le_mul_of_pos_right _ some_))
    have wide : widest ≤ m := by omega
    have stopped := far widest factor
    have whole := far m (Nat.le_trans factor wide)
    rw [Nat.min_eq_right wide]
    omega

/-- Up to the horizon of the clock it does not matter where products stop. -/
theorem min_epochsSpan (layers seconds epochs : Nat) :
    min (epochsSpan (.ofSeconds (min (layers * seconds) (Word.count 64 - 1))) epochs).nanos
        (Timer.horizon * Duration.second) =
      min (epochsNanos layers seconds epochs) (Timer.horizon * Duration.second) :=
  min_saturated_mul (by decide) (by decide) _ _

/-! ### Ends of the scenario -/

variable {σ : Type} [Services σ]

/-- How the scenario ends on a network: for an argument that is wrong, after its wait with a verdict
on the groups, or not at all. -/
inductive LivenessEnds (epochs : Nat) (env : Environment) (s : Session σ) :
    Except Halt (Except ScenarioFault Unit) × Session σ → Prop where
  | misread {cause : ConfigCause} (wrong : env.blueprint.client.epoch = .error cause)
      (argument : cause.argument? = some layersPerEpochArg ∨
        cause.argument? = some layerDurationArg) :
      LivenessEnds epochs env s (.ok (.error (.fault (.config cause))), s)
  | waited {layers seconds : Nat} {clock : Duration} {verdict : Except ScenarioFault Unit}
      {s' : Session σ} (counts : env.blueprint.client.Counts layers seconds)
      (near : s.clock.nanos + epochsNanos layers seconds epochs <
        Timer.horizon * Duration.second)
      (reached : s.clock.nanos + epochsNanos layers seconds epochs ≤ clock.nanos)
      (onTime : Duration.millisecond ∣ s.clock.nanos →
        clock.nanos = s.clock.nanos + epochsNanos layers seconds epochs)
      (checked : (checkGroups env.ns epochs env.network.groups).run.exec { s with clock } =
        (.ok verdict, s')) :
      LivenessEnds epochs env s (.ok verdict, s')
  | beyond {layers seconds : Nat} (counts : env.blueprint.client.Counts layers seconds)
      (far : Timer.horizon * Duration.second ≤
        s.clock.nanos + epochsNanos layers seconds epochs) :
      LivenessEnds epochs env s (.error .beyondClock, s)

theorem run_livenessBody_error {epochs : Nat} {env : Environment} {cause : ConfigCause}
    (wrong : env.blueprint.client.epoch = .error cause) (s : Session σ) :
    (livenessBody epochs env).run.exec s = (.ok (.error (.fault (.config cause))), s) := by
  unfold livenessBody
  rw [wrong]
  rfl

theorem run_livenessBody_ok {epochs : Nat} {env : Environment} {epoch : Duration}
    (right : env.blueprint.client.epoch = .ok epoch) (s : Session σ) :
    (livenessBody epochs env).run.exec s =
      match (countdown (epochsSpan epoch epochs) livenessStep).exec s with
      | (.ok _, later) => (checkGroups env.ns epochs env.network.groups).run.exec later
      | (.error h, later) => (.error h, later) := by
  unfold livenessBody
  rw [right]
  dsimp only
  rw [Activity.run, Act.exec_bind]
  rcases (countdown (epochsSpan epoch epochs) livenessStep).exec s with ⟨h | left, later⟩ <;> rfl

theorem run_livenessBody_ends (epochs : Nat) (env : Environment) (s : Session σ) :
    LivenessEnds epochs env s ((livenessBody epochs env).run.exec s) := by
  rcases env.blueprint.client.counts_or_misread with ⟨layers, seconds, counts⟩ |
    ⟨cause, wrong, argument⟩
  · have span := min_epochsSpan layers seconds epochs
    rw [run_livenessBody_ok counts.epoch]
    by_cases near : s.clock.nanos + epochsNanos layers seconds epochs <
      Timer.horizon * Duration.second
    · have exact_ : (epochsSpan (.ofSeconds (min (layers * seconds) (Word.count 64 - 1)))
          epochs).nanos = epochsNanos layers seconds epochs := by omega
      obtain ⟨left, clock, ended, reached, onTime⟩ := countdown_exec livenessStep (s := s)
        (Timer.isCountable_iff.2 (exact_ ▸ near))
      obtain ⟨_, verdict, s', checked, -⟩ :=
        checkGroups_exec env.ns epochs env.network.groups { s with clock }
      have whole : Duration.millisecond ∣ epochsNanos layers seconds epochs :=
        Nat.dvd_trans (by decide) (Nat.dvd_mul_left _ _)
      rw [exact_] at reached onTime
      rw [ended]
      dsimp only
      rw [checked]
      exact .waited counts near reached (fun now => onTime now (by decide) whole) checked
    · have far := Nat.le_of_not_lt near
      have uncountable : Timer.isCountable ⟨s.clock.nanos + (epochsSpan (.ofSeconds
          (min (layers * seconds) (Word.count 64 - 1))) epochs).nanos⟩ = false := by
        rw [← Bool.not_eq_true, Timer.isCountable_iff]
        dsimp only
        omega
      rw [countdown_exec_beyond uncountable]
      exact .beyond counts far
  · rw [run_livenessBody_error wrong]
    exact .misread wrong argument

/-- The scenario waits for the true span of its epochs and comes to a verdict, unless an argument is
wrong or the span ends beyond the clock; there is no verdict just when it does. -/
theorem networkLiveness_waits (epochs : Nat) (env : Environment) (s : Session σ) :
    let outcome := ((networkLiveness epochs).body env).run.exec s
    LivenessEnds epochs env s outcome ∧
      (outcome.1 = .error .beyondClock ↔ ∃ layers seconds,
        env.blueprint.client.Counts layers seconds ∧
          Timer.horizon * Duration.second ≤
            s.clock.nanos + epochsNanos layers seconds epochs) := by
  intro outcome
  have ends : LivenessEnds epochs env s outcome := run_livenessBody_ends epochs env s
  clear_value outcome
  refine ⟨ends, ?_⟩
  cases ends with
  | misread wrong _ =>
    refine ⟨nofun, fun ⟨layers, seconds, counts, _⟩ => ?_⟩
    rw [counts.epoch] at wrong
    cases wrong
  | waited counts near _ _ _ =>
    refine ⟨nofun, fun ⟨layers, seconds, again, far⟩ => ?_⟩
    obtain ⟨rfl, rfl⟩ := counts.unique again
    omega
  | beyond counts far => exact ⟨fun _ => ⟨_, _, counts, far⟩, fun _ => rfl⟩

/-! ### A wait without an end -/

/-- A document whose epoch is longer than 64 bits of seconds. -/
def timelessText : String :=
  "namespace: t\nbootstrap:\n  image: node\nclient:\n  image: node\n  args:\n" ++
    "    layers-per-epoch: 3\n    layer-duration-sec: 9223372036854775807\n" ++
    "genesis_delta: 60\ndeployment_ready_time_out: 20\n"

def Blueprint.timeless : Blueprint where
  ns := "t"
  bootstrap := { image := "node" }
  client :=
    { image := "node"
      args := .ofList [(layersPerEpochArg, .int 3), (layerDurationArg, .int 9223372036854775807)] }
  genesisDelta := 60
  readyTimeout := 20

def Suite.liveness (epochs : Nat) : Suite := ⟨"network", false, [networkLiveness epochs]⟩

/-- Where every call is granted, the network of the accepted document is brought up and the scenario
begins. Then the run is over: there is no verdict, and no teardown task is handed over. -/
theorem liveness_overflows :
    Blueprint.ofText timelessText = .ok .timeless ∧
      ∃ s, (runSuite (.liveness 1)).exec (.create .timeless default (.ofNat 0) ⟨0⟩)
          Biased.willing.session = (.error .beyondClock, s) ∧
        (s.deeds.filterMap Deed.begun?).map Prod.fst = ["network_liveness"] ∧
        .createNamespace "t" ∈ s.calls ∧ s.deeds.countP Deed.isSubmit = 0 := by
  have outcome : ((runSuite (.liveness 1)).exec (.create .timeless default (.ofNat 0) ⟨0⟩)
        Biased.willing.session).1.map (fun _ => ()) = .error .beyondClock ∧
      (((runSuite (.liveness 1)).exec (.create .timeless default (.ofNat 0) ⟨0⟩)
        Biased.willing.session).2.deeds.filterMap Deed.begun?).map Prod.fst =
          ["network_liveness"] ∧
      .createNamespace "t" ∈ ((runSuite (.liveness 1)).exec
        (.create .timeless default (.ofNat 0) ⟨0⟩) Biased.willing.session).2.calls ∧
      ((runSuite (.liveness 1)).exec (.create .timeless default (.ofNat 0) ⟨0⟩)
        Biased.willing.session).2.deeds.countP Deed.isSubmit = 0 := by
    decide +kernel
  rcases ended : (runSuite (.liveness 1)).exec (.create .timeless default (.ofNat 0) ⟨0⟩)
    Biased.willing.session with ⟨halt | _, s⟩ <;> rw [ended] at outcome <;>
    obtain ⟨halted, begun, created, unsubmitted⟩ := outcome
  · obtain rfl := Except.error.inj halted
    exact ⟨by decide +kernel, s, rfl, begun, created, unsubmitted⟩
  · cases halted

end ProvingGround
