import ProvingGround.Proofs.Lifecycle.Requests
import ProvingGround.Proofs.Setup.Stages

/-!
# To what a failure of setup is attributed

A setup that fails names a phase. The record stands in the phase before it, the trace has gone the
same way and ends with what has decided the failure, and nothing is called after that.
-/

namespace ProvingGround

variable {σ : Type}

/-! ### Explanations -/

/-- The failure of setup on the run `l₀`, the record and the trace tell the same. -/
structure Explained (l₀ : Lifecycle) (f : PhaseFailure) (l : Lifecycle) (s : Session σ) : Prop where
  /-- The last deed has decided the failure for its phase and for no other. -/
  phase : ∀ p, f.phase = p ↔ l.phase = p.ground ∧ ∃ pre d, s.deeds = pre ++ [d] ∧
    Decides l₀.blueprint l₀.settings l₀.targetNamespace p d f.fault
  history : l.history = [.notStarted, .provisioning] ++ f.phase.ground.route
  entries : .notStarted :: phasesOf s.deeds = l.history
  /-- A refused transition has come from a service. -/
  foreign : ∀ source trigger, f.fault = .invalidTransition source trigger →
    ∃ pre c, s.deeds = pre ++ [.asked c (.error f.fault)]

theorem Attributed.explained {l₀ l : Lifecycle} {f : PhaseFailure} {s : Session σ}
    (h : Attributed l₀ [.entered .provisioning] f l s.deeds)
    (began : l₀.history = [.notStarted, .provisioning]) : Explained l₀ f l s := by
  obtain ⟨pre, d, hd, decides⟩ := h.blamed.decided
  constructor
  · intro p
    constructor
    · rintro rfl
      exact ⟨h.phase, pre, d, hd, decides⟩
    · intro given
      obtain ⟨stands, pre', d', hd', decides'⟩ := given
      have same : pre = pre' ∧ [d] = [d'] := List.append_inj' (hd.symm.trans hd') rfl
      cases same.2
      exact decides.phase_unique decides' (h.phase.symm.trans stands)
  · rw [h.history, began]
  · rw [h.history, h.entries, began]
    rfl
  · intro source trigger hf
    obtain ⟨c, rfl⟩ := decides.of_invalidTransition hf
    exact ⟨pre, c, hd⟩

/-! ### Setup -/

/-- When the network of a fresh run cannot be brought up, the failure is explained. Setup gives just
this failure and does nothing more, but for going to reporting outside of debug mode. -/
theorem setup_explains [Services σ] (b : Blueprint) (st : Settings) (draws : SuffixDraws)
    (born : Timestamp) (world : σ) (clock : Duration) (calendar : Duration → Timestamp)
    (patience : Nat) {f : PhaseFailure} {l : Lifecycle} {s : Session σ}
    (failed : bringUp.exec ((Lifecycle.create b st draws born).begun (calendar clock))
      (Session.begun ⟨world, clock, calendar, patience, []⟩) = (.ok (.error f, l), s)) :
    Explained ((Lifecycle.create b st draws born).begun (calendar clock)) f l s ∧
      (setup false).exec (.create b st draws born) ⟨world, clock, calendar, patience, []⟩ =
        if st.debug then (.ok (.error f, l), s)
        else (.ok (.ok (.failed f), l.enter .reporting), s.note (.entered .reporting s.clock)) := by
  have clear : Clear [] [.entered .provisioning] := .of_untouched rfl
  obtain ⟨n, -, -, attributed⟩ := Operation.Obeys.result
    (s := Session.begun ⟨world, clock, calendar, patience, []⟩)
    (bringUp_stage (.refl _ [.entered .provisioning] rfl) clear) failed
  have attributed : Attributed ((Lifecycle.create b st draws born).begun (calendar clock))
      [.entered .provisioning] f l s.deeds := attributed
  refine ⟨attributed.explained rfl, ?_⟩
  have today : Session.today (⟨world, clock, calendar, patience, []⟩ : Session σ) =
      calendar clock := rfl
  rw [exec_setup_begun rfl, today, failed]
  dsimp only
  have settings : l.settings = st := attributed.settings
  cases debug : st.debug with
  | true =>
    rw [if_pos rfl]
    apply exec_settleFailure_debug
    rw [settings, debug]
  | false =>
    obtain ⟨e, edge, target⟩ :=
      Option.map_eq_some_iff.1 (Phase.setupFailed_leads _ attributed.unfinished)
    rw [if_neg Bool.false_ne_true, exec_settleFailure_lenient (by rw [settings, debug]) edge,
      target]

/-! ### A world that refuses one kind of call -/

/-- A world in which every call is granted but for some that are refused. -/
structure Picky where
  refuses : Call → Bool

instance : Services Picky where
  respond w now c :=
    if w.refuses c then (⟨.zero, .error (.cloud "refused")⟩, w)
    else ((Services.respond Biased.willing now c).1, w)

def Picky.session (w : Picky) : Session Picky := ⟨w, .zero, fun _ => ⟨0⟩, 1, []⟩

/-- Where the timing service cannot be started, setup fails for it. -/
theorem setup_explains_timing :
    ∃ f l s, bringUp.exec ((Lifecycle.least false).begun ⟨0⟩)
        (Picky.session ⟨fun c => c matches .startTiming ..⟩).begun = (.ok (.error f, l), s) ∧
      f.phase = .bootstrapReady ∧ Explained ((Lifecycle.least false).begun ⟨0⟩) f l s := by
  have phase : (bringUp.exec ((Lifecycle.least false).begun ⟨0⟩)
      (Picky.session ⟨fun c => c matches .startTiming ..⟩).begun).1.toOption.bind
        (fun r => match r.1 with
          | .error f => some f.phase
          | .ok _ => none) = some .bootstrapReady := by
    decide +kernel
  rcases ended : bringUp.exec ((Lifecycle.least false).begun ⟨0⟩)
    (Picky.session ⟨fun c => c matches .startTiming ..⟩).begun with ⟨halt | ⟨f | env, l⟩, s⟩
  · rw [ended] at phase
    cases phase
  · rw [ended] at phase
    have explained := setup_explains .least { (default : Settings) with debug := false } (.ofNat 0)
      ⟨0⟩ (⟨fun c => c matches .startTiming ..⟩ : Picky) .zero (fun _ => ⟨0⟩) 1 ended
    exact ⟨f, l, s, rfl, Option.some.inj phase, explained.1⟩
  · rw [ended] at phase
    cases phase

end ProvingGround
