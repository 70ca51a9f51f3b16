import ProvingGround.Blueprint.Reading
import ProvingGround.Proofs.Attribution
import ProvingGround.Proofs.Setup.Genesis

/-!
# What is wrong with an accepted blueprint

A document is read and checked before anything is created. After that the plan of the pool can
always be made. The instant of genesis may still be out of range: it is computed when the pool has
been scaled, and setup fails then.
-/

namespace ProvingGround

/-! ### Accepted blueprints -/

/-- All amounts of memory in the blueprint can be read. -/
structure Blueprint.Sized (b : Blueprint) : Prop where
  groups : ∀ s ∈ b.groups, ∃ m, s.requestedMemory = .ok m
  machine : ∃ m, MemorySize.parse b.pool.nodeMemory = .ok m

theorem NodeSpec.requestedMemory_of_check {s : NodeSpec} {group : String}
    (h : s.check group = .ok ()) : ∃ m, s.requestedMemory = .ok m := by
  unfold check at h
  split at h
  · cases h
  split at h
  · cases h
  split at h
  · cases h
  next m hm => exact ⟨m, hm⟩

namespace Blueprint

variable {b : Blueprint}

/-- The check of every group has succeeded, and that of the machines. -/
theorem check_eq_ok (h : b.check = .ok ()) :
    (∀ s ∈ b.groups, ∃ group, s.check group = .ok ()) ∧
      ∃ m, MemorySize.parse b.pool.nodeMemory = .ok m := by
  have step : ∀ {x : Except ConfigCause Unit} {k : Unit → Except ConfigCause Unit},
      (x >>= k) = .ok () → x = .ok () ∧ k () = .ok () := by
    intro x k hx
    cases x with
    | error c => cases hx
    | ok u => exact ⟨rfl, hx⟩
  unfold check at h
  obtain ⟨bootstrap, h⟩ := step h
  obtain ⟨client, h⟩ := step h
  have machine : ∃ m, MemorySize.parse b.pool.nodeMemory = .ok m := by
    cases hm : MemorySize.parse b.pool.nodeMemory with
    | ok m => exact ⟨m, rfl⟩
    | error cause =>
      have refused : (if b.readyTimeout = 0 then .error .zeroDeploymentTimeout
          else .error (.poolMemory cause)) ≠ (.ok () : Except ConfigCause Unit) := by
        split <;> nofun
      rw [hm] at h
      cases hv : b.clientv2 with
      | none =>
        rw [hv] at h
        exact absurd h refused
      | some v2 =>
        rw [hv] at h
        exact absurd (step h).2 refused
  refine ⟨fun s hs => ?_, machine⟩
  unfold groups at hs
  cases hv : b.clientv2 with
  | none =>
    simp only [hv, Option.map_none, Option.toList_none, List.mem_cons, List.not_mem_nil,
      or_false] at hs
    rcases hs with rfl | rfl
    · exact ⟨_, bootstrap⟩
    · exact ⟨_, client⟩
  | some v2 =>
    rw [hv] at h
    obtain ⟨second, -⟩ := step h
    simp only [hv, Option.map_some, Option.toList_some, List.mem_cons, List.not_mem_nil,
      or_false] at hs
    rcases hs with rfl | rfl | rfl
    · exact ⟨_, bootstrap⟩
    · exact ⟨_, client⟩
    · exact ⟨_, second⟩

theorem sized_of_check (h : b.check = .ok ()) : b.Sized := by
  obtain ⟨groups, machine⟩ := check_eq_ok h
  refine ⟨fun s hs => ?_, machine⟩
  obtain ⟨group, checked⟩ := groups s hs
  exact NodeSpec.requestedMemory_of_check checked

theorem check_of_ofText {text : String} (h : ofText text = .ok b) : b.check = .ok () := by
  unfold ofText at h
  split at h
  · cases h
  split at h
  · cases h
  next checked =>
    cases h
    exact checked

/-- Images are not what memory is requested for. -/
theorem Sized.overrideImages (h : b.Sized) (image : String) : (b.overrideImages image).Sized := by
  have same : (b.overrideImages image).groups.map NodeSpec.requestedMemory =
      b.groups.map NodeSpec.requestedMemory := b.map_groups_overrideImages image fun _ _ => rfl
  refine ⟨fun s hs => ?_, ?_⟩
  · have member : s.requestedMemory ∈ b.groups.map NodeSpec.requestedMemory := by
      rw [← same]
      exact List.mem_map_of_mem hs
    obtain ⟨s', hs', eq⟩ := List.mem_map.1 member
    rw [← eq]
    exact h.groups s' hs'
  · rw [b.pool_overrideImages]
    exact h.machine

theorem addGroupMemory_ok {groups : List NodeSpec} (total : Nat)
    (h : ∀ s ∈ groups, ∃ m, s.requestedMemory = .ok m) :
    ∃ m, addGroupMemory total groups = .ok m := by
  induction groups generalizing total with
  | nil => exact ⟨total, rfl⟩
  | cons s rest ih =>
    obtain ⟨m, hm⟩ := h s List.mem_cons_self
    have group : s.groupMemory = .ok (min (m * s.podCount) memoryCap) := by
      unfold NodeSpec.groupMemory
      rw [hm]
      rfl
    unfold addGroupMemory
    rw [group]
    exact ih _ fun s' hs' => h s' (List.mem_cons_of_mem s hs')

/-- The pool of an accepted blueprint can be planned. -/
theorem Sized.planPool_ok (h : b.Sized) (ns : String) : ∃ r, b.planPool ns = .ok r := by
  obtain ⟨machine, hmachine⟩ := h.machine
  obtain ⟨total, htotal⟩ := addGroupMemory_ok 0 h.groups
  have requested : b.requestedMemory = .ok total := htotal
  unfold planPool
  rw [hmachine, requested]
  exact ⟨_, rfl⟩

end Blueprint

theorem GenesisSchedule.compute_eq_error {delta clock : Duration} {now : Timestamp}
    {c : ConfigCause} (h : compute delta clock now = .error c) : c = .genesisOutOfRange delta := by
  unfold compute at h
  split at h
  · cases h
  · cases h
    rfl

/-! ### Setup -/

/-- The failure that setup ended with, kept or raised. -/
def failureOf : Except PhaseFailure SetupResult → Option PhaseFailure
  | .error f => some f
  | .ok (.failed f) => some f
  | .ok _ => none

/-- A call was answered with a fault of the configuration. -/
def Deed.tellsConfig : Deed → Bool
  | asked _ (.error (.config _)) => true
  | _ => false

variable {σ : Type}

/-- Setup fails as the network failed to come up, and settling the failure keeps what was done. -/
theorem settleFailure_keeps_failure {l l' : Lifecycle} {s s' : Session σ} {f g : PhaseFailure}
    {r : Except PhaseFailure SetupResult} (unfinished : l.phase.isUnfinished = true)
    (settled : (settleFailure f).exec l s = (.ok (r, l'), s')) (failed : failureOf r = some g) :
    g = f ∧ ∃ n, s'.history = s.history ++ n := by
  cases debug : l.settings.debug with
  | true =>
    rw [exec_settleFailure_debug debug] at settled
    cases settled
    cases failed
    exact ⟨rfl, [], (List.append_nil _).symm⟩
  | false =>
    obtain ⟨e, edge, target⟩ := Option.map_eq_some_iff.1 (l.phase.setupFailed_leads unfinished)
    rw [exec_settleFailure_lenient debug edge] at settled
    cases settled
    cases failed
    exact ⟨rfl, _, Session.history_note _ _⟩

/-- When setup fails, the network has failed to come up, and its failure is that of setup. -/
theorem exec_setup_failed [Services σ] {l l' : Lifecycle} {s s' : Session σ}
    {r : Except PhaseFailure SetupResult} {f : PhaseFailure} (start : l.phase = .notStarted)
    (clear : Clear [] s.begun.deeds) (ended : (setup false).exec l s = (.ok (r, l'), s'))
    (failed : failureOf r = some f) :
    ∃ l₁ s₁, bringUp.exec (l.begun s.today) s.begun = (.ok (.error f, l₁), s₁) ∧
      (∃ m, s₁.deeds = s.begun.deeds ++ m) ∧
      Attributed (l.begun s.today) s.begun.deeds f l₁ s₁.deeds ∧
      ∃ n, s'.history = s₁.history ++ n := by
  rw [exec_setup_begun start] at ended
  rcases up : bringUp.exec (l.begun s.today) s.begun with ⟨halt | ⟨g | env, l₁⟩, s₁⟩ <;>
    rw [up] at ended
  · cases ended
  · obtain ⟨m, trace, -, attributed⟩ :=
      Operation.Obeys.result (bringUp_stage (.refl _ _ rfl) clear) up
    have attributed : Attributed (l.begun s.today) s.begun.deeds g l₁ s₁.deeds := attributed
    obtain ⟨rfl, history⟩ := settleFailure_keeps_failure attributed.unfinished ended failed
    exact ⟨l₁, s₁, rfl, ⟨m, trace⟩, attributed, history⟩
  · cases ended
    cases failed

/-! ### When genesis is out of range -/

/-- The last that happened is not that the pool has been scaled. -/
def Session.Elsewhere (s : Session σ) : Prop :=
  ∀ clock, s.history.getLast? ≠ some (.entered .poolScaled clock)

/-- If the last that happened is that the pool has been scaled, genesis is out of range from
there. -/
def Session.Beyond (calendar : Duration → Timestamp) (span : Duration) (s : Session σ) : Prop :=
  ∀ clock, s.history.getLast? = some (.entered .poolScaled clock) →
    (calendar clock).after? span = none

section Beyond

variable {s s' : Session σ} {l : Lifecycle} {calendar : Duration → Timestamp} {span : Duration}
  {genesis : Option Timestamp}

/-- The event that the last deed of a session is. -/
theorem Session.last_of_deeds {pre : List Deed} {p : Phase} (h : s.deeds = pre ++ [.entered p]) :
    ∃ clock, s.history.getLast? = some (.entered p clock) := by
  have last : (s.history.map Event.deed).getLast? = some (.entered p) := by
    rw [show s.history.map Event.deed = _ from h, List.getLast?_concat]
  rw [List.getLast?_map] at last
  obtain ⟨e, he, deed⟩ := Option.map_eq_some_iff.1 last
  cases e with
  | entered q clock =>
    cases deed
    exact ⟨clock, he⟩
  | exchanged | probed | began => cases deed

theorem Session.Elsewhere.beyond (h : s.Elsewhere) : s.Beyond calendar span :=
  fun clock last => absurd last (h clock)

theorem Session.Elsewhere.later (h : s.Elsewhere) (later : s.Later (Event.Heeds genesis) s') :
    s'.Elsewhere := by
  intro clock last
  obtain ⟨n, hn, heeds⟩ := later.events
  rw [hn] at last
  by_cases none : n = []
  · rw [none, List.append_nil] at last
    exact h clock last
  · rw [List.getLast?_append_of_ne_nil _ none] at last
    exact (heeds _ (List.mem_of_getLast? last)).1.1 rfl

variable [Services σ]

/-- The bootstrap group is created before anything else of its deployment. -/
theorem deployBootstrap_elsewhere (p : DeploymentPlan) (spec : NodeSpec) (timeout : Duration)
    (s : Session σ) : ((p.deployBootstrap spec timeout).exec s).2.Elsewhere := by
  have created : ((Task.call (.create p.ns (p.placement.bootstrap spec))).exec s).2.Elsewhere := by
    intro clock last
    rw [Task.exec_call] at last
    unfold Act.exchange at last
    rw [Session.history_note, List.getLast?_concat] at last
    cases last
  unfold DeploymentPlan.deployBootstrap
  rw [Task.exec_bind]
  rcases ended : (Task.call (.create p.ns (p.placement.bootstrap spec))).exec s with
    ⟨halt | f | v, s₁⟩ <;> rw [ended] at created
  · exact created
  · exact created
  · have rest : s₁.Later (Event.Heeds none) _ := awaitBootstrap_heeds p spec timeout s₁
    exact created.later rest

omit [Services σ] in
theorem Session.elsewhere_note {p : Phase} {clock : Duration} (other : p ≠ .poolScaled) :
    (s.note (.entered p clock)).Elsewhere := by
  intro c last
  rw [Session.history_note, List.getLast?_concat] at last
  cases last
  exact other rfl

omit [Services σ] in
theorem leads_task_elsewhere {α : Type} {p : Phase} {a : Task σ α} (h : (a.exec s).2.Elsewhere) :
    (Step.task p a).Leads l s (fun _ _ later => later.Elsewhere) Session.Elsewhere := by
  have attempt : a.attempt.exec s = a.exec s := rfl
  unfold Step.Leads Step.task
  rw [Step.exec_bind, Step.exec_lift, Operation.exec_act, attempt]
  rcases ended : a.exec s with ⟨halt | f | v, s'⟩ <;> rw [ended] at h <;> exact h

omit [Services σ] in
/-- The schedule of genesis is made, or it is out of range from where it is asked for. -/
theorem startGenesis_leads {p : Phase} :
    (Step.task p (GenesisSchedule.start span) : Step σ GenesisSchedule).Leads l s
      (fun _ l' later => l' = l ∧ later = s)
      (fun later => later = s ∧ s.today.after? span = none) := by
  have start : (GenesisSchedule.start span).exec s =
      (Task.ofConfig (GenesisSchedule.compute span s.clock s.today)).exec s := rfl
  unfold Step.Leads Step.task
  rw [Step.exec_bind, Step.exec_lift, Operation.exec_act]
  have attempt : (GenesisSchedule.start span).attempt.exec s =
      (GenesisSchedule.start span).exec s := rfl
  rw [attempt, start]
  unfold GenesisSchedule.compute
  cases after : s.today.after? span with
  | none => exact ⟨rfl, rfl⟩
  | some genesis => exact ⟨rfl, rfl⟩

theorem setupBootstrap_beyond (ns : String) (pool : ScaledPool) :
    (setupBootstrap ns pool : Step σ (DeploymentPlan × NodeGroup)).Leads l s
      (fun _ _ later => later.Elsewhere)
      (fun later => later.Elsewhere ∨
        later = s ∧ s.today.after? l.blueprint.genesisSpan = none) := by
  apply Step.leads_record_bind
  apply startGenesis_leads.bind fun _ => .inr
  rintro schedule l s ⟨rfl, rfl⟩
  dsimp only
  apply (leads_task_elsewhere (deployBootstrap_elsewhere _ _ _ _)).bind fun _ => .inl
  intro group l' s₁ deployed
  apply (Step.leads_advance (q := .bootstrapReady) (by decide) deployed).bind fun _ => .inl
  rintro _ _ _ ⟨-, rfl⟩
  exact Step.leads_pure (Session.elsewhere_note (by decide))

/-- Once the bootstrap phase has started, what happens is told of genesis. -/
theorem bringUp_beyond (early : s.Elsewhere) :
    (bringUp : Step σ Environment).Leads l s (fun _ _ _ => True)
      (Session.Beyond s.calendar l.blueprint.genesisSpan) := by
  have idle : ∀ later, s.Later (Event.Heeds none) later →
      later.Beyond s.calendar l.blueprint.genesisSpan := fun _ later => (early.later later).beyond
  apply setupNamespace_heeds.leads.bind idle
  rintro ns l₁ s₁ ⟨later₁, on₁⟩
  apply (setupLogging_heeds ns).leads.bind fun later h => idle later (later₁.trans h)
  rintro _ l₂ s₂ ⟨later₂, on₂⟩
  have later₂ := later₁.trans later₂
  apply (setupPool_leads ns).bind fun later h => idle later (later₂.trans h)
  rintro pool l₃ s₃ ⟨on₃, before, later₃, rfl⟩
  have later₃ := later₂.trans later₃
  have same : l₃.blueprint = l.blueprint := ((on₁.trans on₂).trans on₃).blueprint
  apply (setupBootstrap_beyond ns pool).bind
  · rintro later (elsewhere | ⟨rfl, beyond⟩) clock last
    · exact elsewhere.beyond clock last
    · rw [Session.history_note, List.getLast?_concat] at last
      cases last
      rw [← same, ← later₃.calendar]
      exact beyond
  rintro ⟨plan, bootstrap⟩ l₄ s₄ elsewhere
  apply (setupClients_leads bootstrap rfl).bind fun _ h => (elsewhere.later h).beyond
  rintro network l₅ s₅ ⟨-, groups⟩
  have elsewhere := elsewhere.later groups.told
  apply (setupGenesis_leads plan.schedule).bind
    fun later (h : s₅.Later (Event.Heeds none) later) => (elsewhere.later h).beyond
  rintro _ l₆ s₆ -
  apply Step.leads_record_bind
  exact Step.leads_pure trivial

end Beyond

/-- When setup of an accepted document fails of its configuration, and no service has said so, the
instant of genesis is out of range. It is found out when the pool has been scaled, and counted from
then. -/
theorem setup_misconfigured [Services σ] {text : String} {b : Blueprint}
    (accepted : Blueprint.ofText text = .ok b) (st : Settings) (draws : SuffixDraws)
    (born : Timestamp) (world : σ) (clock : Duration) (calendar : Duration → Timestamp)
    (patience : Nat) {r : Except PhaseFailure SetupResult} {l : Lifecycle} {s : Session σ}
    {f : PhaseFailure} {cause : ConfigCause}
    (ended : (setup false).exec (.create b st draws born) ⟨world, clock, calendar, patience, []⟩ =
      (.ok (r, l), s))
    (failed : failureOf r = some f) (config : f.fault = .config cause)
    (untold : ∀ d ∈ s.deeds, d.tellsConfig = false) :
    f.phase = .bootstrapReady ∧ cause = .genesisOutOfRange b.genesisSpan ∧
      ∃ outset, .entered .poolScaled outset ∈ s.history ∧
        (calendar outset).after? b.genesisSpan = none := by
  have sized : ((Lifecycle.create b st draws born).begun (calendar clock)).blueprint.Sized :=
    (Blueprint.sized_of_check (Blueprint.check_of_ofText accepted)).overrideImages _
  have span : ((Lifecycle.create b st draws born).begun (calendar clock)).blueprint.genesisSpan =
    b.genesisSpan := b.genesisSpan_overrideImages _
  obtain ⟨l₁, s₁, up, -, attributed, n, history⟩ :=
    exec_setup_failed rfl (.of_untouched rfl) ended failed
  have today : Session.today (⟨world, clock, calendar, patience, []⟩ : Session σ) =
    calendar clock := rfl
  rw [today] at up attributed
  obtain ⟨pre, d, trace, decides⟩ := attributed.blamed.decided
  rw [config] at decides
  rcases decides.of_config with ⟨c, rfl⟩ | unplanned | ⟨⟨phase, rfl⟩, at_, now, compute⟩
  · have told : .asked c (.error (.config cause)) ∈ s.deeds := by
      unfold Session.deeds at trace ⊢
      rw [history, List.map_append, trace]
      simp
    cases untold _ told
  · obtain ⟨request, planned⟩ := sized.planPool_ok
      ((Lifecycle.create b st draws born).begun (calendar clock)).targetNamespace
    rw [planned] at unplanned
    cases unplanned
  · obtain ⟨outset, last⟩ := Session.last_of_deeds trace
    have beyond := bringUp_beyond (l := (Lifecycle.create b st draws born).begun (calendar clock))
      (s := Session.begun ⟨world, clock, calendar, patience, []⟩)
      (Session.elsewhere_note (by decide))
    unfold Step.Leads at beyond
    rw [up, span] at beyond
    rw [GenesisSchedule.compute_eq_error compute, span]
    refine ⟨phase, rfl, outset, ?_, beyond outset last⟩
    rw [history]
    exact List.mem_append_left n (List.mem_of_getLast? last)

/-! ### A genesis that never comes -/

/-- A document whose genesis is farther than any calendar goes. -/
def endlessText : String :=
  "namespace: t\nbootstrap:\n  image: node\nclient:\n  image: node\n" ++
    "genesis_delta: 18446744073709551615\ndeployment_ready_time_out: 20\n"

def Blueprint.endless : Blueprint where
  ns := "t"
  bootstrap := { image := "node" }
  client := { image := "node" }
  genesisDelta := 18446744073709551615
  readyTimeout := 20

theorem ofText_endlessText : Blueprint.ofText endlessText = .ok .endless := by decide +kernel

/-- The failure that setup has kept. -/
def keptFailure? : Except Halt (Except PhaseFailure SetupResult × Lifecycle) → Option PhaseFailure
  | .ok (.ok (.failed f), _) => some f
  | _ => none

theorem eq_of_keptFailure? {e : Except Halt (Except PhaseFailure SetupResult × Lifecycle)}
    {f : PhaseFailure} (h : keptFailure? e = some f) : ∃ l, e = .ok (.ok (.failed f), l) := by
  unfold keptFailure? at h
  split at h
  next l =>
    cases h
    exact ⟨l, rfl⟩
  · cases h

/-- In a world that grants everything, setup of the accepted document creates the namespace, the
logging stack and the pool, and then fails of its configuration. -/
theorem exec_setup_endless :
    ∃ f l s, (setup false).exec (.create .endless default (.ofNat 0) ⟨0⟩) Biased.willing.session =
        (.ok (.ok (.failed f), l), s) ∧
      f.fault = .config (.genesisOutOfRange (.ofSeconds 18446744073709551615)) ∧
      (∀ d ∈ s.deeds, d.tellsConfig = false) ∧
      s.calls.countP (· matches .createPool _) = 1 := by
  have outcome : ((keptFailure? ((setup false).exec (.create .endless default (.ofNat 0) ⟨0⟩)
        Biased.willing.session).1).any fun f =>
      f.fault = .config (.genesisOutOfRange (.ofSeconds 18446744073709551615))) = true ∧
      ((setup false).exec (.create .endless default (.ofNat 0) ⟨0⟩)
        Biased.willing.session).2.deeds.all (!·.tellsConfig) = true ∧
      ((setup false).exec (.create .endless default (.ofNat 0) ⟨0⟩)
        Biased.willing.session).2.calls.countP (· matches .createPool _) = 1 := by
    decide +kernel
  rcases ended : (setup false).exec (.create .endless default (.ofNat 0) ⟨0⟩)
    Biased.willing.session with ⟨e, s⟩
  rw [ended] at outcome
  obtain ⟨config, untold, pools⟩ := outcome
  obtain ⟨f, kept, config⟩ := (Option.any_eq_true _ _).1 config
  obtain ⟨l, rfl⟩ := eq_of_keptFailure? kept
  refine ⟨f, l, s, rfl, of_decide_eq_true config, fun d hd => ?_, pools⟩
  have other := List.all_eq_true.1 untold d hd
  rwa [Bool.not_eq_true'] at other

theorem setup_misconfigured_endless :
    ∃ f l s, (setup false).exec (.create .endless default (.ofNat 0) ⟨0⟩) Biased.willing.session =
        (.ok (.ok (.failed f), l), s) ∧
      (∀ d ∈ s.deeds, d.tellsConfig = false) ∧ f.phase = .bootstrapReady ∧
      ∃ outset, .entered .poolScaled outset ∈ s.history ∧
        (⟨0⟩ : Timestamp).after? (.ofSeconds 18446744073709551615) = none := by
  obtain ⟨f, l, s, ended, config, untold, -⟩ := exec_setup_endless
  obtain ⟨phase, -, beyond⟩ := setup_misconfigured ofText_endlessText default (.ofNat 0) ⟨0⟩
    Biased.willing .zero (fun _ => ⟨0⟩) 1 ended rfl config untold
  exact ⟨f, l, s, ended, untold, phase, beyond⟩

/-- An accepted document may make setup fail of its configuration after the pool was created. -/
theorem accepted_setup_fails :
    Blueprint.ofText endlessText = .ok .endless ∧
      ∃ f l s cause,
        (setup false).exec (.create .endless default (.ofNat 0) ⟨0⟩) Biased.willing.session =
          (.ok (.ok (.failed f), l), s) ∧
        f.fault = .config cause ∧ (∀ d ∈ s.deeds, d.tellsConfig = false) ∧
        s.calls.countP (· matches .createPool _) = 1 := by
  obtain ⟨f, l, s, ended, config, untold, pools⟩ := exec_setup_endless
  exact ⟨ofText_endlessText, f, l, s, _, ended, config, untold, pools⟩

end ProvingGround
