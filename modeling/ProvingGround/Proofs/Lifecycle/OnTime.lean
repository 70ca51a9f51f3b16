import ProvingGround.Proofs.Instants
import ProvingGround.Proofs.Lifecycle.Genesis

/-!
# What is on time

The phase of the bootstrap group starts when the pool is scaled, and genesis is counted from there.
Every event of setup and of a run of a suite agrees with it: what nodes are told, when genesis has
been waited for, and when scenarios begin.
-/

namespace ProvingGround

/-! ### What is due when -/

namespace Blueprint

/-- The clock at genesis, when the bootstrap phase starts at `outset`. -/
def due (b : Blueprint) (outset : Duration) : Duration :=
  ⟨outset.nanos + b.genesisDelta * 1000000000⟩

/-- The instant of genesis, when the bootstrap phase starts at `outset`. -/
def genesis (b : Blueprint) (calendar : Duration → Timestamp) (outset : Duration) : Timestamp :=
  ⟨(calendar outset).nanos + b.genesisDelta * 1000000000⟩

theorem due_overrideImages (b : Blueprint) (image : String) :
    (b.overrideImages image).due = b.due := by
  funext outset
  simp only [due, b.genesisDelta_overrideImages]

theorem genesis_overrideImages (b : Blueprint) (image : String) :
    (b.overrideImages image).genesis = b.genesis := by
  funext calendar outset
  simp only [genesis, b.genesisDelta_overrideImages]

end Blueprint

/-- The timer for genesis, which is set when the last group is found ready before, is exact. -/
def Punctual (due : Duration) (h : List Event) : Prop :=
  ∀ ready, .entered .clientsReady ready ∈ h → ready.nanos < due.nanos →
    Timer.Exact ready (due.remaining ready)

/-- The calendar goes as the clock does. -/
def Steady (calendar : Duration → Timestamp) : Prop :=
  ∀ c d : Duration, (calendar ⟨c.nanos + d.nanos⟩).nanos = (calendar c).nanos + d.nanos

/-- In a history whose bootstrap phase starts at `outset`, an event agrees with genesis. -/
def Event.OnTime (b : Blueprint) (calendar : Duration → Timestamp) (outset : Duration)
    (h : List Event) : Event → Prop
  | exchanged x => ∀ ns m, x.call = .create ns m → m.IsGroup →
    .entered .poolScaled outset ∈ h ∧ outset.nanos ≤ x.start.nanos ∧
      ∃ text, m.genesisArg? = some ("--genesis-time=" ++ text) ∧
        (b.genesis calendar outset).Denotes text
  | probed _ => True
  | entered .poolScaled clock => clock = outset
  | entered .genesisSynced clock => .entered .poolScaled outset ∈ h ∧
    ∃ e ready, e.Finds b.lastGroup ready ∧
    [e, .entered .clientsReady ready, .entered .genesisSynced clock] <:+: h ∧
    (Punctual (b.due outset) h → clock.nanos = max (b.due outset).nanos ready.nanos)
  | entered _ _ => True
  | began _ env clock => .entered .poolScaled outset ∈ h ∧
    env.genesis = b.genesis calendar outset ∧
    (Punctual (b.due outset) h → (b.due outset).nanos ≤ clock.nanos ∧
      (Steady calendar → (b.genesis calendar outset).nanos ≤ (calendar clock).nanos))

/-- All events of a history agree with genesis. -/
def Synchronised (b : Blueprint) (calendar : Duration → Timestamp) (outset : Duration)
    (h : List Event) : Prop :=
  ∀ e ∈ h, e.OnTime b calendar outset h

theorem Steady.genesis_le {b : Blueprint} {calendar : Duration → Timestamp}
    {outset clock : Duration} (steady : Steady calendar)
    (due : (b.due outset).nanos ≤ clock.nanos) :
    (b.genesis calendar outset).nanos ≤ (calendar clock).nanos := by
  simp only [Blueprint.due] at due
  have apart : clock = ⟨outset.nanos + (clock.remaining outset).nanos⟩ := by
    simp only [Duration.remaining]
    rw [Nat.add_sub_cancel' (by omega)]
  rw [apart, steady]
  simp only [Blueprint.genesis, Duration.remaining]
  omega

section Events

variable {b : Blueprint} {calendar : Duration → Timestamp} {outset : Duration} {h n : List Event}
  {e : Event}

theorem Punctual.before {due : Duration} (punctual : Punctual due (h ++ n)) : Punctual due h :=
  fun ready hm => punctual ready (List.mem_append_left n hm)

theorem Event.OnTime.grow (onTime : e.OnTime b calendar outset h) :
    e.OnTime b calendar outset (h ++ n) := by
  cases e with
  | exchanged x =>
    intro ns m create group
    obtain ⟨scaled, after, told⟩ := onTime ns m create group
    exact ⟨List.mem_append_left n scaled, after, told⟩
  | probed x => trivial
  | entered p clock =>
    cases p with
    | genesisSynced =>
      obtain ⟨scaled, found, ready, finds, infix_, synced⟩ := onTime
      exact ⟨List.mem_append_left n scaled, found, ready, finds,
        infix_.trans (List.prefix_append h n).isInfix, fun punctual => synced punctual.before⟩
    | _ => exact onTime
  | began scenario env clock =>
    obtain ⟨scaled, told, due⟩ := onTime
    exact ⟨List.mem_append_left n scaled, told, fun punctual => due punctual.before⟩

theorem Event.Heeds.onTime {genesis : Option Timestamp} (heeds : e.Heeds genesis)
    (known : ∀ g ∈ genesis, g = b.genesis calendar outset ∧ .entered .poolScaled outset ∈ h ∧
      outset.nanos ≤ e.clock.nanos) : e.OnTime b calendar outset h := by
  cases e with
  | exchanged x =>
    intro ns m create group
    obtain ⟨g, hg, told⟩ := heeds ns m create group
    obtain ⟨rfl, scaled, after⟩ := known g hg
    exact ⟨scaled, after, _, told, Timestamp.denotes_text _⟩
  | probed x => trivial
  | entered p clock =>
    obtain ⟨unscaled, unsynced⟩ := heeds
    cases p with
    | poolScaled => exact absurd rfl unscaled
    | genesisSynced => exact absurd rfl unsynced
    | _ => trivial
  | began => exact heeds.elim

theorem Event.Heeds.early (heeds : e.Heeds none) : e.OnTime b calendar outset h := by
  apply heeds.onTime
  intro g hg
  cases hg

namespace Synchronised

theorem append (sync : Synchronised b calendar outset h)
    (next : ∀ e ∈ n, e.OnTime b calendar outset (h ++ n)) :
    Synchronised b calendar outset (h ++ n) := by
  intro e he
  rcases List.mem_append.1 he with he | he
  · exact (sync e he).grow
  · exact next e he

theorem overrideImages {image : String}
    (sync : Synchronised (b.overrideImages image) calendar outset h) :
    Synchronised b calendar outset h := by
  intro e he
  have onTime := sync e he
  unfold Event.OnTime at onTime ⊢
  rw [b.lastGroup_overrideImages, b.due_overrideImages, b.genesis_overrideImages] at onTime
  exact onTime

end Synchronised

end Events

/-! ### Sessions -/

section Sessions

variable {σ : Type} {b : Blueprint} {calendar : Duration → Timestamp} {outset : Duration}
  {s s' : Session σ} {env : Environment}

/-- The bootstrap phase has started, and everything agrees with genesis. -/
structure Told (b : Blueprint) (calendar : Duration → Timestamp) (outset : Duration)
    (s : Session σ) : Prop where
  calendar_eq : s.calendar = calendar
  after : outset.nanos ≤ s.clock.nanos
  scaled : .entered .poolScaled outset ∈ s.history
  synchronised : Synchronised b calendar outset s.history

/-- The network has been brought up. -/
structure NetworkReady (b : Blueprint) (calendar : Duration → Timestamp) (outset : Duration)
    (env : Environment) (s : Session σ) : Prop extends Told b calendar outset s where
  genesis : env.genesis = b.genesis calendar outset
  synced : .entered .genesisSynced s.clock ∈ s.history

theorem Synchronised.idle (sync : Synchronised b calendar outset s.history)
    (later : s.Later (Event.Heeds none) s') : Synchronised b calendar outset s'.history := by
  obtain ⟨n, hn, heeds⟩ := later.events
  rw [hn]
  exact sync.append fun e he => (heeds e he).1.early

theorem Synchronised.scale (sync : Synchronised b calendar s.clock s.history)
    (hc : s.calendar = calendar) :
    Told b calendar s.clock (s.note (.entered .poolScaled s.clock)) := by
  have history := s.history_note (.entered .poolScaled s.clock)
  refine ⟨hc, Nat.le_refl _, ?_, ?_⟩
  · rw [history]
    exact List.mem_append_right _ List.mem_cons_self
  · rw [history]
    apply sync.append
    intro e he
    rw [List.mem_singleton.1 he]
    rfl

namespace Told

theorem later (told : Told b calendar outset s)
    (later : s.Later (Event.Heeds (some (b.genesis calendar outset))) s') :
    Told b calendar outset s' := by
  obtain ⟨n, hn, heeds⟩ := later.events
  have scaled : .entered .poolScaled outset ∈ s.history ++ n := List.mem_append_left n told.scaled
  refine ⟨later.calendar.trans told.calendar_eq, Nat.le_trans told.after later.clock, ?_, ?_⟩
  · rw [hn]
    exact scaled
  · rw [hn]
    apply told.synchronised.append
    intro e he
    obtain ⟨heeded, now⟩ := heeds e he
    apply heeded.onTime
    rintro g ⟨⟩
    exact ⟨rfl, scaled, Nat.le_trans told.after now⟩

/-- Genesis is waited for from the moment at which the last group is found ready. -/
theorem awaited {schedule : GenesisSchedule} {g : Timestamp} {found later : Session σ}
    (told : Told b calendar outset s) (groups : GroupsReady b g s found)
    (awaited : GenesisAwaited schedule found later) (hg : g = b.genesis calendar outset)
    (planned : schedule = ⟨b.genesisSpan, outset, g⟩) :
    Told b calendar outset later ∧ .entered .genesisSynced later.clock ∈ later.history := by
  rw [hg] at groups
  have before := told.later groups.told
  obtain ⟨pre, e, history, finds⟩ := groups.found
  have after : outset.nanos ≤ later.clock.nanos := by
    rw [awaited.clock]
    exact Nat.le_trans before.after (schedule.le_wakes _)
  have ready : .entered .clientsReady found.clock ∈ later.history := by
    rw [awaited.history, history]
    simp
  have scaled : .entered .poolScaled outset ∈ later.history := by
    rw [awaited.history]
    exact List.mem_append_left _ before.scaled
  have entered : (Event.entered .genesisSynced later.clock).OnTime b calendar outset
      later.history := by
    refine ⟨scaled, e, found.clock, finds, ?_, ?_⟩
    · rw [awaited.history, history, List.append_assoc]
      exact (List.suffix_append pre _).isInfix
    · intro punctual
      have exact := punctual _ ready
      rw [awaited.clock]
      subst planned
      exact GenesisSchedule.wakes_of_exact before.after exact
  refine ⟨⟨awaited.calendar.trans before.calendar_eq, after, scaled, ?_⟩, ?_⟩
  · rw [awaited.history] at entered ⊢
    apply before.synchronised.append
    intro d hd
    rw [List.mem_singleton.1 hd]
    exact entered
  · rw [awaited.history]
    exact List.mem_append_right _ List.mem_cons_self

end Told

namespace NetworkReady

theorem overrideImages {image : String}
    (ready : NetworkReady (b.overrideImages image) calendar outset env s) :
    NetworkReady b calendar outset env s where
  calendar_eq := ready.calendar_eq
  after := ready.after
  scaled := ready.scaled
  synchronised := ready.synchronised.overrideImages
  genesis := by rw [ready.genesis, b.genesis_overrideImages]
  synced := ready.synced

/-- Scenarios begin when genesis has been waited for. -/
theorem follow (ready : NetworkReady b calendar outset env s)
    (later : s.Later (Event.Follows env) s') : Synchronised b calendar outset s'.history := by
  obtain ⟨n, hn, follows⟩ := later.events
  rw [hn]
  apply ready.synchronised.append
  intro e he
  obtain ⟨heeds | ⟨scenario, clock, rfl⟩, now⟩ := follows e he
  · exact heeds.early
  · refine ⟨List.mem_append_left n ready.scaled, ready.genesis, fun punctual => ?_⟩
    obtain ⟨-, -, found, -, -, synced⟩ := ready.synchronised _ ready.synced
    have due : (b.due outset).nanos ≤ clock.nanos := by
      have waited := synced punctual.before
      have now : s.clock.nanos ≤ clock.nanos := now
      omega
    exact ⟨due, fun steady => steady.genesis_le due⟩

end NetworkReady

end Sessions

/-! ### Setup -/

section Setup

variable {σ : Type} [Services σ] {l : Lifecycle} {s : Session σ}

/-- Groups are deployed from the moment at which the pool is scaled. -/
theorem deployGroups_leads {ns : String} {pool : ScaledPool}
    (told : Told l.blueprint s.calendar s.clock s) :
    (do
      let (plan, bootstrap) ← setupBootstrap ns pool
      let network ← setupClients plan bootstrap
      setupGenesis plan.schedule
      let l ← Step.record
      pure ⟨ns, l.blueprint, network, pool, plan.schedule.genesis, l.indexDate⟩ :
        Step σ Environment).Leads l s
      (fun env _ later => NetworkReady l.blueprint s.calendar s.clock env later)
      fun later => Synchronised l.blueprint s.calendar s.clock later.history := by
  have fallen : ∀ later, s.Later
      (Event.Heeds (some (l.blueprint.genesis s.calendar s.clock))) later →
      Synchronised l.blueprint s.calendar s.clock later.history :=
    fun later h => (told.later h).synchronised
  apply (setupBootstrap_leads ns pool rfl).bind fallen
  rintro ⟨plan, bootstrap⟩ l₁ s₁ ⟨on₁, later₁, planned⟩
  have planned : plan.schedule = _ := planned
  have genesis : plan.schedule.genesis = l.blueprint.genesis s.calendar s.clock := by
    rw [planned]
    rfl
  apply (setupClients_leads bootstrap genesis).bind fun later h => fallen later (later₁.trans h)
  rintro network l₂ s₂ ⟨-, groups⟩
  rw [on₁.blueprint] at groups
  apply (setupGenesis_leads plan.schedule).bind
    fun later h => fallen later ((later₁.trans groups.told).trans h)
  rintro _ l₃ s₃ awaited
  obtain ⟨told, synced⟩ := (told.later later₁).awaited groups awaited rfl planned
  apply Step.leads_record_bind
  exact Step.leads_pure ⟨told, genesis, synced⟩

theorem bringUp_leads
    (early : ∀ outset, Synchronised l.blueprint s.calendar outset s.history) :
    (bringUp : Step σ Environment).Leads l s
      (fun env _ later => ∃ outset, NetworkReady l.blueprint s.calendar outset env later)
      fun later => ∃ outset, Synchronised l.blueprint s.calendar outset later.history := by
  have idle : ∀ later, s.Later (Event.Heeds none) later →
      ∃ outset, Synchronised l.blueprint s.calendar outset later.history :=
    fun later h => ⟨.zero, (early .zero).idle h⟩
  apply setupNamespace_heeds.leads.bind idle
  rintro ns l₁ s₁ ⟨later₁, on₁⟩
  apply (setupLogging_heeds ns).leads.bind fun later h => idle later (later₁.trans h)
  rintro _ l₂ s₂ ⟨later₂, on₂⟩
  have later₂ := later₁.trans later₂
  apply (setupPool_leads ns).bind fun later h => idle later (later₂.trans h)
  rintro pool l₃ s₃ ⟨on₃, before, later₃, rfl⟩
  have later₃ := later₂.trans later₃
  have same : l₃.blueprint = l.blueprint := ((on₁.trans on₂).trans on₃).blueprint
  have told : Told l.blueprint s.calendar before.clock
      (before.note (.entered .poolScaled before.clock)) :=
    ((early before.clock).idle later₃).scale later₃.calendar
  rw [← same, ← later₃.calendar] at told ⊢
  exact (deployGroups_leads told).mono (fun _ _ _ h => ⟨before.clock, h⟩)
    fun _ h => ⟨before.clock, h⟩

/-- How setup ends: with a network that is ready, or without one. -/
def SetupSynchronised (b : Blueprint) (calendar : Duration → Timestamp) :
    SetupResult → Session σ → Prop
  | .ready env, later => ∃ outset, NetworkReady b calendar outset env later
  | _, later => ∃ outset, Synchronised b calendar outset later.history

omit [Services σ] in
theorem synchronised_of_fresh {b : Blueprint} {calendar : Duration → Timestamp}
    {outset : Duration} {p : Phase} (fresh : s.history = [])
    (entered : (Event.entered p s.clock).Heeds none) :
    Synchronised b calendar outset (s.note (.entered p s.clock)).history := by
  have blank : Synchronised b calendar outset s.history := by
    rw [fresh]
    intro e he
    cases he
  exact blank.idle (.note entered (Nat.le_refl _))

theorem setup_leads (skip : Bool) (start : l.phase = .notStarted) (fresh : s.history = []) :
    (setup skip : Step σ SetupResult).Leads l s
      (fun r _ later => SetupSynchronised l.blueprint s.calendar r later)
      fun later => ∃ outset, Synchronised l.blueprint s.calendar outset later.history := by
  cases skip with
  | true =>
    unfold Step.Leads
    rw [exec_setup_skip start]
    exact ⟨.zero, synchronised_of_fresh fresh ⟨Phase.noConfusion, Phase.noConfusion⟩⟩
  | false =>
    have up := bringUp_leads (l := l.begun s.today) (s := s.begun) fun outset =>
      synchronised_of_fresh fresh ⟨Phase.noConfusion, Phase.noConfusion⟩
    unfold Step.Leads at up ⊢
    rw [exec_setup_begun start]
    rcases ended : bringUp.exec (l.begun s.today) s.begun with ⟨halt | ⟨f | env, l'⟩, later⟩ <;>
      rw [ended] at up
    · obtain ⟨outset, sync⟩ := up
      exact ⟨outset, sync.overrideImages⟩
    · obtain ⟨outset, sync⟩ := up
      have settled : ∀ last, later.Later (Event.Heeds none) last →
          ∃ outset, Synchronised l.blueprint s.calendar outset last.history :=
        fun last h => ⟨outset, sync.overrideImages.idle h⟩
      apply (settleFailure_leads f l' later).mono _ settled
      rintro _ _ last ⟨rfl, h⟩
      exact settled last h
    · obtain ⟨outset, ready⟩ := up
      exact ⟨outset, ready.overrideImages⟩

omit [Services σ] in
theorem SetupSynchronised.exists {b : Blueprint} {calendar : Duration → Timestamp}
    {r : SetupResult} (h : SetupSynchronised b calendar r s) :
    ∃ outset, Synchronised b calendar outset s.history := by
  cases r with
  | ready env =>
    obtain ⟨outset, ready⟩ := h
    exact ⟨outset, ready.synchronised⟩
  | skipped => exact h
  | failed f => exact h

theorem runSuite_leads (suite : Suite) (start : l.phase = .notStarted) (fresh : s.history = []) :
    (runSuite suite : Step σ Report).Leads l s
      (fun _ _ later => ∃ outset, Synchronised l.blueprint s.calendar outset later.history)
      fun later => ∃ outset, Synchronised l.blueprint s.calendar outset later.history := by
  unfold runSuite
  split
  · apply (setup_leads true start fresh).bind fun _ h => h
    intro r l' later settled
    exact Step.leads_pure settled.exists
  · apply (setup_leads false start fresh).bind fun _ h => h
    intro r l' later settled
    cases r with
    | ready env =>
      obtain ⟨outset, ready⟩ := settled
      apply (runScenarios_follows suite env).leads.bind fun later h => ⟨outset, ready.follow h⟩
      rintro report l₂ s₂ ⟨follows, -⟩
      have sync := ready.follow follows
      exact (concludeRun_heeds report).leads.mono (fun _ _ _ h => ⟨outset, sync.idle h.1⟩)
        fun _ h => ⟨outset, sync.idle h⟩
    | skipped => exact Step.leads_pure settled
    | failed failure =>
      obtain ⟨outset, sync⟩ := settled
      apply Step.leads_record_bind
      exact (concludeRun_heeds _).leads.mono (fun _ _ _ h => ⟨outset, sync.idle h.1⟩)
        fun _ h => ⟨outset, sync.idle h⟩

end Setup

end ProvingGround
