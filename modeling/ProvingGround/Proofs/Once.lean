import Mathlib.Data.List.Nodup
import ProvingGround.Proofs.Lifecycle.Requests
import ProvingGround.Proofs.Setup.Stages

/-!
# What a run does once

A run repeats readings alone. Whatever it creates, starts or hands over it asks for once, however the
answer turns out, and after the first refusal it only hands over what it leaves behind.
-/

namespace ProvingGround

variable {σ : Type} {l : Lifecycle} {t n : List Deed}

/-! ### Tidy runs -/

/-- What the run has called once is in order for where it stands, and nothing has been refused to a
run that is about its scenarios. -/
structure Tidy (l : Lifecycle) (t : List Deed) : Prop where
  order : (oneShots t).Sublist (if l.phase = .done then OneShot.closed else OneShot.deployed)
  unhindered : l.phase = .genesisSynced ∨ l.phase = .running → ¬ Hindered t

namespace Tidy

theorem of_order (order : (oneShots t).Sublist OneShot.deployed) (open_ : l.phase ≠ .done)
    (unsynced : l.phase ≠ .genesisSynced) (idle : l.phase ≠ .running) : Tidy l t where
  order := by rwa [if_neg open_]
  unhindered := by
    intro busy
    rcases busy with synced | running
    · exact absurd synced unsynced
    · exact absurd running idle

theorem of_unfinished (order : (oneShots t).Sublist OneShot.deployed)
    (unfinished : l.phase.isUnfinished = true) : Tidy l t := by
  apply of_order order <;> intro h <;> rw [h] at unfinished <;> cases unfinished

theorem of_clear {E : List OneShot} (h : Clear E t) (within : E.Sublist OneShot.deployed)
    (open_ : l.phase ≠ .done) : Tidy l t where
  order := by
    rw [if_neg open_]
    exact h.order.trans within
  unhindered := fun _ => h.unhindered

theorem create (b : Blueprint) (st : Settings) (draws : SuffixDraws) (now : Timestamp) :
    Tidy (.create b st draws now) [] :=
  .of_clear (E := []) (.of_untouched rfl) (List.nil_sublist _) (by simp [Lifecycle.create])

theorem deployed (h : Tidy l t) (open_ : l.phase ≠ .done) :
    (oneShots t).Sublist OneShot.deployed := by
  have order := h.order
  rwa [if_neg open_] at order

end Tidy

theorem oneShots_of_aside (aside : Among Deed.isAside n) : ∀ d ∈ n, d.oneShot? = none := by
  intro d hd
  have ha := aside d hd
  cases d with
  | asked => cases ha
  | probed | entered | began => rfl

theorem Among.sparing (aside : Among Deed.isAside n) (clear : Clear OneShot.deployed t) :
    Lawful SparingLaw t n := by
  induction n generalizing t with
  | nil => trivial
  | cons d n ih =>
    have first := oneShots_of_aside aside d List.mem_cons_self
    have rest : Among Deed.isAside n := fun e he => aside e (List.mem_cons_of_mem d he)
    have lawful : SparingLaw t d := by
      have ha := aside d List.mem_cons_self
      cases d with
      | probed => exact clear.unhindered
      | began => trivial
      | asked | entered => cases ha
    refine ⟨lawful, ih rest (clear.append ?_)⟩
    intro e he
    rw [List.mem_singleton.1 he]
    exact first

/-! ### Setup -/

section Runs

variable [Services σ]

theorem setup_tidy (skip : Bool) (h : Standing l t) (tidy : Tidy l t) :
    (setup skip : Step σ SetupResult).Obeys SparingLaw t l (fun _ => Tidy) fun _ => Tidy := by
  by_cases start : l.phase = .notStarted
  · have clear : Clear [] t := .of_untouched (h.untouched (.inl start))
    have enter : ∀ p, Clear [] (t ++ [.entered p]) := by
      intro p
      apply clear.append
      simp [Deed.oneShot?]
    cases skip with
    | true =>
      have skipped : Tidy (l.enter .skipped) (t ++ [.entered .skipped]) :=
        .of_clear (enter _) (List.nil_sublist _) (by simp [Lifecycle.enter])
      exact setup_skip_obeys start trivial skipped
    | false =>
      apply setup_begun_obeys start trivial
      intro now
      have up : (Step.lift (ExceptT.run bringUp) : Step σ _).Obeys SparingLaw
          (t ++ [.entered .provisioning]) (l.begun now)
          (Step.Ends
            (fun _ l' later => Stage (l.begun now) (t ++ [.entered .provisioning]) .genesisSynced
              l' later ∧ Clear OneShot.deployed later)
            (Attributed (l.begun now) (t ++ [.entered .provisioning])))
          fun _ => Tidy :=
        Step.obeys_lift (bringUp_stage (.refl _ _ rfl) (enter .provisioning))
      apply up.seq
      intro r l' n ends
      cases r with
      | ok env =>
        obtain ⟨stage, clear⟩ := ends
        have open_ : l'.phase ≠ .done := by
          rw [stage.phase]
          decide
        exact Step.obeys_pure (Tidy.of_clear clear (List.Sublist.refl _) open_)
      | error f =>
        have attributed : Attributed (l.begun now) (t ++ [.entered .provisioning]) f l' _ := ends
        have unfinished := attributed.unfinished
        have order := attributed.blamed.order
        apply settleFailure_obeys unfinished trivial
        · intro _
          exact .of_unfinished order unfinished
        · intro _
          have none : oneShots [.entered .reporting] = [] := rfl
          have entered : (oneShots (t ++ [.entered .provisioning] ++ n ++
              [.entered .reporting])).Sublist OneShot.deployed := by
            rw [oneShots_append, none, List.append_nil]
            exact order
          exact .of_order entered (by simp [Lifecycle.enter]) (by simp [Lifecycle.enter])
            (by simp [Lifecycle.enter])
  · apply Step.obeys_of_refused (exec_setup_of_started skip start)
    intro _
    exact tidy

theorem tidyUpkeep : Upkeep σ SparingLaw Tidy where
  entered := fun _ _ => trivial
  setup := fun skip _ _ => setup_tidy skip
  enter := by
    intro l t tr e tidy onwards edge
    have edges : ∀ e ∈ Transition.table, e.trigger ∈ [Trigger.scenariosStarted, .scenariosFinished] →
        e.source ≠ .done ∧ (e.target = .running ∧ e.source = .genesisSynced ∨
          e.target = .reporting) := by
      decide
    obtain ⟨mem, source, trigger⟩ := Transition.find?_eq_some edge
    rw [← trigger] at onwards
    obtain ⟨open_, target⟩ := edges e mem onwards
    have order := tidy.deployed (by rw [← source]; exact open_)
    have idle : ∀ d ∈ [Deed.entered e.target], d.oneShot? = none := by simp [Deed.oneShot?]
    have entered : (oneShots (t ++ [.entered e.target])).Sublist OneShot.deployed := by
      rw [oneShots_append, oneShots_eq_nil idle, List.append_nil]
      exact order
    rcases target with ⟨running, synced⟩ | reporting
    · have clear : Clear OneShot.deployed t := ⟨order, tidy.unhindered (.inl (source ▸ synced))⟩
      have still : (l.enter e.target).phase ≠ .done := by simp [Lifecycle.enter, running]
      exact .of_clear (clear.append idle) (List.Sublist.refl _) still
    · exact .of_order entered (by simp [Lifecycle.enter, reporting])
        (by simp [Lifecycle.enter, reporting]) (by simp [Lifecycle.enter, reporting])
  aside := by
    intro l t n tidy running aside
    have open_ : l.phase ≠ .done := by simp [running]
    have clear : Clear OneShot.deployed t := ⟨tidy.deployed open_, tidy.unhindered (.inr running)⟩
    have still := clear.append (oneShots_of_aside aside)
    exact ⟨aside.sparing clear, .of_clear still (List.Sublist.refl _) open_⟩
  address := by
    intro l t x _ tidy reporting
    have order := tidy.deployed (by simp [reporting])
    apply MayAsk.of_closing rfl rfl
    intro hm
    exact absurd (order.subset hm) (by decide)
  submit := by
    intro l t success x y _ tidy reporting
    have order := tidy.deployed (by simp [reporting])
    have asked : oneShots [.asked (.serviceAddress l.ownName indexerName) x] = [.address] := rfl
    apply MayAsk.of_closing rfl rfl
    rw [oneShots_append, asked]
    intro hm
    exact absurd ((order.append (List.Sublist.refl _)).subset hm) (by decide)
  close := by
    intro l t success x y tidy reporting
    have order := tidy.deployed (by simp [reporting])
    have closing : oneShots (l.closing success x y) = [.address, .handover] := rfl
    have done : ({ l with reported := true }.enter .done).phase = .done := rfl
    constructor
    · rw [if_pos done, oneShots_append, closing]
      exact order.append (List.Sublist.refl _)
    · intro busy
      rcases busy with synced | running
      · cases synced
      · cases running

end Runs

/-! ### Frugal runs -/

/-- The call creates or starts something. -/
def Call.creates : Call → Bool
  | createNamespace _ => true
  | create .. => true
  | createPool _ => true
  | startTiming .. => true
  | _ => false

/-- How often the run has made a call of a kind. -/
def asks (t : List Deed) (o : OneShot) : Nat :=
  t.countP fun
    | .asked c _ => c.oneShot? = some o
    | _ => false

/-- No call but a reading is made twice, whatever is answered: no namespace, pool or object of a kind
and name is created again, no timing service started and no task handed over again. After a refusal
to create or start something nothing is called any more but what closes the run. -/
structure Frugal (t : List Deed) : Prop where
  once : ∀ o, asks t o ≤ 1
  closes : ∀ pre c f post, t = pre ++ .asked c (.error f) :: post → c.creates = true →
    ∀ d ∈ post, ∀ c', d.call? = some c' →
      (∃ ns service, c' = .serviceAddress ns service) ∨ ∃ queue task, c' = .submit queue task

theorem asks_eq_count (t : List Deed) (o : OneShot) : asks t o = (oneShots t).count o := by
  rw [List.count, oneShots, List.countP_filterMap, asks]
  congr 1
  funext d
  cases d with
  | asked c x => cases h : c.oneShot? <;> simp [Deed.oneShot?, h, Bool.beq_eq_decide_eq]
  | probed | entered | began => rfl

theorem frugal_of_lawful (h : Lawful SparingLaw [] t) : Frugal t := by
  constructor
  · intro o
    rw [asks_eq_count]
    exact List.nodup_iff_count_le_one.1 (h.nodup_oneShots List.nodup_nil) o
  · intro pre c f post ht creates d hd c' hc
    have refused : Hindered (pre ++ [.asked c (.error f)]) := by
      refine ⟨_, List.mem_append_right pre List.mem_cons_self, ?_⟩
      cases c <;> first | rfl | cases creates
    rw [ht, List.append_cons] at h
    have after : Lawful SparingLaw (pre ++ [.asked c (.error f)]) post := h.after
    have closing := after.closing_of_hindered refused hd hc
    cases c' with
    | serviceAddress ns service => exact .inl ⟨ns, service, rfl⟩
    | submit queue task => exact .inr ⟨queue, task, rfl⟩
    | _ => cases closing

/-- Whatever is asked of a run, in whatever order and in whatever world, it is frugal. -/
theorem requests_frugal [Services σ] (b : Blueprint) (st : Settings) (draws : SuffixDraws)
    (born : Timestamp) (world : σ) (clock : Duration) (calendar : Duration → Timestamp)
    (patience : Nat) (requests : List Request) :
    Frugal ((performAll requests).exec (.create b st draws born)
      ⟨world, clock, calendar, patience, []⟩).2.deeds := by
  obtain ⟨n, hn, lawful, -⟩ := tidyUpkeep.performAll_obeys (σ := σ) requests
    (Standing.create b st draws born) (.create b st draws born) ⟨world, clock, calendar, patience, []⟩
  have trace : ((performAll requests).exec (.create b st draws born)
      ⟨world, clock, calendar, patience, []⟩).2.deeds = n := hn
  rw [trace]
  exact frugal_of_lawful lawful

end ProvingGround
