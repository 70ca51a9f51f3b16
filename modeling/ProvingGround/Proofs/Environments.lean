import ProvingGround.Proofs.Lifecycle.Handover

/-!
# Environments are complete

An environment that a run hands over tells the truth about the run: its own namespace, all groups as
they were found, the pool as planned, and the date under which the logs of the run are kept.
-/

namespace ProvingGround

/-- By the trace of a run of a blueprint that was begun at an instant, the environment is
complete. -/
structure Complete (b : Blueprint) (st : Settings) (begun : Timestamp) (env : Environment)
    (t : List Deed) : Prop where
  own : ∀ ns, Claimed ns t ↔ ns = env.ns
  network : env.network.ns = env.ns
  names : env.network.groups.map (·.name) =
    "bootstrap" :: "client" :: if b.clientv2.isSome then ["clientv2"] else []
  groups : List.Forall₂ (GroupFound t env.ns) env.network.groups (b.groups.map (·.replicas))
  pool : ∃ r, b.planPool env.ns = .ok r ∧ env.pool.name = r.name ∧ env.pool.nodes = r.nodes
  blueprint : b.Reimaged st.imageOverride env.blueprint
  indexDate : begun.DateDenotes env.indexDate
  /-- Whoever dumps the logs of the run is told the same date. -/
  reported : ∀ queue task x, .asked (.submit queue task) x ∈ t → ∀ d ∈ task.dump,
    d.indexDate = env.indexDate

section Complete

variable {b : Blueprint} {st : Settings} {begun : Timestamp} {env : Environment} {t n : List Deed}

theorem Complete.grow (h : Complete b st begun env t) (later : ∀ d ∈ n, d.Closes env.indexDate) :
    Complete b st begun env (t ++ n) where
  own := by
    intro ns
    rw [← h.own ns]
    constructor
    · intro claimed
      rcases List.mem_append.1 claimed with claimed | claimed
      · exact claimed
      · exact (later _ claimed).elim
    · exact Claimed.grow
  network := h.network
  names := h.names
  groups := by
    apply h.groups.imp
    intro g replicas found
    apply found.of_answers
    rw [answersTo_append, answersTo_of_closes (fun _ => id) later, List.append_nil]
  pool := h.pool
  blueprint := h.blueprint
  indexDate := h.indexDate
  reported := by
    intro queue task x submitted
    rcases List.mem_append.1 submitted with submitted | submitted
    · exact h.reported queue task x submitted
    · exact later _ submitted

/-- What has been brought up is complete, by a trace with just the work on it. -/
theorem BroughtUp.complete {l l' : Lifecycle} (h : BroughtUp (l.begun begun) env l' n)
    (work : workOf t = n) (reached : Reaches l .genesisSynced l' t) :
    Complete l.blueprint l.settings begun env t := by
  obtain ⟨r, pod, k, planned, name, nodes, -, all, rfl⟩ := h.work
  have overridden : (l.begun begun).blueprint =
      l.blueprint.overrideImages l.settings.imageOverride := rfl
  rw [overridden] at planned all
  have names := all.names
  have found := all.found (Placement.nodup_groups _ _ _)
  rw [Placement.names_groups, Blueprint.clientv2_overrideImages] at names
  have specs : ∀ groups : List (NodeSpec × Manifest), groups.map (·.1.replicas) =
      (groups.map Prod.fst).map (·.replicas) := by
    intro groups
    rw [List.map_map]
    rfl
  rw [specs, Placement.map_fst_groups, Blueprint.replicas_overrideImages] at found
  constructor
  · intro ns
    rw [← reached.standing.owned ns, h.own, Option.some.injEq]
    exact eq_comm
  · exact h.network
  · exact names
  · apply found.imp
    intro g replicas found
    apply found.of_answers
    rw [← answersTo_filter (p := Deed.isWork) (fun _ => rfl) t]
    show answersTo _ (workOf t) = _
    rw [work, ← List.singleton_append, answersTo_append]
    rfl
  · rw [Blueprint.planPool_overrideImages] at planned
    exact ⟨r, planned, name, nodes⟩
  · rw [h.blueprint]
    exact l.blueprint.reimaged_overrideImages _
  · rw [h.indexDate.1]
    exact begun.dateDenotes_indexDate
  · intro queue task x submitted
    have unreported : t.countP Deed.isSubmit = 0 := by
      rw [reached.standing.submits, reached.phase]
      rfl
    exact absurd rfl (List.countP_eq_zero.1 unreported _ submitted)

theorem complete_lasting (l : Lifecycle) (begun : Timestamp) :
    Lasting l begun (Complete l.blueprint l.settings begun) :=
  ⟨BroughtUp.complete, Complete.grow⟩

end Complete

/-- Whatever is asked of a run, in whatever order and in whatever world, each environment that is
handed over is complete. -/
theorem handed_over_complete {σ : Type} [Services σ] (b : Blueprint) (st : Settings)
    (draws : SuffixDraws) (born : Timestamp) (world : σ) (clock : Duration)
    (calendar : Duration → Timestamp) (patience : Nat) (requests : List Request)
    {env : Environment} {ended : Except Halt (List Response × Lifecycle) × Session σ}
    (run : (performAll requests).exec (.create b st draws born)
      ⟨world, clock, calendar, patience, []⟩ = ended)
    (given : env ∈ handedOver (responsesOf ended.1) ended.2.deeds) :
    Complete b st (calendar clock) env ended.2.deeds :=
  (complete_lasting (.create b st draws born) (calendar clock)).handed run given

/-- Where every call is granted, setup hands over an environment, which stays complete when the run
is torn down as failed. Its blueprint has the image that was asked for where the nodes take it. -/
theorem handed_over_complete_of_willing :
    let st := { (default : Settings) with imageOverride := "new", debug := false }
    let calendar (_ : Duration) : Timestamp := ⟨1709164799500000000⟩
    let ended := (performAll [.setup false, .teardown false]).exec
      (.create .mixed st (.ofNat 0) ⟨0⟩) ⟨Biased.willing, .zero, calendar, 1, []⟩
    ∃ env ∈ handedOver (responsesOf ended.1) ended.2.deeds,
      env.network.bootstrap.pods = [⟨"pod", "10.0.0.1", true⟩] ∧
      env.blueprint.groups.map (·.image) = ["new", "new", "old"] ∧
      env.indexDate = "2024.02.28" ∧
      Complete .mixed st (calendar .zero) env ended.2.deeds := by
  intro st calendar ended
  have some_ : (handedOver (responsesOf ended.1) ended.2.deeds).any (fun env =>
      env.network.bootstrap.pods == [⟨"pod", "10.0.0.1", true⟩] &&
      env.blueprint.groups.map (·.image) == ["new", "new", "old"] &&
      env.indexDate == "2024.02.28") = true := by
    decide +kernel
  obtain ⟨env, given, facts⟩ := List.any_eq_true.1 some_
  simp only [Bool.and_eq_true, beq_iff_eq] at facts
  obtain ⟨⟨pods, images⟩, date⟩ := facts
  exact ⟨env, given, pods, images, date,
    handed_over_complete .mixed _ (.ofNat 0) ⟨0⟩ Biased.willing .zero calendar 1 _ rfl given⟩

end ProvingGround
