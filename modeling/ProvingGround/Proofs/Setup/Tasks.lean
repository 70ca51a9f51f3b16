import ProvingGround.Proofs.Setup.Law

/-!
# The tasks of setup obey its law

Each task of setup is lawful once the ones before it have done their part, and leaves behind what
the next one needs.
-/

namespace ProvingGround

open Text

variable {σ : Type} [Services σ] {b : Blueprint} {store : StoreSettings} {t : List Deed}

/-! ### The namespace -/

theorem claimNamespace_obeys (ns : String)
    (fresh : ∀ other x, .asked (.createNamespace other) x ∉ t) :
    (claimNamespace ns : Task σ Unit).attempt.Obeys (SetupLaw b store) t fun r later =>
      ∀ m, Claimed m later ↔ r = .ok () ∧ m = ns := by
  have hn : ∀ x m, ¬ Claimed m (t ++ [.asked .listNamespaces x]) := by
    intro x m hm
    rcases List.mem_append.1 hm with hm | hm
    · exact fresh m _ hm
    · cases List.mem_singleton.1 hm
  show Task.Traces _ _
  apply Task.traces_call_bind
  · intro names
    split
    · apply Task.traces_throw
      refine ⟨.single trivial, fun r hr m => ⟨fun hm => absurd hm (hn _ m), ?_⟩⟩
      intro given
      obtain ⟨rfl, -⟩ := given
      cases hr
    next free =>
      apply Task.traces_call
      intro x
      have hns : ns ∉ names := fun h => free (List.contains_iff_mem.2 h)
      have once : ∀ other y, .asked (.createNamespace other) y ∉
          t ++ [.asked .listNamespaces (.ok names)] := by
        intro other y hy
        rcases List.mem_append.1 hy with hy | hy
        · exact fresh other y hy
        · cases List.mem_singleton.1 hy
      have listed : .asked .listNamespaces (.ok names) ∈
          t ++ [.asked .listNamespaces (.ok names)] :=
        List.mem_append_right t List.mem_cons_self
      refine ⟨⟨trivial, ⟨⟨names, listed, hns⟩, once⟩, trivial⟩, fun r hr m => ?_⟩
      cases hr
      constructor
      · intro hm
        rcases List.mem_append.1 hm with hm | hm
        · exact absurd hm (fresh m _)
        · rcases List.mem_cons.1 hm with hm | hm
          · cases hm
          · cases List.mem_singleton.1 hm
            exact ⟨rfl, rfl⟩
      · intro given
        obtain ⟨rfl, rfl⟩ := given
        exact List.mem_append_right t (List.mem_cons_of_mem _ List.mem_cons_self)
  · intro f
    refine ⟨.single trivial, fun r hr m => ⟨fun hm => absurd hm (hn _ m), ?_⟩⟩
    intro given
    obtain ⟨rfl, -⟩ := given
    cases hr

/-! ### The logging stack -/

theorem ns_of_mem_loggingStack {ns : String} {m : Manifest} (h : m ∈ loggingStack ns store) :
    m.ns = ns := by
  simp only [loggingStack, List.mem_cons, List.not_mem_nil, or_false] at h
  rcases h with rfl | rfl | rfl | rfl | rfl | rfl <;> rfl

theorem createAll_obeys {ns : String} (earlier objects : List Manifest)
    (stack : loggingStack ns store = earlier ++ objects) (created : CreatedInOrder ns earlier t) :
    (createAll ns objects : Task σ Unit).Obeys (SetupLaw b store) t fun _ later =>
      CreatedInOrder ns (loggingStack ns store) later := by
  induction objects generalizing earlier t with
  | nil =>
    rw [List.append_nil] at stack
    apply Task.obeys_pure
    rw [stack]
    exact created
  | cons m rest ih =>
    have own : m.ns = ns := ns_of_mem_loggingStack (mem_of_split stack)
    have hm : (Task.call (.create ns m) : Task σ Unit).Obeys (SetupLaw b store) t
        fun _ later => CreatedInOrder ns (earlier ++ [m]) later := by
      apply Task.obeys_call
      · intro x
        exact ⟨created.claimed, own, .logging stack created⟩
      · intro _
        exact created.concat
    apply hm.bind
    intro _ n hn
    apply ih (earlier ++ [m]) _ hn
    rw [stack, List.append_assoc]
    rfl

theorem deployLogging_obeys {ns : String} {limits : PollLimits} (claimed : Claimed ns t) :
    (deployLogging ns store limits : Task σ Unit).Obeys (SetupLaw b store) t fun _ later =>
      LoggingServed ns later := by
  have first : CreatedInOrder ns [] t := List.singleton_sublist.2 claimed
  apply (createAll_obeys [] _ rfl first).bind
  intro _ n _
  apply (awaitServing_obeys _).mono
  · intro _ _ h
    obtain ⟨m, k, h, pass⟩ := h
    rw [h]
    exact ⟨k, pass, (List.suffix_append _ k).isInfix⟩
  · intro m w x
    exact claimed.grow.grow

/-! ### The pool -/

theorem planPool_name {ns : String} {r : PoolRequest} (h : b.planPool ns = .ok r) :
    r.name = poolName ns := by
  unfold Blueprint.planPool at h
  cases hm : MemorySize.parse b.pool.nodeMemory with
  | error c =>
    rw [hm] at h
    cases h
  | ok machine =>
    cases ht : b.requestedMemory with
    | error c =>
      rw [hm, ht] at h
      cases h
    | ok total =>
      rw [hm, ht] at h
      cases h
      rfl

theorem awaitPool_obeys {ns name : String} {w : WaitSettings} (claimed : Claimed ns t)
    (own : name = poolName ns) :
    (awaitPool name w : Task σ Unit).Obeys (SetupLaw b store) t fun _ later =>
      ∃ m, later = t ++ m ++ [.asked (.poolStatus name) (.ok (some .running))] := by
  have lawful : ∀ m x, SetupLaw b store (t ++ m) (.asked (.poolStatus name) x) := by
    intro m x
    exact ⟨ns, claimed.grow, own⟩
  apply (poll_answered_obeys (checkPool_traces name) lawful).mono
  intro _ n h
  obtain ⟨m, status, hn, rfl⟩ := h
  exact ⟨m, hn⟩

theorem awaitCollector_obeys {ns : String} {nodes : Nat} {w : WaitSettings}
    (claimed : Claimed ns t) :
    (awaitCollector ns nodes w : Task σ Unit).Obeys (SetupLaw b store) t fun _ later =>
      ∃ m counts, ReplicaCounts.covers counts nodes = true ∧
        later = t ++ m ++ [.asked (.workloadStatus ns collectorWorkload) (.ok (some counts))] := by
  have lawful : ∀ m x,
      SetupLaw b store (t ++ m) (.asked (.workloadStatus ns collectorWorkload) x) := by
    intro m x
    exact claimed.grow
  apply (poll_answered_obeys (checkCollector_traces ns nodes) lawful).mono
  intro _ n h
  obtain ⟨m, status, hn, counts, rfl, covers⟩ := h
  exact ⟨m, counts, covers, hn⟩

theorem scalePool_obeys {ns : String} {b' : Blueprint} {w : WaitSettings} (claimed : Claimed ns t)
    (served : LoggingServed ns t) :
    (scalePool ns b' w : Task σ ScaledPool).Obeys (SetupLaw b store) t fun pool later =>
      ∃ r, pool.name = r.name ∧ r.name = poolName ns ∧ PoolUsable ns r later := by
  have plan : (Task.ofConfig (b'.planPool ns) : Task σ PoolRequest).Obeys (SetupLaw b store) t
      fun r later => later = t ∧ r.name = poolName ns := by
    cases h : b'.planPool ns with
    | error c => exact Task.obeys_throw
    | ok r => exact Task.obeys_pure ⟨rfl, planPool_name h⟩
  apply plan.bind
  intro r n hr
  obtain ⟨hn, own⟩ := hr
  rw [hn]
  have create : (Task.call (.createPool r) : Task σ Unit).Obeys (SetupLaw b store) t
      fun _ later => later = t ++ [.asked (.createPool r) (.ok ())] := by
    apply Task.obeys_call
    · intro x
      exact ⟨ns, claimed, own, served⟩
    · intro _
      rfl
  apply create.bind
  intro _ n hn
  rw [hn]
  apply Task.Obeys.after_silent (Task.traces_clock.mono fun _ _ h => h.2)
  intro started
  apply (awaitPool_obeys claimed.grow own).bind
  intro _ n hn
  obtain ⟨m, hn⟩ := hn
  rw [hn]
  apply Task.Obeys.after_silent (Task.traces_clock.mono fun _ _ h => h.2)
  intro finished
  apply (awaitCollector_obeys claimed.grow.grow.grow).bind
  intro _ n hn
  obtain ⟨k, counts, covers, hn⟩ := hn
  rw [hn]
  apply Task.obeys_pure
  refine ⟨r, rfl, own, counts, covers, ?_⟩
  have created := (List.sublist_append_right t [Deed.asked (.createPool r) (.ok ())]).append
    (List.nil_sublist m)
  have ran := created.append
    (List.Sublist.refl [Deed.asked (.poolStatus r.name) (.ok (some .running))])
  exact (ran.append (List.nil_sublist k)).append (List.Sublist.refl [_])

/-! ### Groups -/

theorem awaitGroup_obeys {ns group : String} {replicas : Int} {l : PollLimits}
    (claimed : Claimed ns t) :
    (awaitGroup ns group replicas l : Task σ NodeGroup).Obeys (SetupLaw b store) t fun g later =>
      ∃ m pods, g = ⟨group, ns, pods⟩ ∧ isWholeGroup (wantedPods replicas) pods = true ∧
        later = t ++ m ++ [.asked (.listPods ns (podSelector group)) (.ok pods)] := by
  have lawful : ∀ m x, SetupLaw b store (t ++ m) (.asked (.listPods ns (podSelector group)) x) := by
    intro m x
    exact claimed.grow
  apply (poll_answered_obeys (checkGroup_traces ns group (wantedPods replicas)) lawful).bind
  intro pods n h
  obtain ⟨m, listed, hn, rfl, whole⟩ := h
  apply Task.obeys_pure
  exact ⟨m, pods, rfl, whole, hn⟩

theorem awaitTiming_obeys {ns : String} {pod : Pod} {l : PollLimits}
    (lawful : ∀ m x, SetupLaw b store (t ++ m) (.asked (.podLogs ns pod.name timingContainer) x)) :
    (awaitTiming ns pod l : Task σ Unit).Obeys (SetupLaw b store) t fun _ later =>
      ∃ m log, later = t ++ m ++ [.asked (.podLogs ns pod.name timingContainer) (.ok log)] ∧
        holds log timingPhrase = true := by
  apply (Task.obeys_lift (poll_answered_obeys (checkTiming_traces ns pod.name) lawful)).bind
  intro r n hr
  split
  · apply Task.obeys_pure
    exact hr _ rfl
  · exact Task.obeys_throw
  · exact Task.obeys_throw

theorem startTiming_obeys {ns : String} {pod : Pod} (claimed : Claimed ns t)
    (listens : TimingListens ns b.bootstrap.replicas pod t) :
    (startTiming ns pod : Task σ Unit).Obeys (SetupLaw b store) t fun _ later =>
      TimingStarted ns pod later := by
  have start : (Task.call (.startTiming ns pod timingStart) : Task σ String).Obeys
      (SetupLaw b store) t fun response later =>
        later = t ++ [.asked (.startTiming ns pod timingStart) (.ok response)] := by
    apply Task.obeys_call
    · intro x
      exact ⟨claimed, listens⟩
    · intro _
      rfl
  apply start.bind
  intro response n hn
  split
  next h =>
    apply Task.obeys_pure
    rw [hn]
    exact ⟨response, h, List.mem_append_right t List.mem_cons_self⟩
  · exact Task.obeys_throw

theorem firstPod_of_isWholeGroup (group ns : String) {replicas : Int} {pods : List Pod}
    (h : isWholeGroup (wantedPods replicas) pods = true) :
    ∃ pod, NodeGroup.firstPod ⟨group, ns, pods⟩ = .ok pod ∧ pods.head? = some pod := by
  cases pods with
  | nil =>
    have hl : wantedPods replicas ≤ 0 := by
      simpa [isWholeGroup] using h
    have hp : 1 ≤ wantedPods replicas := Nat.le_max_left 1 _
    omega
  | cons pod rest => exact ⟨pod, rfl, rfl⟩

theorem deployBootstrap_obeys {p : DeploymentPlan} {s : NodeSpec} {timeout : Duration}
    {r : PoolRequest} (claimed : Claimed p.ns t) (pool : p.pool = some r.name)
    (own : r.name = poolName p.ns) (usable : PoolUsable p.ns r t)
    (replicas : s.replicas = b.bootstrap.replicas) :
    (p.deployBootstrap s timeout : Task σ NodeGroup).Obeys (SetupLaw b store) t fun g later =>
      ∃ pod, g.firstPod = .ok pod ∧ TimingStarted p.ns pod later := by
  have create : (Task.call (.create p.ns (p.placement.bootstrap s)) : Task σ Unit).Obeys
      (SetupLaw b store) t fun _ _ => True := by
    apply Task.obeys_call
    · intro x
      exact ⟨claimed, rfl, .bootstrap rfl pool own usable⟩
    · intro _
      trivial
  apply create.bind
  intro _ n _
  apply (awaitGroup_obeys claimed.grow).bind
  intro _ k h
  obtain ⟨m, pods, rfl, whole, hk⟩ := h
  rw [hk]
  obtain ⟨pod, first, head⟩ := firstPod_of_isWholeGroup bootstrapGroup p.ns whole
  rw [replicas] at whole
  have listed : .asked (.listPods p.ns (podSelector bootstrapGroup)) (.ok pods) ∈
      t ++ n ++ m ++ [.asked (.listPods p.ns (podSelector bootstrapGroup)) (.ok pods)] :=
    List.mem_append_right _ List.mem_cons_self
  have still : Claimed p.ns
      (t ++ n ++ m ++ [.asked (.listPods p.ns (podSelector bootstrapGroup)) (.ok pods)]) :=
    claimed.grow.grow.grow
  have config : (Task.ofConfig (NodeGroup.firstPod ⟨bootstrapGroup, p.ns, pods⟩) : Task σ Pod) =
      pure pod := by
    rw [first]
    rfl
  rw [config, pure_bind]
  -- The list stays in the trace while the logs are polled.
  have logs : ∀ m' x, SetupLaw b store
      (t ++ n ++ m ++ [.asked (.listPods p.ns (podSelector bootstrapGroup)) (.ok pods)] ++ m')
      (.asked (.podLogs p.ns pod.name timingContainer) x) := by
    intro m' x
    exact ⟨still.grow, pods, pod, GroupUp.grow ⟨whole, listed⟩, head, rfl⟩
  apply (awaitTiming_obeys logs).bind
  intro _ j h
  obtain ⟨m', log, hj, phrase⟩ := h
  rw [hj]
  have listens : TimingListens p.ns b.bootstrap.replicas pod
      (t ++ n ++ m ++ [.asked (.listPods p.ns (podSelector bootstrapGroup)) (.ok pods)] ++ m' ++
        [.asked (.podLogs p.ns pod.name timingContainer) (.ok log)]) := by
    refine ⟨pods, log, whole, head, phrase, ?_⟩
    have hl := (List.singleton_sublist.2 listed).append (List.nil_sublist m')
    exact hl.append (List.Sublist.refl _)
  apply (startTiming_obeys still.grow.grow listens).bind
  intro _ i started
  apply Task.obeys_pure
  exact ⟨pod, first, started⟩

theorem deployClients_obeys {p : DeploymentPlan} {group : String} {s : NodeSpec} {bootstrap : Pod}
    {timeout : Duration} (claimed : Claimed p.ns t)
    (may : MayCreate b store p.ns t (p.placement.clients group s bootstrap)) :
    (p.deployClients group s bootstrap timeout : Task σ NodeGroup).Obeys (SetupLaw b store) t
      fun g later => GroupUp p.ns group s.replicas g.pods later := by
  have create : (Task.call (.create p.ns (p.placement.clients group s bootstrap)) :
      Task σ Unit).Obeys (SetupLaw b store) t fun _ _ => True := by
    apply Task.obeys_call
    · intro x
      exact ⟨claimed, rfl, may⟩
    · intro _
      trivial
  apply create.bind
  intro _ n _
  apply (awaitGroup_obeys claimed.grow).mono
  intro _ k h
  obtain ⟨m, pods, rfl, whole, hk⟩ := h
  rw [hk]
  exact ⟨whole, List.mem_append_right _ List.mem_cons_self⟩

end ProvingGround
