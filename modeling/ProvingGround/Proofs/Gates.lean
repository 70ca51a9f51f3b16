import ProvingGround.Proofs.Setup.BringUp

/-!
# The gates of setup

Nothing in setup is done before what it rests on has been seen to be there, however the services
answer on the way.
-/

namespace ProvingGround

open Text

/-! ### Gates -/

/-- In a trace, a deed only comes after deeds as `P` says. -/
def OnlyAfter (t : List Deed) (d : Deed) (P : List Deed → Prop) : Prop :=
  ∀ pre post, t = pre ++ d :: post → P pre

/-- The gates that a trace of setup keeps. -/
structure Gated (b : Blueprint) (store : StoreSettings) (t : List Deed) : Prop where
  /-- A namespace is created after a list without it. -/
  claim : ∀ ns x, OnlyAfter t (.asked (.createNamespace ns) x) fun pre =>
    ∃ names, .asked .listNamespaces (.ok names) ∈ pre ∧ ns ∉ names
  /-- An object of the logging stack is created after its namespace and the objects before it. -/
  logging : ∀ (ns : String) i m x, (loggingStack ns store)[i]? = some m →
    OnlyAfter t (.asked (.create ns m) x) fun pre =>
      (.asked (.createNamespace ns) (.ok ()) ::
        ((loggingStack ns store).take i).map fun o => .asked (.create ns o) (.ok ())).Sublist pre
  /-- A pool is created after one pass in which the whole logging stack serves. -/
  pool : ∀ r x, OnlyAfter t (.asked (.createPool r) x) fun pre =>
    ∃ (ns : String) (es fb kb : ReplicaCounts), r.name = poolName ns ∧
      (∀ c ∈ [es, fb, kb], 0 < c.desired ∧ c.desired ≤ c.ready) ∧
      [.asked (.workloadStatus ns ⟨.statefulSet, "elasticsearch"⟩) (.ok (some es)),
        .asked (.workloadStatus ns ⟨.daemonSet, "fluent-bit"⟩) (.ok (some fb)),
        .asked (.workloadStatus ns ⟨.deployment, "kibana"⟩) (.ok (some kb))] <:+: pre
  /-- The bootstrap group is created after its pool was created, ran, and was covered. -/
  bootstrap : ∀ ns m x, m.name = bootstrapGroup → OnlyAfter t (.asked (.create ns m) x) fun pre =>
    ∃ (r : PoolRequest) (c : ReplicaCounts), m.pool? = some r.name ∧
      c.ready = c.desired ∧ (min r.nodes 2147483647 : Nat) ≤ c.ready ∧
      [.asked (.createPool r) (.ok ()), .asked (.poolStatus r.name) (.ok (some .running)),
        .asked (.workloadStatus ns ⟨.daemonSet, "fluent-bit"⟩) (.ok (some c))].Sublist pre
  /-- A log is read after a list of the whole bootstrap group, that of its first pod. -/
  logs : ∀ ns pod container x, OnlyAfter t (.asked (.podLogs ns pod container) x) fun pre =>
    ∃ pods first, .asked (.listPods ns "app=bootstrap") (.ok pods) ∈ pre ∧
      max b.bootstrap.replicas.toNat 1 ≤ pods.length ∧
      (∀ p ∈ pods, p.ready = true ∧ p.address ≠ "") ∧ pods.head? = some first ∧ first.name = pod
  /-- The timing service is started after the log of the first pod of such a list had the phrase. -/
  timing : ∀ ns pod body x, OnlyAfter t (.asked (.startTiming ns pod body) x) fun pre =>
    ∃ pods log, max b.bootstrap.replicas.toNat 1 ≤ pods.length ∧
      (∀ p ∈ pods, p.ready = true ∧ p.address ≠ "") ∧ pods.head? = some pod ∧
      holds log timingPhrase = true ∧
      [.asked (.listPods ns "app=bootstrap") (.ok pods),
        .asked (.podLogs ns pod.name timingContainer) (.ok log)].Sublist pre
  /-- Clients are created after a timing service answered its start with an empty object. -/
  clients : ∀ ns m x, m.name = clientGroup → OnlyAfter t (.asked (.create ns m) x) fun pre =>
    ∃ pod body response, .asked (.startTiming ns pod body) (.ok response) ∈ pre ∧
      trim response = "\x7b\x7d"
  /-- The second clients are created after a list of the whole group of the first. -/
  second : ∀ ns m x, m.name = secondClientGroup → OnlyAfter t (.asked (.create ns m) x) fun pre =>
    ∃ pods, .asked (.listPods ns "app=client") (.ok pods) ∈ pre ∧
      max b.client.replicas.toNat 1 ≤ pods.length ∧ ∀ p ∈ pods, p.ready = true ∧ p.address ≠ ""

/-! ### From the law to the gates -/

section Gates

variable {b : Blueprint} {store : StoreSettings} {t : List Deed} {ns : String} {m : Manifest}

theorem nodup_loggingStack (ns : String) (store : StoreSettings) :
    (loggingStack ns store).Nodup := by
  have h : ((loggingStack ns store).map Manifest.workload).Nodup := by
    show [(⟨.service, indexerName⟩ : Workload), ⟨.statefulSet, indexerName⟩,
      ⟨.configMap, collectorName⟩, ⟨.daemonSet, collectorName⟩, ⟨.service, dashboardName⟩,
      ⟨.deployment, dashboardName⟩].Nodup
    decide
  apply (List.pairwise_map.1 h).imp
  intro m n hne heq
  exact hne (congrArg Manifest.workload heq)

theorem wholeGroup_of_isWholeGroup {replicas : Int} {pods : List Pod}
    (h : isWholeGroup (wantedPods replicas) pods = true) :
    max replicas.toNat 1 ≤ pods.length ∧ ∀ p ∈ pods, p.ready = true ∧ p.address ≠ "" := by
  unfold isWholeGroup wantedPods at h
  rw [Bool.and_eq_true, decide_eq_true_eq, List.all_eq_true] at h
  obtain ⟨enough, reachable⟩ := h
  rw [Nat.max_comm] at enough
  refine ⟨enough, fun p hp => ?_⟩
  have hr := reachable p hp
  unfold Pod.isReachable at hr
  rw [Bool.and_eq_true, Bool.not_eq_true', String.isEmpty_eq_false_iff] at hr
  exact hr

theorem MayCreate.inOrder {i : Nat} (h : MayCreate b store ns t m)
    (stack : (loggingStack ns store)[i]? = some m) :
    CreatedInOrder ns ((loggingStack ns store).take i) t := by
  have names := name_of_mem_loggingStack (List.mem_of_getElem? stack)
  cases h with
  | @logging earlier _ later split created =>
    have at_ : (loggingStack ns store)[earlier.length]? = some m := by
      rw [split, List.getElem?_append_right (Nat.le_refl _), Nat.sub_self]
      rfl
    have bound : earlier.length < (loggingStack ns store).length := by
      rw [split, List.length_append, List.length_cons]
      omega
    -- No object stands twice in the stack, so the place that the law knows is the place asked for.
    have hi := (List.getElem?_inj bound (nodup_loggingStack ns store)).1 (at_.trans stack.symm)
    rw [← hi, split, List.take_left]
    exact created
  | bootstrap name => exact absurd name names.1
  | client name => exact absurd name names.2.1
  | second name => exact absurd name names.2.2

theorem MayCreate.group_inv (h : MayCreate b store ns t m) :
    (m.name = bootstrapGroup → ∃ r, m.pool? = some r.name ∧ PoolUsable ns r t) ∧
      (m.name = clientGroup → ∃ pod, TimingStarted ns pod t) ∧
      (m.name = secondClientGroup →
        ∃ pods, GroupUp ns clientGroup b.client.replicas pods t) := by
  have apart : ∀ {s s' : String}, m.name = s → m.name = s' → s ≠ s' → False := by
    intro s s' h h' hne
    exact hne (h.symm.trans h')
  cases h with
  | logging stack =>
    have names := name_of_mem_loggingStack (mem_of_split stack)
    exact ⟨fun h => absurd h names.1, fun h => absurd h names.2.1, fun h => absurd h names.2.2⟩
  | bootstrap name pool _ usable =>
    exact ⟨fun _ => ⟨_, pool, usable⟩, fun h => (apart name h (by decide)).elim,
      fun h => (apart name h (by decide)).elim⟩
  | client name _ started =>
    exact ⟨fun h => (apart name h (by decide)).elim, fun _ => ⟨_, started⟩,
      fun h => (apart name h (by decide)).elim⟩
  | second name _ clients =>
    exact ⟨fun h => (apart name h (by decide)).elim, fun h => (apart name h (by decide)).elim,
      fun _ => ⟨_, clients⟩⟩

theorem LoggingServed.counts (h : LoggingServed ns t) :
    ∃ es fb kb : ReplicaCounts, (∀ c ∈ [es, fb, kb], 0 < c.desired ∧ c.desired ≤ c.ready) ∧
      [.asked (.workloadStatus ns ⟨.statefulSet, "elasticsearch"⟩) (.ok (some es)),
        .asked (.workloadStatus ns ⟨.daemonSet, "fluent-bit"⟩) (.ok (some fb)),
        .asked (.workloadStatus ns ⟨.deployment, "kibana"⟩) (.ok (some kb))] <:+: t := by
  obtain ⟨n, pass, hn⟩ := h
  have serving : ∀ c : ReplicaCounts, c.isServing = true → 0 < c.desired ∧ c.desired ≤ c.ready := by
    intro c hc
    unfold ReplicaCounts.isServing at hc
    rw [Bool.and_eq_true, decide_eq_true_eq, decide_eq_true_eq] at hc
    exact hc
  cases pass with
  | cons hes pass =>
    cases pass with
    | cons hfb pass =>
      cases pass with
      | cons hkb pass =>
        cases pass
        obtain ⟨es, hes, rfl⟩ := hes
        obtain ⟨fb, hfb, rfl⟩ := hfb
        obtain ⟨kb, hkb, rfl⟩ := hkb
        refine ⟨es, fb, kb, ?_, hn⟩
        intro c hc
        simp only [List.mem_cons, List.not_mem_nil, or_false] at hc
        rcases hc with rfl | rfl | rfl
        · exact serving _ hes
        · exact serving _ hfb
        · exact serving _ hkb

theorem gated_of_lawful (h : Lawful (SetupLaw b store) [] t) : Gated b store t := by
  have law : ∀ {pre post d}, t = pre ++ d :: post → SetupLaw b store pre d := by
    intro pre post d same
    subst same
    exact h.split
  constructor
  · intro ns x pre post ht
    exact (law ht).1
  · intro ns i m x stack pre post ht
    exact (law ht).2.2.inOrder stack
  · intro r x pre post ht
    obtain ⟨ns, -, own, served⟩ := law ht
    obtain ⟨es, fb, kb, serving, pass⟩ := served.counts
    exact ⟨ns, es, fb, kb, own, serving, pass⟩
  · intro ns m x name pre post ht
    obtain ⟨r, pool, counts, covers, order⟩ := (law ht).2.2.group_inv.1 name
    unfold ReplicaCounts.covers at covers
    rw [Bool.and_eq_true, decide_eq_true_eq, beq_iff_eq] at covers
    exact ⟨r, counts, pool, covers.2, covers.1, order⟩
  · intro ns pod container x pre post ht
    obtain ⟨-, pods, first, ⟨whole, listed⟩, head, name⟩ := law ht
    obtain ⟨enough, reachable⟩ := wholeGroup_of_isWholeGroup whole
    exact ⟨pods, first, listed, enough, reachable, head, name⟩
  · intro ns pod body x pre post ht
    obtain ⟨-, pods, log, whole, head, phrase, order⟩ := law ht
    obtain ⟨enough, reachable⟩ := wholeGroup_of_isWholeGroup whole
    exact ⟨pods, log, enough, reachable, head, phrase, order⟩
  · intro ns m x name pre post ht
    obtain ⟨pod, response, empty, started⟩ := (law ht).2.2.group_inv.2.1 name
    exact ⟨pod, _, response, started, empty⟩
  · intro ns m x name pre post ht
    obtain ⟨pods, whole, listed⟩ := (law ht).2.2.group_inv.2.2 name
    obtain ⟨enough, reachable⟩ := wholeGroup_of_isWholeGroup whole
    exact ⟨pods, listed, enough, reachable⟩

end Gates

/-- Setup of a fresh run keeps the gates in every world, also when it fails or never ends. -/
theorem setup_gated {σ : Type} [Services σ] (b : Blueprint) (st : Settings) (draws : SuffixDraws)
    (born : Timestamp) (world : σ) (clock : Duration) (calendar : Duration → Timestamp)
    (patience : Nat) :
    Gated b st.store ((setup false).exec (.create b st draws born)
      ⟨world, clock, calendar, patience, []⟩).2.deeds := by
  obtain ⟨n, hn, lawful, -⟩ := setup_obeys (σ := σ) false (Standing.create b st draws born)
    ⟨world, clock, calendar, patience, []⟩
  have trace : ((setup false).exec (.create b st draws born)
      ⟨world, clock, calendar, patience, []⟩).2.deeds = n := hn
  rw [trace]
  exact gated_of_lawful lawful

end ProvingGround
