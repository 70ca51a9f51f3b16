import ProvingGround.Proofs.Setup.Genesis
import ProvingGround.Proofs.Setup.Work

/-!
# What setup has brought up

A network that has been brought up is the one that was planned: one pool, and for each group of the
blueprint, in order, a deployment in it and the pods that were found. Nothing else was done about
nodes on the way.
-/

namespace ProvingGround

variable {σ α β : Type} {l : Lifecycle}

/-! ### Records -/

/-- Only the phase of the record has changed, as far as networks depend on it. -/
structure Lifecycle.Unaltered (l l' : Lifecycle) : Prop where
  blueprint : l'.blueprint = l.blueprint
  ns : l'.ns = l.ns
  indexDate : l'.indexDate = l.indexDate

theorem Lifecycle.Unaltered.trans {l l' l'' : Lifecycle} (h : l.Unaltered l')
    (h' : l'.Unaltered l'') : l.Unaltered l'' :=
  ⟨h'.blueprint.trans h.blueprint, h'.ns.trans h.ns, h'.indexDate.trans h.indexDate⟩

/-! ### Steps with work -/

namespace Step

/-- When the step gives a value on the run `l`, the run after it and the work that it has added are
as `P` says. -/
def Works (l : Lifecycle) (t : Step σ α) (P : α → Lifecycle → List Deed → Prop) : Prop :=
  ∀ s v l' later, t.exec l s = (.ok (.ok v, l'), later) →
    ∃ n, workOf later.deeds = workOf s.deeds ++ n ∧ P v l' n

variable {t : Step σ α} {P : α → Lifecycle → List Deed → Prop}

theorem works_pure {v : α} (h : P v l []) : (pure v : Step σ α).Works l P := by
  intro s w l' later ended
  cases ended
  exact ⟨[], (List.append_nil _).symm, h⟩

theorem Works.bind {u : α → Step σ β} {T : β → Lifecycle → List Deed → Prop} (ht : t.Works l P)
    (hu : ∀ v l' m, P v l' m → (u v).Works l' fun w l'' n => T w l'' (m ++ n)) :
    (t >>= u).Works l T := by
  intro s w l'' later ended
  obtain ⟨v, l', middle, first, rest⟩ := exec_bind_ok ended
  obtain ⟨m, hm, given⟩ := ht s v l' middle first
  obtain ⟨n, hn, given⟩ := hu v l' m given middle w l'' later rest
  refine ⟨m ++ n, ?_, given⟩
  rw [hn, hm, List.append_assoc]

theorem works_record_bind {u : Lifecycle → Step σ β} {T : β → Lifecycle → List Deed → Prop}
    (h : (u l).Works l T) : (record >>= u).Works l T := by
  intro s w l' later ended
  rw [exec_bind, exec_record] at ended
  exact h s w l' later ended

theorem works_update (f : Lifecycle → Lifecycle) :
    (update f : Step σ Unit).Works l fun _ l' n => l' = f l ∧ n = [] := by
  intro s w l' later ended
  cases ended
  exact ⟨[], (List.append_nil _).symm, rfl, rfl⟩

theorem exec_task_ok {p : Phase} {a : Task σ α} {s later : Session σ} {v : α} {l' : Lifecycle}
    (h : (task p a).exec l s = (.ok (.ok v, l'), later)) :
    l' = l ∧ a.exec s = (.ok (.ok v), later) := by
  have attempt : a.attempt.exec s = a.exec s := rfl
  unfold task at h
  rw [exec_bind, exec_lift, Operation.exec_act, attempt] at h
  rcases ha : a.exec s with ⟨halt | f | w, s'⟩ <;> rw [ha] at h <;> cases h
  exact ⟨rfl, rfl⟩

theorem works_task {p : Phase} {a : Task σ α} {R : α → List Deed → Prop} (h : a.Works R) :
    (task p a).Works l fun v l' n => l' = l ∧ R v n := by
  intro s v l' later ended
  obtain ⟨rfl, run⟩ := exec_task_ok ended
  obtain ⟨n, hn, given⟩ := h.exec_ok run
  exact ⟨n, hn, rfl, given⟩

theorem works_idle_task {p : Phase} {a : Task σ α} (h : a.Idles) :
    (task p a).Works l fun _ l' n => l' = l ∧ n = [] := by
  intro s v l' later ended
  obtain ⟨rfl, run⟩ := exec_task_ok ended
  refine ⟨[], ?_, rfl, rfl⟩
  rw [h.exec run, List.append_nil]

theorem works_advance {p : Phase} {tr : Trigger} :
    (advance p tr : Step σ Unit).Works l fun _ l' n => l.Unaltered l' ∧ n = [] := by
  intro s v l' later ended
  cases edge : Transition.find? l.phase tr with
  | none =>
    rw [exec_advance_none edge] at ended
    cases ended
  | some e =>
    rw [exec_advance_some edge] at ended
    cases ended
    refine ⟨[], ?_, ⟨rfl, rfl, rfl⟩, rfl⟩
    rw [Session.deeds_note, workOf_append]
    rfl

end Step

/-! ### Groups -/

/-- The groups of a blueprint with their deployments, in order, the clients pointed at a pod. -/
def Placement.groups (p : Placement) (b : Blueprint) (pod : Pod) : List (NodeSpec × Manifest) :=
  (b.bootstrap, p.bootstrap b.bootstrap) :: (b.client, p.clients clientGroup b.client pod) ::
    (b.clientv2.map fun v2 => (v2.node, p.clients secondClientGroup v2.node pod)).toList

/-- Groups have been deployed, one after the other, and found. -/
inductive AllDeployed (ns : String) :
    List (NodeSpec × Manifest) → List NodeGroup → List Deed → Prop where
  | nil : AllDeployed ns [] [] []
  | cons {group g n groups gs k} (first : Deployed ns group g n)
    (rest : AllDeployed ns groups gs k) : AllDeployed ns (group :: groups) (g :: gs) (n ++ k)

theorem AllDeployed.single {ns : String} {group : NodeSpec × Manifest} {g : NodeGroup}
    {n : List Deed} (h : Deployed ns group g n) : AllDeployed ns [group] [g] n := by
  have all := AllDeployed.cons h .nil
  rw [List.append_nil] at all
  exact all

/-! ### Parts of setup -/

section Parts

variable [Services σ]

theorem setupNamespace_works :
    (setupNamespace : Step σ String).Works l
      fun ns l' n => l' = { l with ns := some ns } ∧ n = [] := by
  apply Step.works_record_bind
  apply (Step.works_idle_task (claimNamespace_idles _)).bind
  rintro _ l₁ _ ⟨rfl, rfl⟩
  apply (Step.works_update _).bind
  rintro _ l₂ _ ⟨rfl, rfl⟩
  exact Step.works_pure ⟨rfl, rfl⟩

theorem setupLogging_works (ns : String) :
    (setupLogging ns : Step σ Unit).Works l fun _ l' n => l.Unaltered l' ∧ n = [] := by
  apply Step.works_record_bind
  apply (Step.works_idle_task (deployLogging_idles ns _ _)).bind
  rintro _ l₁ _ ⟨rfl, rfl⟩
  exact Step.works_advance

theorem setupPool_works (ns : String) :
    (setupPool ns : Step σ ScaledPool).Works l fun pool l' n => l.Unaltered l' ∧
      ∃ r, l.blueprint.planPool ns = .ok r ∧ pool.name = r.name ∧ pool.nodes = r.nodes ∧
        n = [.asked (.createPool r) (.ok ())] := by
  apply Step.works_record_bind
  apply (Step.works_task (scalePool_works ns _ _)).bind
  rintro pool l₁ _ ⟨rfl, r, plan, name, nodes, rfl⟩
  apply Step.works_advance.bind
  rintro _ l₂ _ ⟨entered, rfl⟩
  exact Step.works_pure ⟨entered, r, plan, name, nodes, rfl⟩

theorem setupBootstrap_works (ns : String) (pool : ScaledPool) :
    (setupBootstrap ns pool : Step σ _).Works l fun v l' n => l.Unaltered l' ∧
      v.1.ns = ns ∧ v.1.pool = some pool.name ∧
      Deployed ns (l.blueprint.bootstrap, v.1.placement.bootstrap l.blueprint.bootstrap) v.2 n := by
  apply Step.works_record_bind
  have schedule : (GenesisSchedule.start l.blueprint.genesisSpan : Task σ _).Idles := by
    apply Task.Idles.bind Task.idles_clock
    intro clock
    apply Task.Idles.bind (Task.idles_lift (Act.traces_today fun _ => rfl))
    intro now
    exact Task.idles_ofConfig _
  apply (Step.works_idle_task schedule).bind
  rintro schedule l₁ _ ⟨rfl, rfl⟩
  apply (Step.works_task (DeploymentPlan.deployBootstrap_works _ _ _)).bind
  rintro group l₂ n ⟨rfl, deployed⟩
  apply Step.works_advance.bind
  rintro _ l₃ _ ⟨entered, rfl⟩
  apply Step.works_pure
  refine ⟨entered, rfl, rfl, ?_⟩
  simp only [List.nil_append, List.append_nil]
  exact deployed

theorem setupClients_works {plan : DeploymentPlan} {bootstrap : NodeGroup} {ns : String}
    {n₀ : List Deed} (own : plan.ns = ns)
    (first : Deployed ns (l.blueprint.bootstrap, plan.placement.bootstrap l.blueprint.bootstrap)
      bootstrap n₀) :
    (setupClients plan bootstrap : Step σ Network).Works l fun network l' n =>
      l.Unaltered l' ∧ network.ns = ns ∧ ∃ pod,
        network.bootstrap.firstPod = .ok pod ∧
        AllDeployed ns (plan.placement.groups l.blueprint pod) network.groups (n₀ ++ n) := by
  subst own
  apply Step.works_record_bind
  have config : (Task.ofConfig bootstrap.firstPod : Task σ Pod).Works
      fun pod n => bootstrap.firstPod = .ok pod ∧ n = [] := Task.works_ofConfig _
  apply (Step.works_task config).bind
  rintro pod l₁ _ ⟨rfl, pointed, rfl⟩
  apply (Step.works_task (plan.deployClients_works clientGroup _ pod _)).bind
  rintro clients l₂ n₁ ⟨rfl, clients_⟩
  unfold Placement.groups
  cases v2 : l₂.blueprint.clientv2 with
  | none =>
    simp only [pure_bind]
    apply Step.works_advance.bind
    rintro _ l₃ _ ⟨entered, rfl⟩
    apply Step.works_pure
    refine ⟨entered, rfl, pod, pointed, ?_⟩
    simp only [List.nil_append, List.append_nil]
    exact .cons first (.single clients_)
  | some v2 =>
    simp only [pure_bind]
    apply (Step.works_task (plan.deployClients_works secondClientGroup _ pod _)).bind
    rintro second l₃ n₂ ⟨rfl, second_⟩
    apply Step.works_advance.bind
    rintro _ l₄ _ ⟨entered, rfl⟩
    apply Step.works_pure
    refine ⟨entered, rfl, pod, pointed, ?_⟩
    simp only [List.nil_append, List.append_nil]
    exact .cons first (.cons clients_ (.single second_))

omit [Services σ] in
theorem setupGenesis_works (schedule : GenesisSchedule) :
    (setupGenesis schedule : Step σ Unit).Works l fun _ l' n => l.Unaltered l' ∧ n = [] := by
  have await_ : (Step.lift (Operation.act schedule.await) : Step σ Duration).Works l
      fun _ l' n => l' = l ∧ n = [] := by
    intro s v l' later ended
    rw [Step.exec_lift, Operation.exec_act, schedule.exec_await] at ended
    cases ended
    exact ⟨[], (List.append_nil _).symm, rfl, rfl⟩
  apply await_.bind
  rintro _ l₁ _ ⟨rfl, rfl⟩
  exact Step.works_advance

/-! ### The network -/

/-- What has been brought up for the run `l`, and the work on it. -/
structure BroughtUp (l : Lifecycle) (env : Environment) (l' : Lifecycle) (n : List Deed) :
    Prop where
  own : l'.ns = some env.ns
  network : env.network.ns = env.ns
  blueprint : env.blueprint = l.blueprint
  indexDate : env.indexDate = l.indexDate ∧ l'.indexDate = l.indexDate
  work : ∃ r pod k, l.blueprint.planPool env.ns = .ok r ∧
    env.pool.name = r.name ∧ env.pool.nodes = r.nodes ∧
    env.network.bootstrap.firstPod = .ok pod ∧
    AllDeployed env.ns (Placement.groups ⟨env.ns, some r.name, env.genesis.text⟩ l.blueprint pod)
      env.network.groups k ∧
    n = .asked (.createPool r) (.ok ()) :: k

theorem bringUp_works : (bringUp : Step σ Environment).Works l (BroughtUp l) := by
  apply setupNamespace_works.bind
  rintro ns l₁ _ ⟨claimed, rfl⟩
  apply (setupLogging_works ns).bind
  rintro _ l₂ _ ⟨same₂, rfl⟩
  apply (setupPool_works ns).bind
  rintro pool l₃ _ ⟨same₃, r, planned, name, nodes, rfl⟩
  have same₃ := same₂.trans same₃
  apply (setupBootstrap_works ns pool).bind
  rintro ⟨plan, bootstrap⟩ l₄ n₄ ⟨same₄, own, pinned, deployed⟩
  rw [← same₄.blueprint] at deployed
  have same₄ := same₃.trans same₄
  apply (setupClients_works own deployed).bind
  rintro network l₅ n₅ ⟨same₅, network_, pod, pointed, all⟩
  have same₅ := same₄.trans same₅
  apply (setupGenesis_works plan.schedule).bind
  rintro _ l₆ _ ⟨same₆, rfl⟩
  have same₆ := same₅.trans same₆
  subst claimed
  have placed : plan.placement = ⟨ns, some r.name, plan.schedule.genesis.text⟩ := by
    rw [← own, ← name, ← show plan.pool = some pool.name from pinned]
    rfl
  rw [same₂.blueprint] at planned
  rw [same₄.blueprint, placed] at all
  apply Step.works_record_bind
  apply Step.works_pure
  refine ⟨same₆.ns, network_, same₆.blueprint, ⟨same₆.indexDate, same₆.indexDate⟩, r, pod, n₄ ++ n₅,
    planned, name, nodes, pointed, all, ?_⟩
  simp only [List.nil_append, List.append_nil, List.singleton_append]

end Parts

end ProvingGround
