import Mathlib.Algebra.GroupWithZero.Nat
import ProvingGround.Manifest.Writing
import ProvingGround.Proofs.Arguments
import ProvingGround.Proofs.Lifecycle.Handover

/-!
# What is deployed

The pool is sized for the groups of the blueprint before any of them is deployed. What is deployed
then is what the pool was sized for, under the images asked for. Behind the arguments configured for
its nodes stand those of the harness, so that the harness has the last word.
-/

namespace ProvingGround

/-! ### Plans of groups -/

/-- A group as it is to be deployed. -/
structure GroupPlan where
  name : String
  spec : NodeSpec
  /-- The image of the group stays when images are overridden. -/
  keepsImage : Bool

/-- The groups of a blueprint, in the order of their deployment. -/
def Blueprint.groupPlans (b : Blueprint) : List GroupPlan :=
  ⟨"bootstrap", b.bootstrap, false⟩ :: ⟨"client", b.client, false⟩ ::
    (b.clientv2.map fun v2 => ⟨"clientv2", v2.node, v2.keepsImage⟩).toList

namespace GroupPlan

/-- The image of the nodes when another one is asked for, or none. -/
def image (p : GroupPlan) (override : String) : String :=
  if override = "" ∨ p.keepsImage = true then p.spec.image else override

/-- What the harness tells the nodes, flag by flag. -/
def flags (p : GroupPlan) (genesis : String) (bootstrap : Pod) : List (String × String) :=
  ("--genesis-time=", genesis) ::
    if p.name = "bootstrap" then []
    else
      [("--bootstrap=", bootstrap.address ++ ":7513"),
       ("--poet-server=", bootstrap.address ++ ":80")]

/-- The configured arguments, one after the other, each with its value under its name. -/
def Configured (p : GroupPlan) (own : List String) : Prop :=
  List.Forall₂ (fun (key, value) a => ∃ text, ArgValue.Shown value text ∧
    a = "--" ++ key ++ "=" ++ text) p.spec.args.toList own

end GroupPlan

/-- What stands in a document under one key, in that under the next, and so on. -/
def Json.along? (j : Json) (path : List String) : Option Json :=
  path.foldlM (fun inner key => inner.get? key) j

/-- The argument stands under the flag. -/
def hasFlag (flag a : String) : Bool := flag.toList.isPrefixOf a.toList

/-- A deployment is as planned: in the pool, with the image and the arguments of its nodes. The
configured arguments come first, then those of the harness, which the last one under each of its
flags is. -/
structure DeployedAs (override pool genesis : String) (bootstrap : Pod) (p : GroupPlan)
    (m : Manifest) : Prop where
  name : m.name = p.name
  pinned : ∃ template, m.deployment? = some (p.spec.replicas, template) ∧ template.pool = some pool
  /-- What the cluster is given has the pool as the node selector of the pods. -/
  selector : m.toJson.along? ["spec", "template", "spec", "nodeSelector",
    "cloud.google.com/gke-nodepool"] = some (Json.text pool)
  node : ∃ c own, m.node? = some c ∧ c.image = p.image override ∧
    c.resources = some p.spec.resources ∧ p.Configured own ∧
    c.args = own ++ (p.flags genesis bootstrap).map (fun (flag, value) => flag ++ value) ∧
    ∀ flag value, (flag, value) ∈ p.flags genesis bootstrap →
      (c.args.filter (hasFlag flag)).getLast? = some (flag ++ value)
  ordered : p.spec.args.keys.Pairwise (· < ·)

/-! ### Arguments -/

section Arguments

variable {flag value other : String} {flags : List (String × String)}

theorem hasFlag_append (flag value : String) : hasFlag flag (flag ++ value) = true := by
  unfold hasFlag
  rw [List.isPrefixOf_iff_prefix, String.toList_append]
  exact List.prefix_append _ _

/-- No flag of the harness begins an argument that stands under another of its flags. -/
theorem hasFlag_of_other (p : GroupPlan) (genesis : String) (bootstrap : Pod)
    (own : (flag, value) ∈ p.flags genesis bootstrap) {v : String}
    (h : (other, v) ∈ p.flags genesis bootstrap) (apart : other ≠ flag) :
    hasFlag flag (other ++ v) = false := by
  have known : ∀ {f w : String}, (f, w) ∈ p.flags genesis bootstrap →
      f = "--genesis-time=" ∨ f = "--bootstrap=" ∨ f = "--poet-server=" := by
    intro f w hf
    unfold GroupPlan.flags at hf
    rcases List.mem_cons.1 hf with hf | hf
    · exact .inl (Prod.mk.inj hf).1
    · split at hf
      · cases hf
      · simp only [List.mem_cons, Prod.mk.injEq, List.not_mem_nil, or_false] at hf
        exact .inr (hf.imp And.left And.left)
  unfold hasFlag
  rw [String.toList_append]
  rcases known own with rfl | rfl | rfl <;> rcases known h with rfl | rfl | rfl <;>
    first | rfl | exact absurd rfl apart

theorem filter_hasFlag (nodup : (flags.map Prod.fst).Nodup)
    (apart : ∀ f v, (f, v) ∈ flags → f ≠ flag → hasFlag flag (f ++ v) = false)
    (mem : (flag, value) ∈ flags) :
    (flags.map fun (f, v) => f ++ v).filter (hasFlag flag) = [flag ++ value] := by
  induction flags with
  | nil => cases mem
  | cons first rest ih =>
    obtain ⟨f, v⟩ := first
    rw [List.map_cons, List.nodup_cons] at nodup
    have later : ∀ g w, (g, w) ∈ rest → g ≠ flag → hasFlag flag (g ++ w) = false :=
      fun g w hg => apart g w (List.mem_cons_of_mem _ hg)
    rw [List.map_cons]
    rcases List.mem_cons.1 mem with own | mem
    · cases own
      have none : (rest.map fun (f, v) => f ++ v).filter (hasFlag flag) = [] := by
        rw [List.filter_eq_nil_iff]
        intro a ha
        obtain ⟨⟨g, w⟩, hg, rfl⟩ := List.mem_map.1 ha
        have differs : g ≠ flag := by
          rintro rfl
          exact nodup.1 (List.mem_map.2 ⟨(_, w), hg, rfl⟩)
        rw [later g w hg differs]
        exact Bool.false_ne_true
      rw [List.filter_cons_of_pos (hasFlag_append flag value), none]
    · have differs : f ≠ flag := by
        rintro rfl
        exact nodup.1 (List.mem_map.2 ⟨(f, value), mem, rfl⟩)
      have skipped : ¬ hasFlag flag (f ++ v) = true := by
        rw [apart f v List.mem_cons_self differs]
        exact Bool.false_ne_true
      rw [List.filter_cons_of_neg skipped]
      exact ih nodup.2 later mem

/-- Whatever stands in front of them, the last argument under a flag is the harness's. -/
theorem GroupPlan.getLast?_flags (p : GroupPlan) (genesis : String) (bootstrap : Pod)
    (mem : (flag, value) ∈ p.flags genesis bootstrap) {own args : List String}
    (told : args = own ++ (p.flags genesis bootstrap).map (fun (f, v) => f ++ v)) :
    (args.filter (hasFlag flag)).getLast? = some (flag ++ value) := by
  have nodup : ((p.flags genesis bootstrap).map Prod.fst).Nodup := by
    unfold flags
    split
    · show ["--genesis-time="].Nodup
      decide
    · show ["--genesis-time=", "--bootstrap=", "--poet-server="].Nodup
      decide
  have last : ((p.flags genesis bootstrap).map fun (f, v) => f ++ v).filter (hasFlag flag) =
      [flag ++ value] :=
    filter_hasFlag nodup (fun f v hf => hasFlag_of_other p genesis bootstrap mem hf) mem
  rw [told, List.filter_append, last, List.getLast?_concat]

theorem GroupPlan.configured_renderedArgs (p : GroupPlan) : p.Configured p.spec.renderedArgs := by
  unfold Configured NodeSpec.renderedArgs
  rw [List.forall₂_map_right_iff]
  exact List.forall₂_same.2 fun (_, value) _ => ⟨value.show, value.shown_show, rfl⟩

end Arguments

/-! ### Deployments -/

section Deployments

variable {override pool genesis : String} {pod : Pod} {p : GroupPlan}

theorem clientArgs_eq (bootstrap : Pod) :
    clientArgs bootstrap = ["--bootstrap=" ++ (bootstrap.address ++ ":7513"),
      "--poet-server=" ++ (bootstrap.address ++ ":80")] := by
  have link : ∀ flag port : String, toString flag ++ toString bootstrap.address ++ toString ":" ++
      toString port = flag ++ (bootstrap.address ++ (":" ++ port)) := by
    intro flag port
    rw [String.append_assoc, String.append_assoc]
    rfl
  unfold clientArgs
  rw [List.cons.injEq, List.cons.injEq]
  exact ⟨link _ "7513", link _ "80", rfl⟩

namespace GroupPlan

/-- The nodes of the group, with the image that they get. -/
def node (p : GroupPlan) (override : String) : NodeSpec := { p.spec with image := p.image override }

theorem deployedAs {place : Placement} {more : List String} {rest : List Container}
    (pinned : place.pool = some pool)
    (told : genesisArg place.genesis :: more =
      (p.flags place.genesis pod).map fun (flag, value) => flag ++ value) :
    DeployedAs override pool place.genesis pod p (place.deployment p.name p.spec.replicas
      ((p.node override).container place.genesis more :: rest)) where
  name := rfl
  pinned := ⟨_, rfl, pinned⟩
  selector := by
    unfold Placement.deployment
    rw [pinned]
    rfl
  node := by
    have args : ((p.node override).container place.genesis more).args = p.spec.renderedArgs ++
        (p.flags place.genesis pod).map fun (flag, value) => flag ++ value := by
      rw [← told]
      rfl
    exact ⟨(p.node override).container place.genesis more, p.spec.renderedArgs, rfl, rfl, rfl,
      p.configured_renderedArgs, args, fun _ _ mem => p.getLast?_flags place.genesis pod mem args⟩
  ordered := by
    unfold Keyed.keys
    rw [List.pairwise_map]
    exact p.spec.args.sorted

theorem deployedAs_bootstrap {place : Placement} (pinned : place.pool = some pool)
    (name : p.name = "bootstrap") :
    DeployedAs override pool place.genesis pod p (place.bootstrap (p.node override)) := by
  unfold Placement.bootstrap bootstrapGroup
  rw [← name]
  apply deployedAs pinned
  unfold flags
  rw [if_pos name]
  rfl

theorem deployedAs_clients {place : Placement} (pinned : place.pool = some pool)
    (name : p.name ≠ "bootstrap") :
    DeployedAs override pool place.genesis pod p (place.clients p.name (p.node override) pod) := by
  apply deployedAs pinned
  unfold flags
  rw [if_neg name, clientArgs_eq]
  rfl

end GroupPlan

namespace Blueprint

variable (b : Blueprint) (override : String)

theorem map_spec_groupPlans : b.groupPlans.map (·.spec) = b.groups := by
  unfold groupPlans groups
  cases b.clientv2 <;> rfl

/-- The groups of a blueprint with overridden images are its groups with the images they get. -/
theorem overrideImages_eq :
    (b.overrideImages override).bootstrap =
        GroupPlan.node ⟨"bootstrap", b.bootstrap, false⟩ override ∧
    (b.overrideImages override).client = GroupPlan.node ⟨"client", b.client, false⟩ override ∧
    (b.overrideImages override).clientv2.map (·.node) = b.clientv2.map fun v2 =>
      GroupPlan.node ⟨"clientv2", v2.node, v2.keepsImage⟩ override := by
  have other := b.reimaged_overrideImages override
  rw [other.bootstrap, other.client, other.clientv2]
  unfold GroupPlan.node GroupPlan.image
  simp only [Bool.false_eq_true, or_false, true_and]
  cases b.clientv2 <;> rfl

end Blueprint

theorem Placement.groups_deployedAs (place : Placement) (pinned : place.pool = some pool)
    (b : Blueprint) (override : String) (pod : Pod) :
    List.Forall₂ (DeployedAs override pool place.genesis pod) b.groupPlans
      ((place.groups (b.overrideImages override) pod).map Prod.snd) := by
  obtain ⟨bootstrap, client, second⟩ := b.overrideImages_eq override
  have client_ne : "client" ≠ "bootstrap" := by decide
  have second_ne : "clientv2" ≠ "bootstrap" := by decide
  unfold groups Blueprint.groupPlans
  rw [bootstrap, client]
  refine .cons (GroupPlan.deployedAs_bootstrap pinned rfl)
    (.cons (GroupPlan.deployedAs_clients pinned client_ne) ?_)
  cases v2 : b.clientv2 with
  | none =>
    rw [v2, Option.map_none, Option.map_eq_none_iff] at second
    rw [second]
    exact .nil
  | some own =>
    rw [v2, Option.map_some, Option.map_eq_some_iff] at second
    obtain ⟨v2', overridden, node⟩ := second
    rw [overridden]
    refine .cons ?_ .nil
    dsimp only
    rw [node]
    exact GroupPlan.deployedAs_clients pinned second_ne

end Deployments

/-! ### Sizes -/

/-- The megabytes that a container requests, none when it names no memory. -/
def Container.requestedMemory (c : Container) : Except ConfigCause Nat :=
  match c.resources.bind (·.requests.get? "memory") with
  | none => .ok 0
  | some size => MemorySize.parse size

/-- All nodes of a deployment together request so many megabytes. -/
def Manifest.Requests (m : Manifest) (total : Nat) : Prop :=
  ∃ replicas template c pod, m.deployment? = some (replicas, template) ∧ m.node? = some c ∧
    c.requestedMemory = .ok pod ∧ total = pod * replicas.toNat

/-- All nodes of a group together need so many megabytes. -/
def NodeSpec.Needs (s : NodeSpec) (total : Nat) : Prop :=
  ∃ pod, s.requestedMemory = .ok pod ∧ total = pod * s.podCount

section Sizes

variable {override pool genesis : String} {pod : Pod}

theorem DeployedAs.requests {p : GroupPlan} {m : Manifest} {k : Nat}
    (h : DeployedAs override pool genesis pod p m) (needs : p.spec.Needs k) : m.Requests k := by
  obtain ⟨template, deployment, -⟩ := h.pinned
  obtain ⟨c, -, node, -, resources, -⟩ := h.node
  obtain ⟨memory, requested, rfl⟩ := needs
  refine ⟨_, template, c, memory, deployment, node, ?_, rfl⟩
  unfold Container.requestedMemory
  rw [resources]
  exact requested

theorem requests_of_deployedAs {plans : List GroupPlan} {ms : List Manifest} {sizes : List Nat}
    (deployed : List.Forall₂ (DeployedAs override pool genesis pod) plans ms)
    (needs : List.Forall₂ NodeSpec.Needs (plans.map (·.spec)) sizes) :
    List.Forall₂ Manifest.Requests ms sizes := by
  induction deployed generalizing sizes with
  | nil =>
    cases needs
    exact .nil
  | cons first _ ih =>
    cases needs with
    | cons needs rest => exact .cons (first.requests needs) (ih rest)

/-- A sum that stops at a cap is the sum of what the groups need, up to the cap. -/
theorem addGroupMemory_eq_ok {specs : List NodeSpec} {total result : Nat}
    (capped : total ≤ memoryCap) (h : addGroupMemory total specs = .ok result) :
    ∃ sizes, List.Forall₂ NodeSpec.Needs specs sizes ∧
      result = min (total + sizes.sum) memoryCap := by
  induction specs generalizing total with
  | nil =>
    cases h
    exact ⟨[], .nil, (min_eq_left capped).symm⟩
  | cons s rest ih =>
    unfold addGroupMemory NodeSpec.groupMemory at h
    cases memory : s.requestedMemory with
    | error cause =>
      rw [memory] at h
      cases h
    | ok pod =>
      rw [memory] at h
      obtain ⟨sizes, needs, sum⟩ := ih (min_le_right _ _) h
      refine ⟨pod * s.podCount :: sizes, .cons ⟨pod, memory, rfl⟩ needs, ?_⟩
      rw [sum, List.sum_cons]
      omega

end Sizes

/-! ### What a run deploys -/

/-- The deployment of nodes that is asked for. -/
def Deed.createdNode? : Deed → Option Manifest
  | asked (.create _ m) _ => if m.node?.isSome then some m else none
  | _ => none

def createdNodes (t : List Deed) : List Manifest := t.filterMap Deed.createdNode?

/-- The pool of machines that is asked for. -/
def Deed.createdPool? : Deed → Option PoolRequest
  | asked (.createPool r) _ => some r
  | _ => none

def createdPools (t : List Deed) : List PoolRequest := t.filterMap Deed.createdPool?

/-- By the trace of a run of a blueprint under other images, or none, the deployments of an
environment are as planned: one pool was asked for, and the clients are pointed at a pod. -/
structure AsPlanned (b : Blueprint) (override : String) (env : Environment) (request : PoolRequest)
    (pod : Pod) (t : List Deed) : Prop where
  pool : createdPools t = [request]
  /-- The pod is the first one of the bootstrap group as it was found. -/
  bootstrap : ∃ pods, (answersTo (.listPods env.ns "app=bootstrap") t).getLast? = some (.ok pods) ∧
    pods.head? = some pod
  groups : ∃ genesis, env.genesis.Denotes genesis ∧
    List.Forall₂ (DeployedAs override request.name genesis pod) b.groupPlans (createdNodes t)
  /-- The pool has the machines for all that the deployments request. -/
  sized : ∃ sizes machine, List.Forall₂ Manifest.Requests (createdNodes t) sizes ∧
    MemorySize.parse b.pool.nodeMemory = .ok machine ∧
    request.nodes = nodesFor (min sizes.sum memoryCap) machine

section AsPlanned

variable {ns : String} {groups : List (NodeSpec × Manifest)} {g : NodeGroup} {gs : List NodeGroup}
  {t n : List Deed} {b : Blueprint} {override : String} {env : Environment} {request : PoolRequest}
  {pod : Pod}

theorem createdNodes_append (t n : List Deed) :
    createdNodes (t ++ n) = createdNodes t ++ createdNodes n := List.filterMap_append

theorem createdPools_append (t n : List Deed) :
    createdPools (t ++ n) = createdPools t ++ createdPools n := List.filterMap_append

theorem createdNodes_workOf (t : List Deed) : createdNodes (workOf t) = createdNodes t := by
  apply filterMap_workOf
  intro d idle
  cases d with
  | asked c x =>
    cases c with
    | create ns m =>
      have other : m.node?.isSome = false := idle
      simp only [Deed.createdNode?, other, Bool.false_eq_true, if_false]
    | _ => rfl
  | _ => rfl

theorem createdPools_workOf (t : List Deed) : createdPools (workOf t) = createdPools t := by
  apply filterMap_workOf
  intro d idle
  cases d with
  | asked c x =>
    cases c with
    | createPool r => cases idle
    | _ => rfl
  | _ => rfl

theorem workOf_of_closes {date : String} (later : ∀ d ∈ n, d.Closes date) : workOf n = [] := by
  unfold workOf
  rw [List.filter_eq_nil_iff]
  intro d hd
  have closes := later d hd
  cases d with
  | asked c x =>
    cases c with
    | create | createPool | listPods => exact closes.elim
    | _ => exact Bool.false_ne_true
  | _ => exact Bool.false_ne_true

theorem Deployed.created {group : NodeSpec × Manifest} (h : Deployed ns group g n)
    (nodes : group.2.node?.isSome = true) :
    createdNodes n = [group.2] ∧ createdPools n = [] := by
  obtain ⟨lists, -, rfl⟩ := h.work
  have quiet : ∀ {α : Type} {f : Deed → Option α},
      (∀ x, f (.asked (.listPods ns (podSelector g.name)) x) = none) →
      (lists.map (.asked (.listPods ns (podSelector g.name)))).filterMap f = [] := by
    intro α f none
    rw [List.filterMap_eq_nil_iff]
    intro d hd
    obtain ⟨x, -, rfl⟩ := List.mem_map.1 hd
    exact none x
  have own : Deed.createdNode? (.asked (.create ns group.2) (.ok ())) = some group.2 := if_pos nodes
  unfold createdNodes createdPools
  rw [List.filterMap_cons, List.filterMap_cons, own, quiet fun _ => rfl, quiet fun _ => rfl]
  exact ⟨rfl, rfl⟩

theorem AllDeployed.created (h : AllDeployed ns groups gs n)
    (nodes : ∀ group ∈ groups, group.2.node?.isSome = true) :
    createdNodes n = groups.map Prod.snd ∧ createdPools n = [] := by
  induction h with
  | nil => exact ⟨rfl, rfl⟩
  | cons first rest ih =>
    obtain ⟨node, none⟩ := first.created (nodes _ List.mem_cons_self)
    obtain ⟨others, none'⟩ := ih fun group hgroup => nodes group (List.mem_cons_of_mem _ hgroup)
    rw [createdNodes_append, createdPools_append, node, others, none, none']
    exact ⟨rfl, rfl⟩

theorem AsPlanned.of_work (h : AsPlanned b override env request pod t)
    (same : workOf n = workOf t) : AsPlanned b override env request pod n := by
  have nodes : createdNodes n = createdNodes t := by
    rw [← createdNodes_workOf, same, createdNodes_workOf]
  have pools : createdPools n = createdPools t := by
    rw [← createdPools_workOf, same, createdPools_workOf]
  have lists : answersTo (.listPods env.ns "app=bootstrap") n =
      answersTo (.listPods env.ns "app=bootstrap") t := by
    rw [← answersTo_filter (p := Deed.isWork) (fun _ => rfl) n,
      ← answersTo_filter (p := Deed.isWork) (fun _ => rfl) t]
    exact congrArg (answersTo _) same
  constructor
  · exact pools.trans h.pool
  · rw [lists]
    exact h.bootstrap
  · rw [nodes]
    exact h.groups
  · rw [nodes]
    exact h.sized

theorem AsPlanned.grow {date : String} (h : AsPlanned b override env request pod t)
    (later : ∀ d ∈ n, d.Closes date) : AsPlanned b override env request pod (t ++ n) := by
  apply h.of_work
  rw [workOf_append, workOf_of_closes later, List.append_nil]

theorem Placement.node?_groups {place : Placement} {pod : Pod} {group : NodeSpec × Manifest}
    (h : group ∈ place.groups b pod) : group.2.node?.isSome = true := by
  unfold groups at h
  rcases List.mem_cons.1 h with rfl | h
  · rfl
  rcases List.mem_cons.1 h with rfl | h
  · rfl
  · cases second : b.clientv2 with
    | none =>
      rw [second] at h
      cases h
    | some v2 =>
      rw [second] at h
      rw [List.mem_singleton.1 h]
      rfl

theorem NodeGroup.head?_of_firstPod {g : NodeGroup} (h : g.firstPod = .ok pod) :
    g.pods.head? = some pod := by
  unfold firstPod at h
  split at h
  · cases h
  next first =>
    cases h
    rw [first]
    rfl

theorem Blueprint.planPool_ok (h : b.planPool ns = .ok request) :
    ∃ sizes machine, List.Forall₂ NodeSpec.Needs b.groups sizes ∧
      MemorySize.parse b.pool.nodeMemory = .ok machine ∧
      request.nodes = nodesFor (min sizes.sum memoryCap) machine := by
  unfold planPool at h
  cases machine : MemorySize.parse b.pool.nodeMemory with
  | error cause =>
    rw [machine] at h
    cases h
  | ok size =>
    rw [machine] at h
    cases memory : b.requestedMemory with
    | error cause =>
      rw [memory] at h
      cases h
    | ok total =>
      rw [memory] at h
      cases h
      obtain ⟨sizes, needs, rfl⟩ := addGroupMemory_eq_ok (Nat.zero_le _) memory
      rw [Nat.zero_add]
      exact ⟨sizes, size, needs, rfl, rfl⟩

/-- What has been brought up is as planned, by a trace with just the work on it. -/
theorem BroughtUp.asPlanned {l l' : Lifecycle} {begun : Timestamp}
    (h : BroughtUp (l.begun begun) env l' n) (work : workOf t = n) :
    ∃ request pod, AsPlanned l.blueprint l.settings.imageOverride env request pod t := by
  obtain ⟨request, pod, k, planned, -, -, first, all, rfl⟩ := h.work
  have overridden : (l.begun begun).blueprint =
      l.blueprint.overrideImages l.settings.imageOverride := rfl
  rw [overridden] at planned all
  obtain ⟨nodes, none⟩ := all.created fun _ => Placement.node?_groups
  have deployed := Placement.groups_deployedAs ⟨env.ns, some request.name, env.genesis.text⟩ rfl
    l.blueprint l.settings.imageOverride pod
  rw [← nodes] at deployed
  rw [Blueprint.planPool_overrideImages] at planned
  obtain ⟨sizes, machine, needs, parsed, count⟩ := Blueprint.planPool_ok planned
  rw [← Blueprint.map_spec_groupPlans] at needs
  refine ⟨request, pod, ?_⟩
  have planned : AsPlanned l.blueprint l.settings.imageOverride env request pod
      (.asked (.createPool request) (.ok ()) :: k) := by
    constructor
    · show request :: createdPools k = _
      rw [none]
    · have names := all.names
      have found := all.found (Placement.nodup_groups _ _ _)
      rw [Placement.names_groups] at names
      have name : env.network.bootstrap.name = "bootstrap" := (List.cons.inj names).1
      obtain ⟨earlier, answers, -⟩ := (List.forall₂_cons.1 found).1.listed
      rw [name] at answers
      refine ⟨env.network.bootstrap.pods, ?_, NodeGroup.head?_of_firstPod first⟩
      show (answersTo (.listPods env.ns "app=bootstrap") k).getLast? = _
      rw [show "app=bootstrap" = "app=" ++ "bootstrap" from rfl, answers, List.getLast?_concat]
    · exact ⟨_, env.genesis.denotes_text, deployed⟩
    · exact ⟨sizes, machine, requests_of_deployedAs deployed needs, parsed, count⟩
  apply planned.of_work
  have own : workOf t = workOf (workOf t) := by
    unfold workOf
    rw [List.filter_filter]
    simp only [Bool.and_self]
  rw [own, work]

theorem asPlanned_lasting (l : Lifecycle) (begun : Timestamp) : Lasting l begun fun env t =>
    ∃ request pod, AsPlanned l.blueprint l.settings.imageOverride env request pod t where
  established brought work _ := brought.asPlanned work
  kept := by
    rintro env t n ⟨request, pod, planned⟩ later
    exact ⟨request, pod, planned.grow later⟩

end AsPlanned

/-- Whatever is asked of a run, in whatever order and in whatever world, behind each environment
that is handed over stand the deployments that were planned. -/
theorem handed_over_as_planned {σ : Type} [Services σ] (b : Blueprint) (st : Settings)
    (draws : SuffixDraws) (born : Timestamp) (world : σ) (clock : Duration)
    (calendar : Duration → Timestamp) (patience : Nat) (requests : List Request)
    {env : Environment} {ended : Except Halt (List Response × Lifecycle) × Session σ}
    (run : (performAll requests).exec (.create b st draws born)
      ⟨world, clock, calendar, patience, []⟩ = ended)
    (given : env ∈ handedOver (responsesOf ended.1) ended.2.deeds) :
    ∃ request pod, AsPlanned b st.imageOverride env request pod ended.2.deeds :=
  (asPlanned_lasting (.create b st draws born) (calendar clock)).handed run given

/-- Under the image that is asked for, all groups of a mixed network are deployed as planned. -/
theorem handed_over_as_planned_mixed :
    let ended := (performAll [.setup false]).exec
      (.create .mixed { (default : Settings) with imageOverride := "new" } (.ofNat 0) ⟨0⟩)
      Biased.willing.session
    ∃ env ∈ handedOver (responsesOf ended.1) ended.2.deeds,
      (∃ request pod, AsPlanned .mixed "new" env request pod ended.2.deeds) ∧
      createdPools ended.2.deeds = [⟨"pool-" ++ env.ns, 2, "n1-standard-4", 100⟩] ∧
      (createdNodes ended.2.deeds).filterMap (fun m => m.node?.map fun c => (c.image, c.args)) =
        [("new", ["--genesis-time=1970-01-01T00:00:00Z"]),
         ("new", ["--accel=true", "--bootstrap=none", "--rate=-0.25", "--seed=-3",
            "--genesis-time=1970-01-01T00:00:00Z", "--bootstrap=10.0.0.1:7513",
            "--poet-server=10.0.0.1:80"]),
         ("old", ["--genesis-time=1970-01-01T00:00:00Z", "--bootstrap=10.0.0.1:7513",
            "--poet-server=10.0.0.1:80"])] := by
  intro ended
  have some_ : (handedOver (responsesOf ended.1) ended.2.deeds).any (fun env =>
      createdPools ended.2.deeds == [⟨"pool-" ++ env.ns, 2, "n1-standard-4", 100⟩]) = true := by
    decide +kernel
  obtain ⟨env, given, pools⟩ := List.any_eq_true.1 some_
  refine ⟨env, given, ?_, eq_of_beq pools, by decide +kernel⟩
  exact handed_over_as_planned .mixed _ (.ofNat 0) ⟨0⟩ Biased.willing .zero (fun _ => ⟨0⟩) 1 _ rfl
    given

end ProvingGround
