import ProvingGround.Lifecycle.Setup
import ProvingGround.Proofs.Trace.Checks
import ProvingGround.Proofs.Trace.Kinds

/-!
# The law of setup

When setup may make a call, by what happened before. What has to have happened is said of the whole
trace, so that it stays true as the trace grows.
-/

namespace ProvingGround

open Text

/-! ### What has happened -/

def Claimed (ns : String) (t : List Deed) : Prop := .asked (.createNamespace ns) (.ok ()) ∈ t

/-- A namespace has been created and then objects in it, in order. -/
def CreatedInOrder (ns : String) (objects : List Manifest) (t : List Deed) : Prop :=
  (.asked (.createNamespace ns) (.ok ()) ::
    objects.map fun m => .asked (.create ns m) (.ok ())).Sublist t

/-- In one pass, every workload of the logging stack has been reported to serve. -/
def LoggingServed (ns : String) (t : List Deed) : Prop :=
  ∃ n, ServingPass ns loggingWorkloads n ∧ n <:+: t

/-- A pool has been created, then reported to run, then reported to be covered. -/
def PoolUsable (ns : String) (r : PoolRequest) (t : List Deed) : Prop :=
  ∃ counts : ReplicaCounts, counts.covers r.nodes = true ∧
    [.asked (.createPool r) (.ok ()), .asked (.poolStatus r.name) (.ok (some .running)),
      .asked (.workloadStatus ns collectorWorkload) (.ok (some counts))].Sublist t

/-- The pods of a group have been listed as the whole group. -/
def GroupUp (ns group : String) (replicas : Int) (pods : List Pod) (t : List Deed) : Prop :=
  isWholeGroup (wantedPods replicas) pods = true ∧
    .asked (.listPods ns (podSelector group)) (.ok pods) ∈ t

/-- The bootstrap group has been listed as whole, and then the timing service of its first pod has
logged that it listens. -/
def TimingListens (ns : String) (replicas : Int) (pod : Pod) (t : List Deed) : Prop :=
  ∃ pods log, isWholeGroup (wantedPods replicas) pods = true ∧ pods.head? = some pod ∧
    holds log timingPhrase = true ∧
    [.asked (.listPods ns (podSelector bootstrapGroup)) (.ok pods),
      .asked (.podLogs ns pod.name timingContainer) (.ok log)].Sublist t

def TimingStarted (ns : String) (pod : Pod) (t : List Deed) : Prop :=
  ∃ response, trim response = "\x7b\x7d" ∧
    .asked (.startTiming ns pod timingStart) (.ok response) ∈ t

section Growing

variable {ns : String} {t n : List Deed}

theorem Claimed.grow (h : Claimed ns t) : Claimed ns (t ++ n) := List.mem_append_left n h

theorem CreatedInOrder.claimed {objects : List Manifest} (h : CreatedInOrder ns objects t) :
    Claimed ns t :=
  h.subset List.mem_cons_self

theorem CreatedInOrder.concat {objects : List Manifest} {m : Manifest}
    (h : CreatedInOrder ns objects t) :
    CreatedInOrder ns (objects ++ [m]) (t ++ [.asked (.create ns m) (.ok ())]) := by
  unfold CreatedInOrder
  rw [List.map_append, ← List.cons_append]
  exact List.Sublist.append h (List.Sublist.refl _)

theorem LoggingServed.grow (h : LoggingServed ns t) : LoggingServed ns (t ++ n) := by
  obtain ⟨pass, hp, ht⟩ := h
  exact ⟨pass, hp, ht.trans (List.prefix_append t n).isInfix⟩

theorem PoolUsable.grow {r : PoolRequest} (h : PoolUsable ns r t) : PoolUsable ns r (t ++ n) := by
  obtain ⟨counts, hc, ht⟩ := h
  exact ⟨counts, hc, ht.trans (List.sublist_append_left t n)⟩

theorem GroupUp.grow {group : String} {replicas : Int} {pods : List Pod}
    (h : GroupUp ns group replicas pods t) : GroupUp ns group replicas pods (t ++ n) :=
  ⟨h.1, List.mem_append_left n h.2⟩

theorem TimingStarted.grow {pod : Pod} (h : TimingStarted ns pod t) :
    TimingStarted ns pod (t ++ n) := by
  obtain ⟨response, hr, ht⟩ := h
  exact ⟨response, hr, List.mem_append_left n ht⟩

end Growing

/-! ### The law -/

def Manifest.pool? (m : Manifest) : Option String := m.deployment?.bind fun d => d.2.pool

/-- When an object may be created in a namespace: one of the logging stack after those before it,
the bootstrap group when the pool can be used, and so on. -/
inductive MayCreate (b : Blueprint) (store : StoreSettings) (ns : String) (t : List Deed) :
    Manifest → Prop where
  | logging {earlier m later} (stack : loggingStack ns store = earlier ++ m :: later)
    (created : CreatedInOrder ns earlier t) : MayCreate b store ns t m
  | bootstrap {m r} (name : m.name = bootstrapGroup) (pool : m.pool? = some r.name)
    (own : r.name = poolName ns) (usable : PoolUsable ns r t) : MayCreate b store ns t m
  | client {m pod} (name : m.name = clientGroup) (pool : m.pool? = some (poolName ns))
    (started : TimingStarted ns pod t) : MayCreate b store ns t m
  | second {m pods} (name : m.name = secondClientGroup) (pool : m.pool? = some (poolName ns))
    (clients : GroupUp ns clientGroup b.client.replicas pods t) : MayCreate b store ns t m

theorem mem_of_split {objects earlier later : List Manifest} {m : Manifest}
    (h : objects = earlier ++ m :: later) : m ∈ objects := by
  rw [h]
  exact List.mem_append_right earlier List.mem_cons_self

theorem name_of_mem_loggingStack {ns : String} {store : StoreSettings} {m : Manifest}
    (h : m ∈ loggingStack ns store) :
    m.name ≠ bootstrapGroup ∧ m.name ≠ clientGroup ∧ m.name ≠ secondClientGroup := by
  have names : ∀ s ∈ [indexerName, indexerName, collectorName, collectorName, dashboardName,
      dashboardName], s ≠ bootstrapGroup ∧ s ≠ clientGroup ∧ s ≠ secondClientGroup := by
    decide
  have hm : m.name ∈ (loggingStack ns store).map Manifest.name := List.mem_map_of_mem h
  exact names _ hm

def MayCall (b : Blueprint) (store : StoreSettings) (t : List Deed) : Call → Prop
  | .listNamespaces => True
  | .createNamespace ns =>
    (∃ names, .asked .listNamespaces (.ok names) ∈ t ∧ ns ∉ names) ∧
      ∀ other x, .asked (.createNamespace other) x ∉ t
  | .create ns m => Claimed ns t ∧ m.ns = ns ∧ MayCreate b store ns t m
  | .listPods ns _ => Claimed ns t
  | .podLogs ns pod _ =>
    Claimed ns t ∧ ∃ pods first, GroupUp ns bootstrapGroup b.bootstrap.replicas pods t ∧
      pods.head? = some first ∧ first.name = pod
  | .workloadStatus ns _ => Claimed ns t
  | .createPool r => ∃ ns, Claimed ns t ∧ r.name = poolName ns ∧ LoggingServed ns t
  | .poolStatus name => ∃ ns, Claimed ns t ∧ name = poolName ns
  | .startTiming ns pod _ => Claimed ns t ∧ TimingListens ns b.bootstrap.replicas pod t
  | .serviceAddress .. => False
  | .submit .. => False

/-- The law of setup: its own calls when they may be made, and no scenario. -/
def SetupLaw (b : Blueprint) (store : StoreSettings) (t : List Deed) : Deed → Prop
  | .asked c _ => MayCall b store t c
  | .entered _ => True
  | .probed .. => False
  | .began .. => False

theorem begun_of_setupLaw {b : Blueprint} {store : StoreSettings} {t n : List Deed}
    (lawful : Lawful (SetupLaw b store) t n) : n.filterMap Deed.begun? = [] := by
  rw [List.filterMap_eq_nil_iff]
  intro d hd
  obtain ⟨pre, h⟩ := lawful.mem hd
  cases d with
  | began => exact h.elim
  | asked | probed | entered => rfl

theorem setupLaw_overrideImages {b : Blueprint} {image : String} {store : StoreSettings}
    {t : List Deed} {d : Deed} (h : SetupLaw (b.overrideImages image) store t d) :
    SetupLaw b store t d := by
  have hb : (b.overrideImages image).bootstrap.replicas = b.bootstrap.replicas := by
    unfold Blueprint.overrideImages
    split <;> rfl
  have hc : (b.overrideImages image).client.replicas = b.client.replicas := by
    unfold Blueprint.overrideImages
    split <;> rfl
  cases d with
  | asked c x =>
    cases c with
    | create ns m =>
      obtain ⟨claimed, own, create⟩ := h
      refine ⟨claimed, own, ?_⟩
      cases create with
      | logging stack created => exact .logging stack created
      | bootstrap name pool own usable => exact .bootstrap name pool own usable
      | client name pool started => exact .client name pool started
      | second name pool clients =>
        rw [hc] at clients
        exact .second name pool clients
    | podLogs ns pod container =>
      obtain ⟨claimed, pods, first, up, head⟩ := h
      rw [hb] at up
      exact ⟨claimed, pods, first, up, head⟩
    | startTiming ns pod body =>
      obtain ⟨claimed, listens⟩ := h
      rw [hb] at listens
      exact ⟨claimed, listens⟩
    | _ => exact h
  | _ => exact h

end ProvingGround
