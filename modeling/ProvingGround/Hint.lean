import ProvingGround.Phase

/-!
# Diagnostic hints

When setup fails in a phase, a hint names likely causes and commands worth running, with the names
of the run filled in.
-/

namespace ProvingGround

/-! ### Names used across a run -/

def indexerName : String := "elasticsearch"

def collectorName : String := "fluent-bit"

def dashboardName : String := "kibana"

def bootstrapGroup : String := "bootstrap"

def timingContainer : String := "poet"

def poolName (ns : String) : String := "pool-" ++ ns

/-! ### Hints -/

/-- A command worth running. -/
structure HintCommand where
  description : String
  command : String
  deriving DecidableEq, Repr

/-- Likely causes of a failure and commands to look into it. -/
structure Hint where
  summary : String
  causes : List String
  commands : List HintCommand
  deriving DecidableEq, Repr

namespace Hint

def events (ns : String) : HintCommand :=
  ⟨"Recent events in namespace",
   s!"kubectl get events -n {ns} --sort-by='.lastTimestamp' | tail -20"⟩

/-- When the namespace could not be created. -/
def provisioning (ns : String) : Hint where
  summary := "Namespace could not be created"
  causes :=
    ["Namespace left over from an earlier run with the same name",
     "Credentials lack permission to create namespaces"]
  commands :=
    [⟨"Check whether the namespace exists", s!"kubectl get namespace {ns} -o wide"⟩,
     ⟨"Check permissions", "kubectl auth can-i create namespaces"⟩]

/-- When the logging stack did not come up. -/
def logging (ns : String) : Hint where
  summary := "Logging stack did not become ready"
  causes :=
    ["Elasticsearch pod pending for lack of memory",
     "Fluent Bit pods crashing on a bad configuration",
     "Kibana cannot reach Elasticsearch"]
  commands :=
    [⟨"Check logging workloads",
      s!"kubectl get statefulset/{indexerName} daemonset/{collectorName} " ++
        s!"deployment/{dashboardName} -n {ns}"⟩,
     ⟨"Check Elasticsearch logs", s!"kubectl logs -n {ns} {indexerName}-0 --tail=100"⟩,
     events ns]

/-- When the node pool did not come up. -/
def pool (ns : String) : Hint where
  summary := "Node pool did not come up or log collector did not cover it"
  causes :=
    ["Compute quota exceeded in the cluster zone",
     "Machine type unavailable in the zone",
     "Fluent Bit pods not scheduled on the new nodes"]
  commands :=
    [⟨"Check node pool status", s!"gcloud container node-pools describe {poolName ns}"⟩,
     ⟨"Check pool nodes",
      s!"kubectl get nodes -l cloud.google.com/gke-nodepool={poolName ns}"⟩,
     ⟨"Check collector daemon", s!"kubectl describe daemonset {collectorName} -n {ns}"⟩]

/-- When the bootstrap node or its timing service did not come up. -/
def bootstrap (ns : String) : Hint where
  summary := "Bootstrap node or timing service not ready"
  causes :=
    ["Image pull failed (ImagePullBackOff)",
     "Node container crashing on startup",
     "Timing service never started its REST proxy",
     "Timing service rejected the start call"]
  commands :=
    [⟨"Check bootstrap pods", s!"kubectl get pods -n {ns} -l app={bootstrapGroup} -o wide"⟩,
     ⟨"Check timing service log",
      s!"kubectl logs -n {ns} -l app={bootstrapGroup} -c {timingContainer} --tail=100"⟩,
     events ns]

/-- When client nodes did not come up. -/
def clients (ns : String) : Hint where
  summary := "Client nodes not ready"
  causes :=
    ["Pods pending because the node pool is too small",
     "Image pull failed (ImagePullBackOff)",
     "Clients crashing while connecting to the bootstrap node"]
  commands :=
    [⟨"Check client pods",
      s!"kubectl get pods -n {ns} -l 'app in (client,clientv2)' -o wide"⟩,
     ⟨"Describe pending pods",
      s!"kubectl describe pods -n {ns} --field-selector=status.phase=Pending"⟩,
     events ns]

/-- When setup failed anywhere else. -/
def general (ns : String) : Hint where
  summary := "Setup failed outside a deployment phase"
  causes := ["Cluster API unavailable"]
  commands := [⟨"Check all pods", s!"kubectl get pods -n {ns} -o wide"⟩, events ns]

/-- The hint for a failure in a phase of the run in a namespace. -/
def forPhase (p : Phase) (ns : String) : Hint :=
  match p with
  | .provisioning => provisioning ns
  | .loggingReady => logging ns
  | .poolScaled => pool ns
  | .bootstrapReady => bootstrap ns
  | .clientsReady => clients ns
  | _ => general ns

theorem commands_forPhase_ne_nil (p : Phase) (ns : String) : (forPhase p ns).commands ≠ [] := by
  cases p <;> simp [forPhase, provisioning, logging, pool, bootstrap, clients, general]

def commandText (number : Nat) (c : HintCommand) : String :=
  s!"  {number}. {c.description}\n     $ {c.command}\n"

def text (h : Hint) : String :=
  let causes := h.causes.map fun c => s!"  - {c}\n"
  let commands := h.commands.zipIdx.map fun (c, i) => commandText (i + 1) c
  s!"Issue: {h.summary}\nCommon causes:\n" ++ String.join causes ++
    "Diagnostic commands:\n" ++ String.join commands

end Hint

end ProvingGround
