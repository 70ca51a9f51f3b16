import ProvingGround.Access.Kubeconfig
import ProvingGround.Api.Remote
import ProvingGround.Machine

/-!
# Connecting

Access to the cluster comes from the credentials file if it is there, even when it turns out to be
of no use; without the file the machine is asked for the account of a surrounding cluster. A
connection is made when the cluster tells its version.
-/

namespace ProvingGround

open Http

/-! ### Access -/

inductive AccessSource where
  | kubeconfig
  | surroundingCluster
  deriving DecidableEq, Repr

def accessSource (m : Machine) (c : Credentials) : AccessSource :=
  if (m.files c.kubeconfig).isFile then .kubeconfig else .surroundingCluster

/-- The directory of the account that a surrounding cluster gives. -/
def accountPath (file : String) : String :=
  s!"/var/run/secrets/kubernetes.io/serviceaccount/{file}"

/-- The variables that tell the address of a surrounding cluster. -/
def serviceVariables : List String := ["KUBERNETES_SERVICE_HOST", "KUBERNETES_SERVICE_PORT"]

def surroundingAccess (m : Machine) : Except String ClusterAccess := do
  match serviceVariables.map m.vars with
  | [some host, some port] =>
    let token ← (m.files (accountPath "token")).read
    .ok ⟨s!"https://{host}:{port}", some token⟩
  | _ => .error "failed to read an incluster environment variable"

def kubeconfigAccess (m : Machine) (c : Credentials) : Except String ClusterAccess := do
  let text ← (m.files c.kubeconfig).read
  match Kubeconfig.accessIn text c.context with
  | .ok access => .ok access
  | .error problem => .error problem.text

def machineAccess (m : Machine) (c : Credentials) : Except String ClusterAccess :=
  match accessSource m c with
  | .kubeconfig => kubeconfigAccess m c
  | .surroundingCluster => surroundingAccess m

/-- Access to the cluster; the fault names the credentials file in any case. -/
def findAccess (m : Machine) (c : Credentials) : Except Fault ClusterAccess :=
  match machineAccess m c with
  | .ok access => .ok access
  | .error reason => .error (.credentialsNotFound c.kubeconfig reason)

theorem findAccess_fault {m : Machine} {c : Credentials} {f : Fault}
    (h : findAccess m c = .error f) : ∃ reason, f = .credentialsNotFound c.kubeconfig reason := by
  unfold findAccess at h
  cases hm : machineAccess m c with
  | ok access => rw [hm] at h; cases h
  | error reason => rw [hm] at h; cases h; exact ⟨reason, rfl⟩

/-! ### Connections -/

/-- A network opens transports to clusters. -/
abbrev Net (τ : Type) := ClusterAccess → τ

/-- The machine reaches nobody. -/
def noNet : Net Offline := fun _ => {}

/-- The remote services of settings, once the cluster has told its version. -/
def connectTo {τ : Type} [Transport τ] (net : Net τ) (access : ClusterAccess) (s : Settings) :
    Except Fault (Remote τ) :=
  if access.token.all isHeaderText then
    let (reply, transport) := ClusterApi.version.run (net access) .zero
    reply.result.map fun _ => .ofSettings transport s.cloud
  else .error (ClusterApi.clientFault "the token is no header")

def connect {τ : Type} [Transport τ] (net : Net τ) (m : Machine) (s : Settings) :
    Except Fault (Remote τ) := do
  connectTo net (← findAccess m s.credentials) s

end ProvingGround
