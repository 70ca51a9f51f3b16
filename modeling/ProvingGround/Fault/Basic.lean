import ProvingGround.Fault.Config
import ProvingGround.Phase

/-!
# Faults

Everything that can stop a run, as causes, with the words for each. A fault is transient when the
same call may succeed later: the cluster or a cloud service could not be reached, was overloaded, or
failed on its own side. Polls go on after transient faults and end at any other.
-/

namespace ProvingGround

open Text

/-! ### Faults of the two kinds of service -/

/-- What the cluster says about a request it refuses. -/
structure Refusal where
  status : String
  message : String
  reason : String
  code : Nat
  deriving DecidableEq, Repr

def Refusal.text (r : Refusal) : String :=
  s!"ApiError: {r.message}: {r.reason} (ErrorResponse \x7b status: {quoted r.status}, " ++
    s!"message: {quoted r.message}, reason: {quoted r.reason}, code: {r.code} \x7d)"

inductive ClusterFault where
  /-- The cluster answered and refused. -/
  | refused (refusal : Refusal)
  /-- The exchange with the cluster failed. -/
  | exchange (message : String)
  /-- The cluster could not even be asked, or its answer not be read. -/
  | client (message : String)
  deriving DecidableEq, Repr

def ClusterFault.text : ClusterFault → String
  | refused refusal => refusal.text
  | exchange message => s!"ServiceError: {message}"
  | client message => message

/-- The usual words for an HTTP status that is an error. -/
def statusReason : Nat → Option String
  | 400 => some "Bad Request"
  | 401 => some "Unauthorized"
  | 402 => some "Payment Required"
  | 403 => some "Forbidden"
  | 404 => some "Not Found"
  | 405 => some "Method Not Allowed"
  | 406 => some "Not Acceptable"
  | 407 => some "Proxy Authentication Required"
  | 408 => some "Request Timeout"
  | 409 => some "Conflict"
  | 410 => some "Gone"
  | 411 => some "Length Required"
  | 412 => some "Precondition Failed"
  | 413 => some "Payload Too Large"
  | 414 => some "URI Too Long"
  | 415 => some "Unsupported Media Type"
  | 416 => some "Range Not Satisfiable"
  | 417 => some "Expectation Failed"
  | 418 => some "I'm a teapot"
  | 421 => some "Misdirected Request"
  | 422 => some "Unprocessable Entity"
  | 423 => some "Locked"
  | 424 => some "Failed Dependency"
  | 425 => some "Too Early"
  | 426 => some "Upgrade Required"
  | 428 => some "Precondition Required"
  | 429 => some "Too Many Requests"
  | 431 => some "Request Header Fields Too Large"
  | 451 => some "Unavailable For Legal Reasons"
  | 500 => some "Internal Server Error"
  | 501 => some "Not Implemented"
  | 502 => some "Bad Gateway"
  | 503 => some "Service Unavailable"
  | 504 => some "Gateway Timeout"
  | 505 => some "HTTP Version Not Supported"
  | 506 => some "Variant Also Negotiates"
  | 507 => some "Insufficient Storage"
  | 508 => some "Loop Detected"
  | 510 => some "Not Extended"
  | 511 => some "Network Authentication Required"
  | _ => none

def statusText (code : Nat) : String :=
  s!"{code} " ++ (statusReason code).getD "<unknown status code>"

inductive HttpFault where
  /-- An answer with an error status. -/
  | status (code : Nat) (url : String)
  /-- A request that cannot be put into the form of one. -/
  | unbuildable
  /-- Nobody answers at the address. -/
  | unreachable (url : String)
  /-- An answer whose body is not what was asked for. -/
  | undecodable (problem : String)
  deriving DecidableEq, Repr

def HttpFault.text : HttpFault → String
  | status code url =>
    let side := if code < 500 then "client" else "server"
    s!"HTTP status {side} error ({statusText code}) for url ({url})"
  | unbuildable => "builder error"
  | unreachable url => s!"error sending request for url ({url})"
  | undecodable problem => s!"error decoding response body: {problem}"

/-! ### Faults -/

/-- Why an operation failed. -/
inductive Fault where
  /-- An object of this name exists already. -/
  | duplicateResource (kind name : String)
  | credentialsNotFound (path reason : String)
  /-- A bounded wait ended without its condition. -/
  | readinessTimeout (what : String) (timeout : Duration)
  /-- The pod never logged the phrase. -/
  | dependencyNotReady (pod phrase : String) (timeout : Duration)
  /-- The timing service answered its start call with something else than an empty object. -/
  | initialization (response : String)
  | config (cause : ConfigCause)
  | cluster (fault : ClusterFault)
  | http (fault : HttpFault)
  /-- The pool or queue service refused. -/
  | cloud (message : String)
  | serialization (message : String)
  | io (message : String)
  | invalidTransition (source : Phase) (trigger : Trigger)
  deriving DecidableEq, Repr

namespace Fault

def message : Fault → String
  | duplicateResource kind name => s!"{kind} {name} already exists"
  | credentialsNotFound path reason =>
    s!"cluster credentials not found (kubeconfig {path}): {reason}"
  | readinessTimeout what timeout => s!"timed out after {timeout.text} waiting for {what}"
  | dependencyNotReady pod phrase timeout =>
    s!"pod {pod} never logged {quoted phrase} within {timeout.text}"
  | initialization response =>
    s!"timing service initialization returned {quoted response}, expected \x7b\x7d"
  | config cause => ConfigCause.heading ++ cause.text
  | cluster fault => s!"Kubernetes API error: {fault.text}"
  | http fault => s!"HTTP error: {fault.text}"
  | cloud message => s!"cloud API error: {message}"
  | serialization message => s!"Serialization error: {message}"
  | io message => s!"IO error: {message}"
  | invalidTransition source trigger =>
    s!"invalid lifecycle transition: {trigger.name} from {source.name}"

/-- Whether a poll goes on after the fault. -/
def isTransient : Fault → Bool
  | cluster (.refused refusal) => refusal.code ≥ 500 || refusal.code == 429
  | cluster (.exchange _) => true
  | http (.unreachable _) => true
  | http (.status code _) => (500 ≤ code && code < 600) || code == 429
  | _ => false

theorem isTransient_config (c : ConfigCause) : (config c).isTransient = false := rfl

theorem isTransient_cloud (m : String) : (cloud m).isTransient = false := rfl

theorem isTransient_readinessTimeout (what : String) (timeout : Duration) :
    (readinessTimeout what timeout).isTransient = false := rfl

end Fault

/-! ### Failures of setup -/

structure PhaseFailure where
  phase : Phase
  fault : Fault
  deriving DecidableEq, Repr

def PhaseFailure.message (f : PhaseFailure) : String :=
  s!"setup failed in phase {f.phase.name}: {f.fault.message}"

end ProvingGround
