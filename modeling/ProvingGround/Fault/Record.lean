import ProvingGround.Fault.Basic

/-!
# Faults as records

A fault written as its kind with the parts that it is made of, texts quoted. In this form a run that
cannot go on ends.
-/

namespace ProvingGround

open Text

/-! ### Layout -/

def recordText (kind : String) (parts : List (String × String)) : String :=
  let fields := parts.map fun (name, value) => name ++ ": " ++ value
  kind ++ " \x7b " ++ String.intercalate ", " fields ++ " \x7d"

/-- A record with one part that has no name. -/
def wrapped (kind part : String) : String := s!"{kind}({part})"

/-! ### Faults -/

def Refusal.record (r : Refusal) : String :=
  recordText "ErrorResponse"
    [("status", quoted r.status), ("message", quoted r.message), ("reason", quoted r.reason),
     ("code", s!"{r.code}")]

def ClusterFault.record : ClusterFault → String
  | refused refusal => wrapped "Api" refusal.record
  | exchange message => wrapped "Service" (quoted message)
  | client message => quoted message

namespace Fault

def kind : Fault → String
  | duplicateResource .. => "DuplicateResource"
  | credentialsNotFound .. => "CredentialsNotFound"
  | readinessTimeout .. => "ReadinessTimeout"
  | dependencyNotReady .. => "DependencyNotReady"
  | initialization .. => "Initialization"
  | config .. => "Config"
  | cluster .. => "Kube"
  | http .. => "Http"
  | cloud .. => "Cloud"
  | serialization .. => "Serialization"
  | io .. => "Io"
  | invalidTransition .. => "InvalidTransition"

def record (f : Fault) : String :=
  match f with
  | duplicateResource kind name =>
    recordText f.kind [("kind", quoted kind), ("name", quoted name)]
  | credentialsNotFound path reason =>
    recordText f.kind [("path", quoted path), ("reason", quoted reason)]
  | readinessTimeout what timeout =>
    recordText f.kind [("what", quoted what), ("timeout", timeout.text)]
  | dependencyNotReady pod phrase timeout =>
    recordText f.kind
      [("pod", quoted pod), ("phrase", quoted phrase), ("timeout", timeout.text)]
  | initialization response => recordText f.kind [("response", quoted response)]
  | config cause => wrapped f.kind (quoted cause.text)
  | cluster fault => wrapped f.kind fault.record
  | http fault => wrapped f.kind (quoted fault.text)
  | cloud message => wrapped f.kind (quoted message)
  | serialization message => wrapped f.kind (quoted message)
  | io message => wrapped f.kind (quoted message)
  | invalidTransition source trigger =>
    recordText f.kind [("from", source.name), ("event", trigger.name)]

end Fault

def PhaseFailure.record (f : PhaseFailure) : String :=
  recordText "PhaseFailure" [("phase", f.phase.name), ("error", f.fault.record)]

end ProvingGround
