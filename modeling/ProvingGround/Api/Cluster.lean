import ProvingGround.Http.Exchange
import ProvingGround.Json.Decoding
import ProvingGround.Manifest.Writing

/-!
# The cluster API

Objects of the cluster are listed, created and looked at below paths made of the namespace, the kind
and the name. A refusal is an answer of its own; an object that does not exist is no fault where it
is only looked at.
-/

namespace ProvingGround.ClusterApi

open Http

/-! ### Paths -/

def namespacesPath : String := "/api/v1/namespaces"

def objectsPath (ns : String) (kind : WorkloadKind) : String :=
  match kind with
  | .configMap => s!"/api/v1/namespaces/{ns}/configmaps"
  | .service => s!"/api/v1/namespaces/{ns}/services"
  | .statefulSet => s!"/apis/apps/v1/namespaces/{ns}/statefulsets"
  | .deployment => s!"/apis/apps/v1/namespaces/{ns}/deployments"
  | .daemonSet => s!"/apis/apps/v1/namespaces/{ns}/daemonsets"

def podsPath (ns : String) : String := s!"/api/v1/namespaces/{ns}/pods"

/-! ### Requests and answers -/

def clientFault (message : String) : Fault := .cluster (.client message)

/-- Nobody answered. -/
def lost : Fault := .cluster (.exchange "no connection")

def request (method : Method) (path : String) (query : List (String × String))
    (body : Option Json) : Except Fault Request :=
  if isRequestPath path then .ok ⟨method, .cluster path query, none, body.map (·.render)⟩
  else .error (clientFault "failed to build request")

def namedRequest (name path : String) (query : List (String × String)) : Except Fault Request :=
  if name.isEmpty then .error (clientFault "a name is required") else request .get path query none

def readRefusal (j : Json) : Json.Decoded Refusal := do
  let message ← j.at? Json.asText "message"
  let reason ← j.at? Json.asText "reason"
  pure ⟨← j.textAt "status", message.getD "", reason.getD "", ← j.natAt "code"⟩

/-- The refusal that an error is; a body of another kind is told as it is. -/
def refusalOf (r : Response) : Refusal :=
  match r.json?.map readRefusal with
  | some (.ok refusal) => refusal
  | _ => ⟨statusText r.status, Text.quoted r.body, "Failed to parse error data", r.status⟩

/-- The body of an answer that is no error. -/
def granted (r : Response) : Except Fault String :=
  if r.isError then .error (.cluster (.refused (refusalOf r))) else .ok r.body

/-- What is read out of the JSON value of an answer. -/
def readJson {α : Type} (decode : Json → Json.Decoded α) (r : Response) : Except Fault α := do
  let body ← granted r
  match Json.read? body with
  | none => .error (clientFault "no JSON")
  | some j =>
    match decode j with
    | .ok a => .ok a
    | .error problem => .error (clientFault problem)

/-- Nothing, when the object looked at does not exist. -/
def orAbsent {α : Type} (read : Response → Except Fault α) (r : Response) :
    Except Fault (Option α) :=
  match read r with
  | .ok a => .ok (some a)
  | .error (.cluster (.refused refusal)) =>
    if refusal.reason = "NotFound" then .ok none else .error (.cluster (.refused refusal))
  | .error f => .error f

/-! ### Parts of objects -/

/-- A member of a member, absent when either is. -/
def inner? (j : Json) (outer key : String) : Option Json := (j.member? outer).bind (·.member? key)

def itemsOf (j : Json) : Json.Decoded (List Json) := do (← j.member "items").asItems

/-- A text in a member of an object, if it is there. -/
def textIn? (j : Json) (outer key : String) : Json.Decoded (Option String) :=
  match inner? j outer key with
  | none => pure none
  | some v => some <$> v.asText

/-- A whole number in a member of an object, or the usual one. -/
def intIn (j : Json) (outer key : String) (usual : Int) : Json.Decoded Int :=
  match inner? j outer key with
  | none => pure usual
  | some v => v.asInt

def readNames (j : Json) : Json.Decoded (List String) := do
  let names ← (← itemsOf j).mapM fun item => textIn? item "metadata" "name"
  pure (names.filterMap id)

def isReadyCondition (j : Json) : Bool :=
  (j.get? "type").bind (·.text?) == some "Ready" && (j.get? "status").bind (·.text?) == some "True"

def readPod (j : Json) : Json.Decoded Pod := do
  let name ← textIn? j "metadata" "name"
  let address ← textIn? j "status" "podIP"
  let conditions ← match inner? j "status" "conditions" with
    | none => pure []
    | some v => v.asItems
  pure ⟨name.getD "", address.getD "", conditions.any isReadyCondition⟩

def readPods (j : Json) : Json.Decoded (List Pod) := do (← itemsOf j).mapM readPod

def readReplicated (j : Json) : Json.Decoded ReplicaCounts := do
  pure ⟨← intIn j "spec" "replicas" 1, ← intIn j "status" "readyReplicas" 0⟩

/-- The counts of a workload on every machine. -/
def readDaemonSet (j : Json) : Json.Decoded ReplicaCounts := do
  pure ⟨← intIn j "status" "desiredNumberScheduled" 0, ← intIn j "status" "numberReady" 0⟩

/-- An entry of a load balancer: its address, or else its name. -/
def readIngress (j : Json) : Json.Decoded (Option String) := do
  match ← j.at? Json.asText "ip", ← j.at? Json.asText "hostname" with
  | some ip, _ => pure (some ip)
  | none, hostname => pure hostname

/-- The address of a service: from outside, or else inside the cluster. -/
def readAddress (j : Json) : Json.Decoded (Option String) := do
  let entries ← match (inner? j "status" "loadBalancer").bind (·.member? "ingress") with
    | none => pure []
    | some v => v.asItems
  let outside := (← entries.mapM readIngress).filterMap id
  let inside ← textIn? j "spec" "clusterIP"
  match outside with
  | address :: _ => pure (some address)
  | [] => pure (inside.filter fun a => !a.isEmpty && a != "None")

/-! ### Errands -/

def listNamespaces : Errand (List String) :=
  ⟨request .get namespacesPath [] none, lost, readJson readNames⟩

def namespaceJson (name : String) : Json :=
  .object [("apiVersion", .text "v1"), ("kind", .text "Namespace"),
    ("metadata", .object
      [("name", .text name), ("labels", .object [(managerLabel, .text managerName)])])]

def createNamespace (name : String) : Errand Unit :=
  ⟨request .post namespacesPath [] (some (namespaceJson name)), lost, readJson fun _ => pure ()⟩

def createObject (ns : String) (kind : WorkloadKind) (object : Json) : Errand Unit :=
  ⟨request .post (objectsPath ns kind) [] (some object), lost, readJson fun _ => pure ()⟩

def listPods (ns selector : String) : Errand (List Pod) :=
  ⟨request .get (podsPath ns) [("labelSelector", selector)] none, lost, readJson readPods⟩

def podLogs (ns pod container : String) : Errand String :=
  ⟨namedRequest pod s!"{podsPath ns}/{pod}/log" [("container", container)], lost, granted⟩

/-- A named object, looked at. -/
def lookAt {α : Type} (ns : String) (w : Workload) (decode : Json → Json.Decoded α) :
    Errand (Option α) :=
  ⟨namedRequest w.name s!"{objectsPath ns w.kind}/{w.name}" [], lost, orAbsent (readJson decode)⟩

/-- The counts of a workload; kinds without replicas are refused unasked. -/
def workloadStatus (ns : String) (w : Workload) : Errand (Option ReplicaCounts) :=
  match w.kind with
  | .statefulSet => lookAt ns w readReplicated
  | .deployment => lookAt ns w readReplicated
  | .daemonSet => lookAt ns w readDaemonSet
  | .configMap => ⟨.error (.config (.noReplicas w.text)), lost, fun _ => .ok none⟩
  | .service => ⟨.error (.config (.noReplicas w.text)), lost, fun _ => .ok none⟩

def serviceAddress (ns service : String) : Errand (Option String) where
  request := (lookAt ns ⟨.service, service⟩ readAddress).request
  lost := lost
  read r := do pure (← orAbsent (readJson readAddress) r).join

def version : Errand String where
  request := request .get "/version" [] none
  lost := lost
  read := readJson fun j => do pure ((← j.at? Json.asText "gitVersion").getD "")

end ProvingGround.ClusterApi
