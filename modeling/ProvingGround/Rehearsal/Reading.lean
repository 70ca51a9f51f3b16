import ProvingGround.Json.Decoding
import ProvingGround.Rehearsal.Stage
import ProvingGround.Word

/-!
# Reading rehearsals

A rehearsal is written as a JSON object with the namespaces that are there and the answers of the
services. The answers stand under the call that they are for, with the object where calls are told
apart by it; each is a list of cues.
-/

namespace ProvingGround

open Json (Decoded need)

/-! ### Values -/

/-- A span, as seconds and nanoseconds. -/
def Duration.ofJson (j : Json) : Decoded Duration := do
  let (s, n) ← j.asPair
  pure ⟨s.toNat * Duration.second + n.toNat⟩

def Json.durationAt (j : Json) (key : String) : Decoded Duration := do
  Duration.ofJson (← j.member key)

/-- A pod, as name, address and readiness. -/
def Pod.ofJson (j : Json) : Decoded Pod := do
  match ← j.asItems with
  | [name, address, ready] => pure ⟨← name.asText, ← address.asText, ← ready.asBool⟩
  | _ => .error "no pod"

/-- Counts, as desired and ready replicas. -/
def ReplicaCounts.ofJson (j : Json) : Decoded ReplicaCounts := do
  let (desired, ready) ← j.asPair
  pure ⟨desired, ready⟩

def PoolStatus.ofJson : Json → Decoded PoolStatus
  | .text "Running" => pure .running
  | .text "Provisioning" => pure .provisioning
  | v => .failed <$> v.textAt "error"

/-! ### Faults -/

def Json.phaseAt (j : Json) (key : String) : Decoded Phase := do
  need "no phase" (Phase.ofName? (← j.textAt key))

def Trigger.ofJson (j : Json) : Decoded Trigger := do
  need "no trigger" (Trigger.ofName? (← j.asText))

def Fault.ofJson (j : Json) : Decoded Fault := do
  match ← j.textAt "kind" with
  | "DuplicateResource" => pure (.duplicateResource (← j.textAt "resource") (← j.textAt "name"))
  | "CredentialsNotFound" => pure (.credentialsNotFound (← j.textAt "path") (← j.textAt "reason"))
  | "ReadinessTimeout" =>
    pure (.readinessTimeout (← j.textAt "what") (← j.durationAt "timeout"))
  | "DependencyNotReady" =>
    pure (.dependencyNotReady (← j.textAt "pod") (← j.textAt "phrase") (← j.durationAt "timeout"))
  | "Initialization" => pure (.initialization (← j.textAt "response"))
  | "Config" => pure (.config (.told (← j.textAt "message")))
  | "Cloud" => pure (.cloud (← j.textAt "message"))
  | "Serialization" => pure (.serialization (← j.textAt "message"))
  | "Io" => pure (.io (← j.textAt "message"))
  | "KubeApi" =>
    pure (.cluster (.refused
      ⟨"Failure", ← j.textAt "message", ← j.textAt "reason", (← j.natAt "code") % Word.count 16⟩))
  | "KubeService" => pure (.cluster (.exchange (← j.textAt "message")))
  | "KubeTls" => pure (.cluster (.client "TLS required but no TLS stack selected"))
  | "Http" => pure (.http (.status (← j.natAt "status") "http://no.url.provided.local/"))
  | "HttpBuilder" => pure (.http .unbuildable)
  | "InvalidTransition" =>
    pure (.invalidTransition (← j.phaseAt "from") (← Trigger.ofJson (← j.member "event")))
  | kind => .error s!"no fault {kind}"

/-! ### Cues -/

/-- A cue with an answer of a kind. -/
def Cue.ofJson {α : Type} (value : Json → Decoded α) (j : Json) : Decoded (Cue α) := do
  let delay := Duration.ofMilliseconds ((← j.at? Json.asNat "delay_ms").getD 0)
  match j.get? "ok", j.member? "err" with
  | some v, _ => pure ⟨delay, some (.ok (← value v))⟩
  | none, some e => pure ⟨delay, some (.error (← Fault.ofJson e))⟩
  | none, none => pure ⟨delay, none⟩

/-- Cues whose answers say nothing. -/
def Cue.plain (entries : List Json) : Decoded (List (Cue Unit)) :=
  entries.mapM (ofJson fun _ => pure ())

def Json.asListOf {α : Type} (value : Json → Decoded α) (j : Json) : Decoded (List α) := do
  (← j.asItems).mapM value

namespace Script

def addPlain (s : Script) (call : String) (entries : List Json) : Decoded Script := do
  match call with
  | "list_namespaces" =>
    pure { s with listNamespaces := ← entries.mapM (Cue.ofJson (Json.asListOf Json.asText)) }
  | "create_namespace" => pure { s with createNamespace := ← Cue.plain entries }
  | "pod_logs" => pure { s with podLogs := ← entries.mapM (Cue.ofJson Json.asText) }
  | "create_pool" => pure { s with createPool := ← Cue.plain entries }
  | "pool_status" =>
    pure { s with poolStatus := ← entries.mapM (Cue.ofJson (Json.orNull PoolStatus.ofJson)) }
  | "submit" => pure { s with submit := ← Cue.plain entries }
  | "initialize" => pure { s with startTiming := ← entries.mapM (Cue.ofJson Json.asText) }
  | _ => pure s

def addAbout (s : Script) (call object : String) (entries : List Json) : Decoded Script := do
  match call with
  | "create" => pure { s with create := s.create.insert object (← Cue.plain entries) }
  | "list_pods" =>
    let cues ← entries.mapM (Cue.ofJson (Json.asListOf Pod.ofJson))
    pure { s with listPods := s.listPods.insert object cues }
  | "workload_status" =>
    let cues ← entries.mapM (Cue.ofJson (Json.orNull ReplicaCounts.ofJson))
    pure { s with workloadStatus := s.workloadStatus.insert object cues }
  | "service_address" =>
    let cues ← entries.mapM (Cue.ofJson (Json.orNull Json.asText))
    pure { s with serviceAddress := s.serviceAddress.insert object cues }
  | _ => pure s

/-- Adds the cues under a key: a call, or a call and an object with a blank between them. -/
def add (s : Script) (key : String) (entries : List Json) : Decoded Script :=
  let call := String.ofList (key.toList.takeWhile (· != ' '))
  match key.toList.dropWhile (· != ' ') with
  | [] => s.addPlain call entries
  | _ :: object => s.addAbout call (String.ofList object) entries

end Script

/-- A rehearsal before the first call. -/
def Rehearsal.ofJson (j : Json) : Decoded Rehearsal := do
  let namespaces ← (← j.itemsAt "namespaces").mapM Json.asText
  let answers ← match j.member? "answers" with
    | none => pure []
    | some a => a.asMembers
  let script ← answers.foldlM (fun s (key, cues) => do s.add key (← cues.asItems)) ({} : Script)
  pure (.start script namespaces)

end ProvingGround
