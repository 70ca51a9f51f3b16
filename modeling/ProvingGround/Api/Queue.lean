import ProvingGround.Http.Exchange
import ProvingGround.Text.Base64

/-!
# The queue API

A task is handed over as a request that the queue will make later: its body is the written task as
Base64.
-/

namespace ProvingGround

open Http

/-- Access to queues. -/
structure QueueApi where
  endpoint : String
  token : Option String
  deriving DecidableEq, Repr

namespace QueueApi

/-- The service as it is found on the web. -/
def usualEndpoint : String := "https://cloudtasks.googleapis.com/v2"

def atEndpoint (endpoint : String) (token : Option String) : QueueApi :=
  ⟨trimSlashes endpoint, token⟩

def tasksUrl (a : QueueApi) (q : QueueAddress) : String :=
  s!"{a.endpoint}/projects/{q.project}/locations/{q.zone}/queues/{q.name}/tasks"

/-- The text that the task is handed over as. -/
def encodedTask (t : TeardownTask) : String := Base64.ofText t.toJson.render

/-- What is handed over. -/
def taskBody (t : TeardownTask) : Json :=
  .object [("task", .object [("appEngineHttpRequest", .object
    [("httpMethod", .text "POST"), ("relativeUri", .text "/"),
     ("headers", .object [("Content-Type", .text "application/json")]),
     ("body", .text (encodedTask t))])])]

def submit (a : QueueApi) (q : QueueAddress) (t : TeardownTask) : Errand Unit where
  request := webRequest .post (a.tasksUrl q) a.token (some (taskBody t))
  lost := .http (.unreachable (a.tasksUrl q))
  read response := do
    let _ ← checkGranted "task create" (a.tasksUrl q) response
    pure ()

end QueueApi

end ProvingGround
