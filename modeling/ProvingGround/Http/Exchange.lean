import ProvingGround.Http.Url
import ProvingGround.Json.Reader
import ProvingGround.Session.Call

/-!
# HTTP exchanges

A request goes to an address of the web, to the cluster API, or through the cluster to a port of a
pod. A transport answers requests after a delay, or nobody answers. An errand is a request together
with what is made of the answer.
-/

namespace ProvingGround.Http

/-! ### Requests and responses -/

inductive Method where
  | get
  | post
  deriving DecidableEq, Repr

/-- Where a request goes. -/
inductive Target where
  | web (url : String)
  | cluster (path : String) (query : List (String × String))
  | pod (ns name : String) (port : Nat) (path : String)
  deriving DecidableEq, Repr

structure Request where
  method : Method
  target : Target
  token : Option String
  body : Option String
  deriving DecidableEq, Repr

structure Response where
  status : Nat
  body : String
  deriving DecidableEq, Repr

namespace Response

/-- The request was granted. -/
def isSuccess (r : Response) : Bool := 200 ≤ r.status && r.status < 300

def isError (r : Response) : Bool := 400 ≤ r.status && r.status < 600

/-- The same request may be granted later. -/
def isTransient (r : Response) : Bool := (500 ≤ r.status && r.status < 600) || r.status == 429

def json? (r : Response) : Option Json := Json.read? r.body

end Response

/-! ### Transports -/

/-- What a transport brings back after a delay; nothing if nobody answers. -/
structure Delivery where
  delay : Duration
  response : Option Response

/-- A kind of world that carries requests. -/
class Transport (τ : Type) where
  send : τ → (now : Duration) → Request → Delivery × τ

/-- A transport without a network: nobody answers. -/
structure Offline where
  deriving DecidableEq, Repr

instance : Transport Offline := ⟨fun t _ _ => (⟨.zero, none⟩, t)⟩

/-! ### Errands -/

/-- A request and what is made of the answer. -/
structure Errand (α : Type) where
  /-- The request, or why it cannot be made. -/
  request : Except Fault Request
  /-- The fault when nobody answers. -/
  lost : Fault
  read : Response → Except Fault α

def Errand.run {τ α : Type} [Transport τ] (e : Errand α) (t : τ) (now : Duration) : Reply α × τ :=
  match e.request with
  | .error f => (⟨.zero, .error f⟩, t)
  | .ok request =>
    let (delivery, later) := Transport.send t now request
    match delivery.response with
    | none => (⟨delivery.delay, .error e.lost⟩, later)
    | some response => (⟨delivery.delay, e.read response⟩, later)

def webRequest (method : Method) (url : String) (token : Option String) (body : Option Json) :
    Except Fault Request :=
  if isWebAddress url && token.all isHeaderText then
    .ok ⟨method, .web url, token, body.map (·.render)⟩
  else .error (.http .unbuildable)

/-- An answer of the web that was granted; transient errors stay HTTP faults, others carry the body.
-/
def checkGranted (what url : String) (r : Response) : Except Fault Response :=
  if r.isSuccess then .ok r
  else if r.isTransient then .error (.http (.status r.status url))
  else .error (.cloud s!"{what} returned {statusText r.status}: {Text.trim r.body}")

/-- An address without slashes at its end. -/
def trimSlashes (url : String) : String :=
  String.ofList (url.toList.reverse.dropWhile (· == '/')).reverse

end ProvingGround.Http
