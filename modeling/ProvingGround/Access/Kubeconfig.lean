import ProvingGround.Http.Url
import ProvingGround.Text.Quoted
import ProvingGround.Yaml.Value

/-!
# Credentials files

A credentials file lists clusters, users and contexts by name; a context joins a cluster with a
user. Access is what a context leads to: the one asked for, or else the one that the file calls
current. Of two entries with the same name the first counts.
-/

namespace ProvingGround

open Yaml Yaml.Reading

/-! ### Contents -/

structure ClusterAccess where
  server : String
  token : Option String
  deriving DecidableEq, Repr

/-- A cluster and the user that asks it. -/
structure ClusterContext where
  cluster : String
  user : Option String
  deriving DecidableEq, Repr

/-- The contents of a credentials file; an entry may have a name and nothing else. -/
structure Kubeconfig where
  current : Option String
  contexts : List (String × Option ClusterContext)
  clusters : List (String × Option (Option String))
  users : List (String × Option (Option String))
  deriving DecidableEq, Repr

namespace Kubeconfig

/-! ### Reading -/

def isKey (key : String) : Value → Bool
  | .text s => s == key
  | _ => false

/-- The value of a field, absent when it is null. -/
def field (v : Value) (key : String) : Reading (Option Value) := do
  match (← v.asEntries "a map").filter fun (k, _) => isKey key k with
  | [] => pure none
  | [(_, .null)] => pure none
  | [(_, value)] => pure (some value)
  | _ => mismatch s!"duplicate entry with key {Text.quoted key}"

def textField (v : Value) (key : String) : Reading (Option String) := do
  match ← field v key with
  | none => pure none
  | some value => some <$> value.asText

def asItems : Value → Reading (List Value)
  | .list items => pure items
  | v => unexpected v.describe "a sequence"

/-- An entry with a name, and what stands beside the name. -/
def readNamed {α : Type} (key : String) (read : Value → Reading α) (v : Value) :
    Reading (String × Option α) := do
  let name ← required "name" (← textField v "name")
  match ← field v key with
  | none => pure (name, none)
  | some value => pure (name, some (← read value))

def readList {α : Type} (v : Value) (list key : String) (read : Value → Reading α) :
    Reading (List (String × Option α)) := do
  match ← field v list with
  | none => pure []
  | some items => (← asItems items).mapM (readNamed key read)

def readContext (v : Value) : Reading ClusterContext := do
  pure ⟨← required "cluster" (← textField v "cluster"), ← textField v "user"⟩

/-- The contents of a file; nothing at all is a file without entries. -/
def read (n : Node) : Reading Kubeconfig := do
  match ← Value.read depthLimit "" n with
  | .null => pure ⟨none, [], [], []⟩
  | v => do
    pure
      { current := ← textField v "current-context"
        contexts := ← readList v "contexts" "context" readContext
        clusters := ← readList v "clusters" "cluster" fun c => textField c "server"
        users := ← readList v "users" "user" fun u => textField u "token" }

/-! ### Access -/

/-- Why a file gives no access. -/
inductive Problem where
  | malformed (fault : DecodeFault)
  | noContext
  | unknownContext (name : String)
  | unknownCluster (name : String)
  | unknownUser (name : String)
  /-- The cluster has no server, or none that can be asked. -/
  | noServer (cluster : String)
  deriving DecidableEq, Repr

def Problem.text : Problem → String
  | malformed fault => s!"failed to parse kubeconfig: {fault.text}"
  | noContext => "no context is current"
  | unknownContext name => s!"failed to load context: {name}"
  | unknownCluster name => s!"failed to load the cluster of context: {name}"
  | unknownUser name => s!"failed to find named user: {name}"
  | noServer cluster => s!"cluster {cluster} has no server"

/-- What the first entry of a name holds. -/
def entry? {α : Type} (entries : List (String × Option α)) (name : String) : Option α :=
  (entries.lookup name).join

/-- The token of the user of a context; a context without a user needs none. -/
def token (k : Kubeconfig) (c : ClusterContext) : Except Problem (Option String) :=
  match c.user with
  | none => .ok none
  | some user =>
    match entry? k.users user with
    | some token => .ok token
    | none => .error (.unknownUser user)

/-- The access that a context gives, or else the current one. -/
def access (k : Kubeconfig) (context : Option String) : Except Problem ClusterAccess :=
  match context <|> k.current with
  | none => .error .noContext
  | some name =>
    match entry? k.contexts name with
    | none => .error (.unknownContext name)
    | some c =>
      match entry? k.clusters c.cluster, k.token c with
      | none, _ => .error (.unknownCluster c.cluster)
      | some _, .error problem => .error problem
      | some none, .ok _ => .error (.noServer c.cluster)
      | some (some server), .ok token =>
        if Http.isWebAddress server then .ok ⟨server, token⟩ else .error (.noServer c.cluster)

def accessIn (text : String) (context : Option String) : Except Problem ClusterAccess :=
  match readDocument text read with
  | .ok k => k.access context
  | .error fault => .error (.malformed fault)

theorem access_noContext {k : Kubeconfig} (h : k.current = none) :
    k.access none = .error .noContext := by
  simp [access, h]

end Kubeconfig

end ProvingGround
