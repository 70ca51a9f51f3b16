import ProvingGround.Blueprint.Basic
import ProvingGround.Machine
import ProvingGround.Word
import ProvingGround.Yaml.Value

/-!
# Reading a blueprint from its document

A blueprint is written as one YAML mapping. Unknown fields are passed over, fields with a usual
value may be left out, and every field stands at most once. The fields of the second client group
share one mapping with its flag: they are read as values first and typed afterwards.
-/

namespace ProvingGround

open Yaml Yaml.Reading

/-! ### Arguments and resources -/

/-- The first of truth value, whole number of 64 bits, number and text that a value fits. -/
def ArgValue.ofValue : Value → Reading ArgValue
  | .bool b => pure (.bool b)
  | .int n => pure (if n < Word.count 63 then .int n else .float (Binary64.ofInt n))
  | .float x => pure (.float x)
  | .text s => pure (.text s)
  | _ => mismatch "data did not match any variant of untagged enum ArgValue"

def readKeyed {α : Type} (read : (depth : Nat) → (path : String) → Node → Reading α) (path : String)
    (depth : Nat) (n : Node) : Reading (Keyed α) :=
  entries "a map" path depth n fun d es =>
    es.foldlM (fun (m : Keyed α) (k, v) => do
      let key ← text path k
      let value ← read d (under path k) v
      pure (m.insert key value)) ∅

def ArgValue.read (depth : Nat) (path : String) (n : Node) : Reading ArgValue := do
  ofValue (← Value.read depth path n)

def Resources.read (path : String) (depth : Nat) (n : Node) : Reading Resources :=
  entries "struct ResourceSpec" path depth n fun d es => do
    let (requests, limits) ← es.foldlM
      (fun ((requests, limits) : Option (Keyed String) × Option (Keyed String)) (k, v) => do
        let amounts := readKeyed (fun _ => text) (under path k) d v
        match ← fieldName path k with
        | "requests" => pure (← once "requests" requests amounts, limits)
        | "limits" => pure (requests, ← once "limits" limits amounts)
        | _ =>
          ignore v
          pure (requests, limits))
      (none, none)
    pure ⟨requests.getD ∅, limits.getD ∅⟩

/-! ### Groups -/

structure NodeDraft where
  image : Option String := none
  replicas : Option Int := none
  resources : Option Resources := none
  args : Option (Keyed ArgValue) := none
  timingImage : Option (Option String) := none

/-- The group, once its fields have been read. -/
def NodeDraft.finish (d : NodeDraft) : Reading NodeSpec := do
  let image ← required "image" d.image
  pure
    { image
      replicas := d.replicas.getD 1
      resources := d.resources.getD {}
      args := d.args.getD ∅
      timingImage := d.timingImage.getD none }

def NodeDraft.readField (path : String) (depth : Nat) (d : NodeDraft) (k v : Node) :
    Reading NodeDraft := do
  let inner := under path k
  match ← fieldName path k with
  | "image" => pure { d with image := ← once "image" d.image (text inner v) }
  | "replicas" =>
    pure { d with replicas := ← once "replicas" d.replicas (integer 32 "i32" inner v) }
  | "resources" =>
    pure { d with resources := ← once "resources" d.resources (Resources.read inner depth v) }
  | "args" => pure { d with args := ← once "args" d.args (readKeyed ArgValue.read inner depth v) }
  | "poet_image" =>
    pure { d with
      timingImage := ← once "poet_image" d.timingImage (optional v (text inner)) }
  | _ =>
    ignore v
    pure d

def NodeSpec.read (path : String) (depth : Nat) (n : Node) : Reading NodeSpec :=
  entries "struct NodeSpec" path depth n fun d es => do
    let draft ← es.foldlM (fun (draft : NodeDraft) (k, v) => draft.readField path d k v) {}
    draft.finish

/-! ### The second client group -/

def typeKeyed {α : Type} (typed : Value → Reading α) (v : Value) : Reading (Keyed α) := do
  (← v.asEntries "a map").foldlM (fun (m : Keyed α) (k, v) => do
    let key ← k.asText
    let value ← typed v
    pure (m.insert key value)) ∅

def Resources.ofItems (items : List Value) : Reading Resources := do
  let amounts ← (items.take 2).mapM (typeKeyed Value.asText)
  if items.length > 2 then
    mismatch s!"invalid length {items.length}, expected 2 elements in sequence"
  else pure ⟨amounts[0]?.getD ∅, amounts[1]?.getD ∅⟩

def Resources.ofValue : Value → Reading Resources
  | .list items => ofItems items
  | v => do
    let (requests, limits) ← (← v.asEntries "struct ResourceSpec").foldlM
      (fun ((requests, limits) : Option (Keyed String) × Option (Keyed String)) (k, v) => do
        match ← k.asField ["requests", "limits"] with
        | some "requests" =>
          pure (← once "requests" requests (typeKeyed Value.asText v), limits)
        | some "limits" => pure (requests, ← once "limits" limits (typeKeyed Value.asText v))
        | _ => pure (requests, limits))
      (none, none)
    pure ⟨requests.getD ∅, limits.getD ∅⟩

def NodeDraft.typeField (d : NodeDraft) (name : String) (v : Value) : Reading NodeDraft := do
  match name with
  | "image" => pure { d with image := ← once "image" d.image v.asText }
  | "replicas" => pure { d with replicas := ← once "replicas" d.replicas (v.asInteger 32 "i32") }
  | "resources" =>
    pure { d with resources := ← once "resources" d.resources (Resources.ofValue v) }
  | "args" => pure { d with args := ← once "args" d.args (typeKeyed ArgValue.ofValue v) }
  | "poet_image" =>
    pure { d with
      timingImage := ← once "poet_image" d.timingImage (v.asOptional Value.asText) }
  | _ => pure d

/-- Reads the second client group: its flag at once, its other fields as values. -/
def SecondClients.read (depth : Nat) (path : String) (n : Node) : Reading SecondClients :=
  entries "struct ClientV2Spec" path depth n fun d es => do
    let (keeps, values) ← es.foldlM
      (fun ((keeps, values) : Option Bool × List (String × Value)) (k, v) => do
        let name ← fieldName path k
        if name = "noreplace" then
          pure (← once "noreplace" keeps (bool (under path k) v), values)
        else
          let value ← Value.read d (under path k) v
          pure (keeps, values ++ [(name, value)]))
      (none, [])
    let draft ← values.foldlM (fun (draft : NodeDraft) (name, v) => draft.typeField name v) {}
    pure ⟨keeps.getD false, ← draft.finish⟩

/-! ### Pools and networks -/

def PoolSpec.read (path : String) (depth : Nat) (n : Node) : Reading PoolSpec :=
  entries "struct NodePoolSpec" path depth n fun _ es => do
    let (machine, memory, disk) ← es.foldlM
      (fun ((machine, memory, disk) : Option String × Option String × Option Nat) (k, v) => do
        let inner := under path k
        match ← fieldName path k with
        | "machine_type" => pure (← once "machine_type" machine (text inner v), memory, disk)
        | "node_memory" => pure (machine, ← once "node_memory" memory (text inner v), disk)
        | "disk_size_gb" =>
          pure (machine, memory, ← once "disk_size_gb" disk (natural (Word.count 32) "u32" inner v))
        | _ =>
          ignore v
          pure (machine, memory, disk))
      (none, none, none)
    let usual : PoolSpec := {}
    pure ⟨machine.getD usual.machineType, memory.getD usual.nodeMemory, disk.getD usual.diskSize⟩

structure BlueprintDraft where
  ns : Option String := none
  bootstrap : Option NodeSpec := none
  client : Option NodeSpec := none
  clientv2 : Option (Option SecondClients) := none
  genesisDelta : Option Nat := none
  readyTimeout : Option Nat := none
  pool : Option PoolSpec := none

def BlueprintDraft.readField (depth : Nat) (d : BlueprintDraft) (k v : Node) :
    Reading BlueprintDraft := do
  let inner := under "" k
  match ← fieldName "" k with
  | "namespace" => pure { d with ns := ← once "namespace" d.ns (text inner v) }
  | "bootstrap" =>
    pure { d with bootstrap := ← once "bootstrap" d.bootstrap (NodeSpec.read inner depth v) }
  | "client" => pure { d with client := ← once "client" d.client (NodeSpec.read inner depth v) }
  | "clientv2" =>
    pure { d with
      clientv2 := ← once "clientv2" d.clientv2 (optional v (SecondClients.read depth inner)) }
  | "genesis_delta" =>
    pure { d with
      genesisDelta :=
        ← once "genesis_delta" d.genesisDelta (natural (Word.count 64) "u64" inner v) }
  | "deployment_ready_time_out" =>
    pure { d with
      readyTimeout :=
        ← once "deployment_ready_time_out" d.readyTimeout (natural (Word.count 64) "u64" inner v) }
  | "node_pool" => pure { d with pool := ← once "node_pool" d.pool (PoolSpec.read inner depth v) }
  | _ =>
    ignore v
    pure d

/-- The blueprint, once its fields have been read. -/
def BlueprintDraft.finish (d : BlueprintDraft) : Reading Blueprint := do
  let ns ← required "namespace" d.ns
  let bootstrap ← required "bootstrap" d.bootstrap
  let client ← required "client" d.client
  let genesisDelta ← required "genesis_delta" d.genesisDelta
  let readyTimeout ← required "deployment_ready_time_out" d.readyTimeout
  pure
    { ns, bootstrap, client, genesisDelta, readyTimeout
      clientv2 := d.clientv2.getD none
      pool := d.pool.getD {} }

namespace Blueprint

def read (n : Node) : Reading Blueprint :=
  entries "struct NetworkConfig" "" depthLimit n fun d es => do
    let draft ← es.foldlM (fun (draft : BlueprintDraft) (k, v) => draft.readField d k v) {}
    draft.finish

def ofText (text : String) : Except ConfigCause Blueprint :=
  match readDocument text read with
  | .error fault => .error (.malformedDocument fault.text)
  | .ok b =>
    match b.check with
    | .error cause => .error cause
    | .ok () => .ok b

def ofFile (path : String) (content : FileContent) : Except ConfigCause Blueprint :=
  match content.read with
  | .ok s => ofText s
  | .error reason => .error (.unreadableFile path reason)

end Blueprint

end ProvingGround
