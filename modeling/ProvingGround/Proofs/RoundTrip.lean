import ProvingGround.Blueprint.Writing
import ProvingGround.Proofs.Acceptance
import ProvingGround.Proofs.FieldBounds
import ProvingGround.Proofs.Yaml.Written

/-!
# Blueprints are read back

A blueprint that has been read is written as a JSON value, and a document that stands for this value
is read as the same blueprint. What was read fits the words of the fields, so that no bound is in
the way; what was left out is written with its usual value or left out again; and the second client
group, whose fields are read as values of any kind first, keeps the kinds of its arguments like the
others.
-/

namespace ProvingGround

open Yaml Yaml.Reading

/-! ### Finite arguments -/

/-- The value is no infinity and not NaN. -/
def ArgValue.isFinite : ArgValue → Bool
  | .float x => x.isFinite
  | _ => true

def NodeSpec.FiniteArgs (s : NodeSpec) : Prop := ∀ e ∈ s.args.toList, e.2.isFinite = true

def Blueprint.FiniteArgs (b : Blueprint) : Prop := ∀ s ∈ b.groups, s.FiniteArgs

/-! ### Maps -/

section Maps

variable {α γ : Type}

theorem Keyed.insertEntry_last {key : String} {l : List (String × α)} (last : ∀ e ∈ l, e.1 < key)
    (value : α) : Keyed.insertEntry key value l = l ++ [(key, value)] := by
  induction l with
  | nil => rfl
  | cons e l ih =>
    obtain ⟨first, rest⟩ := List.forall_mem_cons.1 last
    have later : ¬key < e.1 := String.lt_asymm first
    have other : key ≠ e.1 := fun same => String.lt_irrefl key (same ▸ first)
    rw [Keyed.insertEntry, if_neg later, if_neg other, ih rest]
    rfl

/-- A loop that inserts entries in the order of their keys ends with all of them. -/
theorem gives_insertAll {step : Keyed α → γ → Reading (Keyed α)} {cs : List γ}
    {l : List (String × α)}
    (each : List.Forall₂ (fun c e => ∀ m, Gives (step m c) (m.insert e.1 e.2)) cs l)
    {before after : Keyed α} (whole : after.toList = before.toList ++ l) :
    Gives (cs.foldlM step before) after := by
  induction each generalizing before with
  | nil =>
    rw [List.append_nil] at whole
    rw [Keyed.ext whole]
    exact .pure before
  | @cons c e cs l first rest ih =>
    -- whatever comes is behind all that is there, as the keys of the result are in order
    have sorted := after.sorted
    rw [whole, List.pairwise_append] at sorted
    have last : ∀ d ∈ before.toList, d.1 < e.1 := fun d hd =>
      sorted.2.2 d hd e List.mem_cons_self
    refine .foldlM_cons _ (first before) (ih ?_)
    rw [Keyed.toList_insert, Keyed.insertEntry_last last, List.append_assoc, whole]
    rfl

/-- What holds of each written entry of a map holds of all of them side by side. -/
theorem WritesMembers.forall₂ {R : Node × Node → String × α → Prop} {value : α → Json}
    {es : List (Node × Node)} {l : List (String × α)}
    (written : WritesMembers es (l.map fun e => (e.1, value e.2)))
    (each : ∀ n, ∀ e ∈ l, Writes n.1 (.text e.1) → Writes n.2 (value e.2) → R n e) :
    List.Forall₂ R es l := by
  induction l generalizing es with
  | nil =>
    cases written
    exact .nil
  | cons e l ih =>
    cases written with
    | cons key first rest =>
      exact .cons (each (_, _) e List.mem_cons_self key first)
        (ih rest fun n e he => each n e (List.mem_cons_of_mem _ he))

variable {value : α → Json} {m : Keyed α} {n : Node}

theorem gives_readKeyed {read : Nat → String → Node → Reading α} {depth : Nat}
    (written : Writes n (m.toJson value)) (path : String)
    (each : ∀ e ∈ m.toList, ∀ path n, Writes n (value e.2) → Gives (read depth path n) e.2) :
    Gives (readKeyed read path (depth + 1) n) m := by
  refine gives_entries written fun es members => gives_insertAll (l := m.toList) ?_ rfl
  refine WritesMembers.forall₂ members fun n e he key first m => ?_
  exact (gives_textAs key _).bind ((each e he _ n.2 first).bind (.pure _))

/-- A map as a value of its own. -/
def Keyed.toValue (typed : α → Value) (m : Keyed α) : Value :=
  .map (m.toList.map fun e => (.text e.1, typed e.2))

theorem gives_read_keyed {typed : α → Value} {depth : Nat} (written : Writes n (m.toJson value))
    (path : String)
    (each : ∀ e ∈ m.toList, ∀ path n, Writes n (value e.2) →
      Gives (Value.read depth path n) (typed e.2)) :
    Gives (Value.read (depth + 1) path n) (m.toValue typed) := by
  refine gives_read_object written fun es members => ?_
  rw [List.forall₂_map_right_iff]
  exact WritesMembers.forall₂ members fun n e he key first =>
    ⟨e.1, rfl, key, fun path => each e he path _ first⟩

theorem gives_typeKeyed {typed : Value → Reading α} {toValue : α → Value}
    (each : ∀ e ∈ m.toList, Gives (typed (toValue e.2)) e.2) :
    Gives (typeKeyed typed (m.toValue toValue)) m := by
  refine Gives.bind (.pure _) (gives_insertAll (l := m.toList) ?_ rfl)
  rw [List.forall₂_map_left_iff, List.forall₂_same]
  exact fun e he m => Gives.bind (.pure e.1) ((each e he).bind (.pure _))

end Maps

/-! ### Arguments -/

/-- The value that an argument is read as before it is typed. -/
def ArgValue.toValue : ArgValue → Value
  | .bool b => .bool b
  | .int n => .int n
  | .float x => .float x
  | .text s => .text s

section Arguments

variable {a : ArgValue} {n : Node}

theorem gives_read_argument (fits : a.Fits) (finite : a.isFinite = true)
    (written : Writes n a.toJson) (depth : Nat) (path : String) :
    Gives (Value.read depth path n) a.toValue := by
  cases a with
  | bool b => exact gives_read_bool written
  | int k =>
    obtain ⟨low, high⟩ : -(Word.count 63 : Int) ≤ k ∧ k < Word.count 63 := fits
    have wide : Word.count 63 ≤ Word.count 64 := by decide +kernel
    exact gives_read_int written low (by omega)
  | float x =>
    have real : (ArgValue.float x).toJson = .real x := if_pos finite
    exact gives_read_real (real ▸ written) finite
  | text s => exact gives_read_text written

/-- Typing keeps the kind: a whole number is no number with a fraction, and a text is no number. -/
theorem gives_ofValue (fits : a.Fits) : Gives (ArgValue.ofValue a.toValue) a := by
  cases a with
  | int k =>
    have same : (if k < Word.count 63 then ArgValue.int k else .float (Binary64.ofInt k)) =
        .int k := if_pos fits.2
    unfold ArgValue.toValue ArgValue.ofValue
    dsimp only
    rw [same]
    exact .pure _
  | _ => exact .pure _

end Arguments

/-! ### Resources -/

theorem gives_resources {r : Resources} {n : Node} (written : Writes n r.toJson) (path : String)
    (depth : Nat) : Gives (Resources.read path (depth + 2) n) r := by
  have amounts {m : Keyed String} {n : Node} (written : Writes n (m.toJson .text)) (path : String) :
      Gives (readKeyed (fun _ => text) path (depth + 1) n) m :=
    gives_readKeyed written path fun e _ path n text => gives_textAs text _
  refine gives_entries written fun es members => ?_
  rcases members with _ | ⟨requestsKey, requests, _ | ⟨limitsKey, limits, ⟨⟩⟩⟩
  refine Gives.bind (a := (some r.requests, some r.limits)) ?_ (.pure r)
  refine .foldlM_cons (some r.requests, none) ?_
    (.foldlM_cons (some r.requests, some r.limits) ?_ (.pure _))
  · refine (gives_textAs requestsKey _).bind ?_
    exact (Gives.once "requests" (amounts requests _)).bind (.pure _)
  · refine (gives_textAs limitsKey _).bind ?_
    exact (Gives.once "limits" (amounts limits _)).bind (.pure _)

/-- Resources as a value of their own. -/
def Resources.toValue (r : Resources) : Value :=
  .map [(.text "requests", r.requests.toValue .text), (.text "limits", r.limits.toValue .text)]

theorem gives_read_resources {r : Resources} {n : Node} (written : Writes n r.toJson)
    (depth : Nat) (path : String) : Gives (Value.read (depth + 2) path n) r.toValue := by
  have amounts {m : Keyed String} {n : Node} (written : Writes n (m.toJson .text)) (path : String) :
      Gives (Value.read (depth + 1) path n) (m.toValue .text) :=
    gives_read_keyed written path fun e _ path n text => gives_read_text text
  refine gives_read_object written fun es members => ?_
  rcases members with _ | ⟨requestsKey, requests, _ | ⟨limitsKey, limits, ⟨⟩⟩⟩
  exact .cons ⟨_, rfl, requestsKey, amounts requests⟩
    (.cons ⟨_, rfl, limitsKey, amounts limits⟩ .nil)

theorem gives_resourcesOfValue (r : Resources) : Gives (Resources.ofValue r.toValue) r := by
  have amounts (m : Keyed String) : Gives (typeKeyed Value.asText (m.toValue .text)) m :=
    gives_typeKeyed fun e _ => .pure e.2
  refine Gives.bind (.pure _) (Gives.bind (a := (some r.requests, some r.limits)) ?_ (.pure r))
  refine .foldlM_cons (some r.requests, none) ?_
    (.foldlM_cons (some r.requests, some r.limits) ?_ (.pure _))
  · refine Gives.bind (.pure (some "requests")) ?_
    exact (Gives.once "requests" (amounts _)).bind (.pure _)
  · refine Gives.bind (.pure (some "limits")) ?_
    exact (Gives.once "limits" (amounts _)).bind (.pure _)

/-! ### Groups -/

/-- The draft of a group when all of its fields have been read. -/
def NodeSpec.draft (s : NodeSpec) : NodeDraft :=
  ⟨some s.image, some s.replicas, some s.resources, some s.args, s.timingImage.map some⟩

theorem gives_finish (s : NodeSpec) : Gives s.draft.finish s := by
  refine Gives.bind (.required "image" s.image) ?_
  cases s with
  | mk image replicas resources args timingImage => cases timingImage <;> exact .pure _

theorem gives_timing {draft : NodeDraft} (free : draft.timingImage = none) {image : Option String}
    {es : List (Node × Node)}
    (written : WritesMembers es (image.map fun i => ("poet_image", Json.text i)).toList)
    (path : String) (depth : Nat) :
    Gives (es.foldlM (fun (d : NodeDraft) (k, v) => d.readField path depth k v) draft)
      { draft with timingImage := image.map some } := by
  cases image with
  | none =>
    cases written
    rw [Option.map_none, ← free]
    exact .pure draft
  | some i =>
    rcases written with _ | ⟨key, value, ⟨⟩⟩
    refine .foldlM_cons _ ((gives_textAs key _).bind ?_) (.pure _)
    rw [free]
    exact (Gives.once "poet_image"
      (gives_optional_text value (gives_textAs value _))).bind (.pure _)

section Groups

variable {s : NodeSpec} (fits : s.Fits) (finite : s.FiniteArgs)
include fits finite

theorem gives_node {n : Node} (written : Writes n s.toJson) (path : String) (depth : Nat) :
    Gives (NodeSpec.read path (depth + 3) n) s := by
  have argument : ∀ e ∈ s.args.toList, ∀ path n, Writes n e.2.toJson →
      Gives (ArgValue.read (depth + 1) path n) e.2 := fun e he path n value =>
    (gives_read_argument (fits.args e he) (finite e he) value _ path).bind
      (gives_ofValue (fits.args e he))
  refine gives_entries written fun es members => Gives.bind ?_ (gives_finish s)
  rcases members with
    _ | ⟨imageKey, image, _ | ⟨replicasKey, replicas, _ | ⟨resourcesKey, resources,
      _ | ⟨argsKey, args, timing⟩⟩⟩⟩
  let read : NodeDraft := { s.draft with timingImage := none }
  refine .foldlM_cons { read with replicas := none, resources := none, args := none } ?_
    (.foldlM_cons { read with resources := none, args := none } ?_
      (.foldlM_cons { read with args := none } ?_
        (.foldlM_cons read ?_ (gives_timing rfl timing path _))))
  · refine (gives_textAs imageKey _).bind ?_
    exact (Gives.once "image" (gives_textAs image _)).bind (.pure _)
  · refine (gives_textAs replicasKey _).bind ?_
    exact (Gives.once "replicas" (gives_integer _ replicas fits.replicas)).bind (.pure _)
  · refine (gives_textAs resourcesKey _).bind ?_
    exact (Gives.once "resources" (gives_resources resources _ depth)).bind (.pure _)
  · refine (gives_textAs argsKey _).bind ?_
    exact (Gives.once "args" (gives_readKeyed args _ argument)).bind (.pure _)

end Groups

/-! ### The second client group -/

/-- The fields of a group as values, under their names. -/
def NodeSpec.values (s : NodeSpec) : List (String × Value) :=
  [("image", .text s.image), ("replicas", .int s.replicas), ("resources", s.resources.toValue),
   ("args", s.args.toValue ArgValue.toValue)] ++
    (s.timingImage.map fun i => ("poet_image", Value.text i)).toList

/-- Typing the values of a group fills its draft. -/
theorem gives_typeFields {s : NodeSpec} (fits : s.Fits) :
    Gives (s.values.foldlM (fun (d : NodeDraft) (name, v) => d.typeField name v) {}) s.draft := by
  let read : NodeDraft := { s.draft with timingImage := none }
  have timing : Gives ((s.timingImage.map fun i => ("poet_image", Value.text i)).toList.foldlM
      (fun (d : NodeDraft) (name, v) => d.typeField name v) read) s.draft := by
    cases s with
    | mk image replicas resources args timingImage =>
      cases timingImage with
      | none => exact .pure _
      | some i =>
        refine .foldlM_cons _ ?_ (.pure _)
        exact (Gives.once "poet_image" (Gives.map (.pure i) some)).bind (.pure _)
  refine .foldlM_cons { read with replicas := none, resources := none, args := none } ?_
    (.foldlM_cons { read with resources := none, args := none } ?_
      (.foldlM_cons { read with args := none } ?_ (.foldlM_cons read ?_ timing)))
  · exact (Gives.once "image" (.pure s.image)).bind (.pure _)
  · have replicas : Gives ((Value.int s.replicas).asInteger 32 "i32") s.replicas := by
      unfold Value.asInteger
      dsimp only
      have within := fits.replicas
      unfold Word.Signed at within
      rw [if_pos within]
      exact .pure _
    exact (Gives.once "replicas" replicas).bind (.pure _)
  · exact (Gives.once "resources" (gives_resourcesOfValue s.resources)).bind (.pure _)
  · have args := gives_typeKeyed fun e he => gives_ofValue (fits.args e he)
    exact (Gives.once "args" args).bind (.pure _)

/-- The entry of a field that the second client group keeps as a value. -/
def GivesField (depth : Nat) (entry : Node × Node) (field : String × Value) : Prop :=
  Writes entry.1 (.text field.1) ∧ field.1 ≠ "noreplace" ∧
    ∀ path, Gives (Value.read depth path entry.2) field.2

theorem gives_fields {s : NodeSpec} (fits : s.Fits) (finite : s.FiniteArgs)
    {es : List (Node × Node)} (written : WritesMembers es s.members) (depth : Nat) :
    List.Forall₂ (GivesField (depth + 2)) es s.values := by
  have narrow : Word.count 31 ≤ Word.count 63 := by decide +kernel
  have wide : Word.count 31 ≤ Word.count 64 := by decide +kernel
  obtain ⟨low, high⟩ : -(Word.count 31 : Int) ≤ s.replicas ∧ s.replicas < Word.count 31 :=
    fits.replicas
  rcases written with
    _ | ⟨imageKey, image, _ | ⟨replicasKey, replicas, _ | ⟨resourcesKey, resources,
      _ | ⟨argsKey, args, timing⟩⟩⟩⟩
  have amount (path : String) (n : Node) (written : Writes n (.int s.replicas)) :
      Gives (Value.read (depth + 2) path n) (.int s.replicas) :=
    gives_read_int written (by omega) (by omega)
  have argument : ∀ e ∈ s.args.toList, ∀ path n, Writes n e.2.toJson →
      Gives (Value.read (depth + 1) path n) e.2.toValue := fun e he path n value =>
    gives_read_argument (fits.args e he) (finite e he) value _ path
  refine .cons ⟨imageKey, (by decide : "image" ≠ _), fun _ => gives_read_text image⟩
    (.cons ⟨replicasKey, (by decide : "replicas" ≠ _), fun path => amount path _ replicas⟩
      (.cons ⟨resourcesKey, (by decide : "resources" ≠ _), gives_read_resources resources depth⟩
        (.cons ⟨argsKey, (by decide : "args" ≠ _), fun path => gives_read_keyed args path argument⟩
          ?_)))
  generalize s.timingImage = image at timing ⊢
  cases image with
  | none =>
    cases timing
    exact .nil
  | some i =>
    rcases timing with _ | ⟨key, value, ⟨⟩⟩
    exact .cons ⟨key, (by decide : "poet_image" ≠ _), fun _ => gives_read_text value⟩ .nil

/-- A loop that keeps a field as a value in each turn keeps all of them. -/
theorem gives_collect {σ γ δ : Type} {step : σ × List δ → γ → Reading (σ × List δ)} {cs : List γ}
    {fields : List δ} (each : List.Forall₂
      (fun c field => ∀ flag before, Gives (step (flag, before) c) (flag, before ++ [field]))
      cs fields)
    (flag : σ) (before : List δ) :
    Gives (cs.foldlM step (flag, before)) (flag, before ++ fields) := by
  induction each generalizing before with
  | nil =>
    rw [List.append_nil]
    exact .pure _
  | @cons c field cs fields first rest ih =>
    have others := ih (before ++ [field])
    rw [List.append_assoc] at others
    exact .foldlM_cons _ (first flag before) others

theorem gives_secondClients {c : SecondClients} {n : Node} (fits : c.node.Fits)
    (finite : c.node.FiniteArgs) (written : Writes n c.toJson) (depth : Nat) (path : String) :
    Gives (SecondClients.read (depth + 3) path n) c := by
  refine gives_entries written fun es members => ?_
  rcases members with _ | ⟨flagKey, flag, members⟩
  have fields := gives_fields fits finite members depth
  refine Gives.bind (a := (some c.keepsImage, c.node.values))
    (.foldlM_cons (some c.keepsImage, []) ?_ ?_) ?_
  · refine (gives_textAs flagKey _).bind ?_
    exact (Gives.once "noreplace" (gives_bool flag)).bind (.pure _)
  · refine gives_collect (fields.imp fun entry field given flag before => ?_) _ []
    refine (gives_textAs given.1 _).bind ?_
    rw [if_neg given.2.1]
    exact (given.2.2 _).bind (.pure _)
  · refine Gives.bind (gives_typeFields fits) ?_
    exact (gives_finish c.node).bind (.pure _)

/-! ### Networks -/

theorem gives_pool {p : PoolSpec} {n : Node} (fits : p.diskSize < Word.count 32)
    (written : Writes n p.toJson) (path : String) (depth : Nat) :
    Gives (PoolSpec.read path (depth + 1) n) p := by
  have word : Word.count 32 ≤ Word.count 64 := by decide +kernel
  refine gives_entries written fun es members => ?_
  rcases members with _ | ⟨machineKey, machine, _ | ⟨memoryKey, memory, _ | ⟨diskKey, disk, ⟨⟩⟩⟩⟩
  refine Gives.bind (a := (some p.machineType, some p.nodeMemory, some p.diskSize)) ?_ (.pure p)
  refine .foldlM_cons (some p.machineType, none, none) ?_
    (.foldlM_cons (some p.machineType, some p.nodeMemory, none) ?_
      (.foldlM_cons (some p.machineType, some p.nodeMemory, some p.diskSize) ?_ (.pure _)))
  · refine (gives_textAs machineKey _).bind ?_
    exact (Gives.once "machine_type" (gives_textAs machine _)).bind (.pure _)
  · refine (gives_textAs memoryKey _).bind ?_
    exact (Gives.once "node_memory" (gives_textAs memory _)).bind (.pure _)
  · refine (gives_textAs diskKey _).bind ?_
    exact (Gives.once "disk_size_gb" (gives_natural _ disk fits word)).bind (.pure _)

/-- The draft of a blueprint when all of its fields have been read. -/
def Blueprint.draft (b : Blueprint) : BlueprintDraft :=
  ⟨some b.ns, some b.bootstrap, some b.client, b.clientv2.map some, some b.genesisDelta,
    some b.readyTimeout, some b.pool⟩

theorem gives_finishBlueprint (b : Blueprint) : Gives b.draft.finish b := by
  refine Gives.bind (.required _ b.ns) (Gives.bind (.required _ b.bootstrap)
    (Gives.bind (.required _ b.client) (Gives.bind (.required _ b.genesisDelta)
      (Gives.bind (.required _ b.readyTimeout) ?_))))
  cases b with
  | mk ns bootstrap client clientv2 => cases clientv2 <;> exact .pure _

/-- The fields behind the groups. -/
def Blueprint.lastMembers (b : Blueprint) : List (String × Json) :=
  [("genesis_delta", .int b.genesisDelta), ("deployment_ready_time_out", .int b.readyTimeout),
   ("node_pool", b.pool.toJson)]

theorem Blueprint.toJson_eq (b : Blueprint) : b.toJson = .object
    (("namespace", .text b.ns) :: ("bootstrap", b.bootstrap.toJson) ::
      ("client", b.client.toJson) ::
        ((b.clientv2.map fun c => ("clientv2", c.toJson)).toList ++ b.lastMembers)) := by
  cases b with
  | mk ns bootstrap client clientv2 => cases clientv2 <;> rfl

section Networks

variable {b : Blueprint} (fits : b.Fits) {es : List (Node × Node)} (depth : Nat)
include fits

theorem gives_lastFields (written : WritesMembers es b.lastMembers) :
    Gives (es.foldlM (fun (d : BlueprintDraft) (k, v) => d.readField (depth + 1) k v)
      { b.draft with genesisDelta := none, readyTimeout := none, pool := none }) b.draft := by
  rcases written with _ | ⟨deltaKey, delta, _ | ⟨timeoutKey, timeout, _ | ⟨poolKey, pool, ⟨⟩⟩⟩⟩
  refine .foldlM_cons { b.draft with readyTimeout := none, pool := none } ?_
    (.foldlM_cons { b.draft with pool := none } ?_ (.foldlM_cons b.draft ?_ (.pure _)))
  · refine (gives_textAs deltaKey _).bind ?_
    exact (Gives.once "genesis_delta"
      (gives_natural _ delta fits.genesisDelta (Nat.le_refl _))).bind (.pure _)
  · refine (gives_textAs timeoutKey _).bind ?_
    exact (Gives.once "deployment_ready_time_out"
      (gives_natural _ timeout fits.readyTimeout (Nat.le_refl _))).bind (.pure _)
  · refine (gives_textAs poolKey _).bind ?_
    exact (Gives.once "node_pool" (gives_pool fits.diskSize pool _ depth)).bind (.pure _)

variable (finite : b.FiniteArgs)
include finite

theorem gives_secondField (written : WritesMembers es
      ((b.clientv2.map fun c => ("clientv2", c.toJson)).toList ++ b.lastMembers)) :
    Gives (es.foldlM (fun (d : BlueprintDraft) (k, v) => d.readField (depth + 3) k v)
      ⟨some b.ns, some b.bootstrap, some b.client, none, none, none, none⟩) b.draft := by
  have last {es : List (Node × Node)} (written : WritesMembers es b.lastMembers) :=
    gives_lastFields fits (depth + 2) written
  -- a group that is left out is not asked for: its place in the draft stays empty
  unfold Blueprint.draft at last ⊢
  cases second : b.clientv2 with
  | none =>
    rw [second] at written last
    exact last written
  | some c =>
    rw [second] at written last
    have inside : c.node ∈ b.groups := by
      unfold Blueprint.groups
      rw [second]
      exact List.mem_cons_of_mem _ (List.mem_cons_of_mem _ List.mem_cons_self)
    rcases written with _ | ⟨key, value, written⟩
    refine .foldlM_cons _ ((gives_textAs key _).bind ?_) (last written)
    have clients := gives_secondClients (fits.groups _ inside) (finite _ inside) value depth
    exact (Gives.once "clientv2" (gives_optional_object value (clients _))).bind (.pure _)

/-- A blueprint is read from every tree that it is written as. -/
theorem gives_blueprint {n : Node} (written : Writes n b.toJson) : Gives (Blueprint.read n) b := by
  rw [Blueprint.toJson_eq] at written
  have first : b.bootstrap ∈ b.groups := List.mem_cons_self
  have second : b.client ∈ b.groups := List.mem_cons_of_mem _ List.mem_cons_self
  refine gives_entries written fun es members => Gives.bind ?_ (gives_finishBlueprint b)
  rcases members with
    _ | ⟨nsKey, ns, _ | ⟨bootstrapKey, bootstrap, _ | ⟨clientKey, client, rest⟩⟩⟩
  have others := gives_secondField fits 124 finite rest
  refine .foldlM_cons ⟨some b.ns, none, none, none, none, none, none⟩ ?_
    (.foldlM_cons ⟨some b.ns, some b.bootstrap, none, none, none, none, none⟩ ?_
      (.foldlM_cons _ ?_ others))
  · refine (gives_textAs nsKey _).bind ?_
    exact (Gives.once "namespace" (gives_textAs ns _)).bind (.pure _)
  · refine (gives_textAs bootstrapKey _).bind ?_
    have node := gives_node (fits.groups _ first) (finite _ first) bootstrap
    exact (Gives.once "bootstrap" (node _ 124)).bind (.pure _)
  · refine (gives_textAs clientKey _).bind ?_
    have node := gives_node (fits.groups _ second) (finite _ second) client
    exact (Gives.once "client" (node _ 124)).bind (.pure _)

end Networks

/-! ### Round trips -/

/-- The document is whole and holds a JSON value that is written without tags. -/
structure Yaml.Document.Writes (doc : Document) (v : Json) : Prop where
  root : Yaml.Writes doc.root v
  whole : doc.fault = none
  single : doc.hasMore = false

/-- A document of a JSON value, with all texts in quotes. -/
def Yaml.documentOf (v : Json) : Document where
  root := nodeOf v
  size := 0

theorem Yaml.writes_documentOf (v : Json) : (documentOf v).Writes v :=
  ⟨writes_nodeOf v, rfl, rfl⟩

/-- Reading and checking the document that an accepted blueprint is written as gives the blueprint
again: every argument with its kind and value, the second client group with its flag if there was
one, and the usual values that were not written. So does every other document of the same value,
whatever the styles of its texts. -/
theorem written_blueprint_reads_back {text : String} {b : Blueprint}
    (accepted : Blueprint.ofText text = .ok b) (finite : b.FiniteArgs) :
    Blueprint.ofDocument (documentOf b.toJson) = .ok b ∧
      ∀ doc : Document, doc.Writes b.toJson → Blueprint.ofDocument doc = .ok b := by
  rw [Blueprint.ofText_eq_ofDocument] at accepted
  have fits := Blueprint.fits_of_ofDocument accepted
  have checked := (Blueprint.ofDocument_eq_ok.1 accepted).2
  have every (doc : Document) (written : doc.Writes b.toJson) :
      Blueprint.ofDocument doc = .ok b := by
    have read := gives_blueprint fits finite written.root doc 0
    have decoded : doc.decode Blueprint.read = .ok b :=
      Document.decode_eq_ok.2 ⟨⟨0, read⟩, written.whole, written.single⟩
    exact Blueprint.ofDocument_eq_ok.2 ⟨decoded, checked⟩
  exact ⟨every _ (writes_documentOf b.toJson), every⟩

/-- A document with a second group of clients, a text of digits and a whole number with a point. -/
def twofoldText : String :=
  "namespace: t\nbootstrap:\n  image: a\nclient:\n  image: a\n" ++
    "clientv2:\n  noreplace: true\n  image: b\n  args:\n    port: '80'\n    rate: 2.0\n" ++
    "genesis_delta: 6\ndeployment_ready_time_out: 2\n"

def Blueprint.twofold : Blueprint where
  ns := "t"
  bootstrap := { image := "a" }
  client := { image := "a" }
  clientv2 := some
    { keepsImage := true
      node :=
        { image := "b"
          args := .ofList [("port", .text "80"), ("rate", .float (.ofInt 2))] } }
  genesisDelta := 6
  readyTimeout := 2

theorem ofText_twofoldText : Blueprint.ofText twofoldText = .ok .twofold := by decide +kernel

theorem written_blueprint_reads_back_twofold :
    Blueprint.ofText twofoldText = .ok .twofold ∧ Blueprint.twofold.FiniteArgs ∧
      Blueprint.ofDocument (documentOf Blueprint.twofold.toJson) = .ok .twofold ∧
      ∀ doc : Document, doc.Writes Blueprint.twofold.toJson →
        Blueprint.ofDocument doc = .ok .twofold := by
  have finite : Blueprint.twofold.FiniteArgs := by
    unfold Blueprint.FiniteArgs NodeSpec.FiniteArgs
    decide +kernel
  exact ⟨ofText_twofoldText, finite, written_blueprint_reads_back ofText_twofoldText finite⟩

end ProvingGround
