import ProvingGround.Blueprint.Reading
import ProvingGround.Proofs.Yaml.Ensured

/-!
# Bounds of the fields of a blueprint

Whatever document a blueprint has been read from, its whole numbers are within the words of their
fields: 64 bits for arguments and spans of time, 32 bits for counts of pods and sizes of disks. The
bounds are checked where the numbers are read and hold of the usual values.
-/

namespace ProvingGround

open Yaml Yaml.Reading

/-! ### Fitting fields -/

/-- A whole number is one of 64 bits. -/
def ArgValue.Fits : ArgValue → Prop
  | .int n => Word.Signed 64 n
  | _ => True

structure NodeSpec.Fits (s : NodeSpec) : Prop where
  replicas : Word.Signed 32 s.replicas
  args : ∀ e ∈ s.args.toList, e.2.Fits

structure Blueprint.Fits (b : Blueprint) : Prop where
  groups : ∀ s ∈ b.groups, s.Fits
  genesisDelta : b.genesisDelta < Word.count 64
  readyTimeout : b.readyTimeout < Word.count 64
  diskSize : b.pool.diskSize < Word.count 32

/-! ### Arguments -/

section Arguments

variable {α : Type} {P : α → Prop}

theorem ensures_ofValue {v : Value} (bounded : v.Bounded) :
    Ensures (ArgValue.ofValue v) ArgValue.Fits := by
  unfold ArgValue.ofValue
  split
  · exact .pure trivial
  · cases bounded with
    | int low =>
      split
      · next high => exact .pure ⟨low, high⟩
      · exact .pure trivial
  · exact .pure trivial
  · exact .pure trivial
  · exact .mismatch _

theorem ensures_argValue (depth : Nat) (path : String) (n : Node) :
    Ensures (ArgValue.read depth path n) ArgValue.Fits :=
  (ensures_read depth path n).bind fun _ => ensures_ofValue

theorem forall_mem_insert {m : Keyed α} (each : ∀ e ∈ m.toList, P e.2) {key : String} {value : α}
    (new : P value) : ∀ e ∈ (m.insert key value).toList, P e.2 := by
  intro e he
  rcases Keyed.mem_insertEntry he with rfl | old
  · exact new
  · exact each e old

theorem ensures_readKeyed {read : Nat → String → Node → Reading α}
    (h : ∀ depth path n, Ensures (read depth path n) P) (path : String) (depth : Nat) (n : Node) :
    Ensures (readKeyed read path depth n) fun m => ∀ e ∈ m.toList, P e.2 := by
  refine .entries (fun d es => ?_) _ path depth n
  refine .foldlM (fun m e _ each => ?_) fun e he => absurd he List.not_mem_nil
  exact .after _ fun key => (h d _ e.2).bind fun value new => .pure (forall_mem_insert each new)

theorem ensures_typeKeyed {typed : Value → Reading α}
    (h : ∀ v : Value, v.Bounded → Ensures (typed v) P) {v : Value} (bounded : v.Bounded) :
    Ensures (typeKeyed typed v) fun m => ∀ e ∈ m.toList, P e.2 := by
  have members : Ensures (v.asEntries "a map") (∀ e ∈ ·, e.2.Bounded) := by
    unfold Value.asEntries
    split
    · cases bounded with
      | map each => exact .pure each
    · exact .mismatch _
  refine members.bind fun es low => ?_
  refine .foldlM (fun m e he each => ?_) fun e he => absurd he List.not_mem_nil
  exact .after _ fun key => (h e.2 (low e he)).bind fun value new =>
    .pure (forall_mem_insert each new)

end Arguments

/-! ### Groups -/

/-- The fields that have bounds are within them. -/
structure NodeDraft.Fits (d : NodeDraft) : Prop where
  replicas : ∀ n ∈ d.replicas, Word.Signed 32 n
  args : ∀ m ∈ d.args, ∀ e ∈ m.toList, e.2.Fits

theorem NodeDraft.fits_empty : ({} : NodeDraft).Fits :=
  ⟨fun _ absent => (nomatch absent), fun _ absent => (nomatch absent)⟩

theorem NodeDraft.ensures_readField {d : NodeDraft} (fits : d.Fits) (path : String) (depth : Nat)
    (k v : Node) : Ensures (d.readField path depth k v) NodeDraft.Fits := by
  unfold NodeDraft.readField
  refine .after _ fun name => ?_
  split
  · exact .after _ fun _ => .pure ⟨fits.replicas, fits.args⟩
  · exact (Ensures.once fits.replicas (ensures_integer 32 _ _ _) _).bind fun _ replicas =>
      .pure ⟨replicas, fits.args⟩
  · exact .after _ fun _ => .pure ⟨fits.replicas, fits.args⟩
  · exact (Ensures.once fits.args (ensures_readKeyed ensures_argValue _ _ _) _).bind fun _ args =>
      .pure ⟨fits.replicas, args⟩
  · exact .after _ fun _ => .pure ⟨fits.replicas, fits.args⟩
  · exact .after _ fun _ => .pure fits

theorem NodeDraft.ensures_typeField {d : NodeDraft} (fits : d.Fits) (name : String) {v : Value}
    (bounded : v.Bounded) : Ensures (d.typeField name v) NodeDraft.Fits := by
  unfold NodeDraft.typeField
  split
  · exact .after _ fun _ => .pure ⟨fits.replicas, fits.args⟩
  · exact (Ensures.once fits.replicas (ensures_asInteger 32 _ v) _).bind fun _ replicas =>
      .pure ⟨replicas, fits.args⟩
  · exact .after _ fun _ => .pure ⟨fits.replicas, fits.args⟩
  · exact (Ensures.once fits.args (ensures_typeKeyed (fun _ => ensures_ofValue) bounded) _).bind
      fun _ args => .pure ⟨fits.replicas, args⟩
  · exact .after _ fun _ => .pure ⟨fits.replicas, fits.args⟩
  · exact .pure fits

theorem NodeDraft.ensures_finish {d : NodeDraft} (fits : d.Fits) :
    Ensures d.finish NodeSpec.Fits := by
  have usual : Word.Signed 32 1 := by decide +kernel
  refine .after _ fun image => .pure ⟨?_, ?_⟩
  · cases same : d.replicas with
    | none => exact usual
    | some n => exact fits.replicas n same
  · cases same : d.args with
    | none => exact fun e he => absurd he List.not_mem_nil
    | some m => exact fits.args m same

theorem NodeSpec.ensures_read (path : String) (depth : Nat) (n : Node) :
    Ensures (NodeSpec.read path depth n) NodeSpec.Fits := by
  refine .entries (fun d es => ?_) _ path depth n
  refine .bind (.foldlM (fun draft e _ fits => ?_) NodeDraft.fits_empty) fun draft fits =>
    draft.ensures_finish fits
  exact draft.ensures_readField fits path d e.1 e.2

theorem SecondClients.ensures_read (depth : Nat) (path : String) (n : Node) :
    Ensures (SecondClients.read depth path n) fun c => c.node.Fits := by
  refine .entries (fun d es => ?_) _ path depth n
  -- fields are kept as values of any kind first, which are bounded below, and then typed
  refine .bind (P := fun s => ∀ e ∈ s.2, e.2.Bounded) (.foldlM (fun s e _ bounded => ?_) ?_)
    fun s bounded => ?_
  · refine .after _ fun name => ?_
    split
    · exact .after _ fun _ => .pure bounded
    · refine (Yaml.Reading.ensures_read d _ e.2).bind fun value low => .pure ?_
      exact List.forall_mem_append.2 ⟨bounded, fun e he => (List.mem_singleton.1 he) ▸ low⟩
  · exact fun e absent => absurd absent List.not_mem_nil
  · refine .bind (.foldlM (fun draft e he fits => ?_) NodeDraft.fits_empty) fun draft fits => ?_
    · exact draft.ensures_typeField fits e.1 (bounded e he)
    · exact (draft.ensures_finish fits).bind fun node fits => .pure fits

/-! ### Networks -/

theorem PoolSpec.usual_diskSize_lt : ({} : PoolSpec).diskSize < Word.count 32 := by decide +kernel

theorem PoolSpec.ensures_read (path : String) (depth : Nat) (n : Node) :
    Ensures (PoolSpec.read path depth n) fun p => p.diskSize < Word.count 32 := by
  refine .entries (fun d es => ?_) _ path depth n
  refine .bind (P := fun s => ∀ k ∈ s.2.2, k < Word.count 32)
    (.foldlM (fun s e _ fits => ?_) fun _ absent => nomatch absent) fun s fits => .pure ?_
  · refine .after _ fun name => ?_
    split
    · exact .after _ fun _ => .pure fits
    · exact .after _ fun _ => .pure fits
    · exact (Ensures.once fits (ensures_natural _ _ _ e.2) _).bind fun _ disk => .pure disk
    · exact .after _ fun _ => .pure fits
  · cases same : s.2.2 with
    | none => exact PoolSpec.usual_diskSize_lt
    | some k => exact fits k same

structure BlueprintDraft.Fits (d : BlueprintDraft) : Prop where
  bootstrap : ∀ s ∈ d.bootstrap, s.Fits
  client : ∀ s ∈ d.client, s.Fits
  clientv2 : ∀ o ∈ d.clientv2, ∀ c ∈ o, c.node.Fits
  genesisDelta : ∀ n ∈ d.genesisDelta, n < Word.count 64
  readyTimeout : ∀ n ∈ d.readyTimeout, n < Word.count 64
  pool : ∀ p ∈ d.pool, p.diskSize < Word.count 32

theorem BlueprintDraft.ensures_readField {d : BlueprintDraft} (fits : d.Fits) (depth : Nat)
    (k v : Node) : Ensures (d.readField depth k v) BlueprintDraft.Fits := by
  unfold BlueprintDraft.readField
  refine .after _ fun name => ?_
  split
  · exact .after _ fun _ => .pure { fits with }
  · exact (Ensures.once fits.bootstrap (NodeSpec.ensures_read _ _ v) _).bind fun _ bootstrap =>
      .pure { fits with bootstrap }
  · exact (Ensures.once fits.client (NodeSpec.ensures_read _ _ v) _).bind fun _ client =>
      .pure { fits with client }
  · refine (Ensures.once fits.clientv2 (.optional ?_ v) _).bind fun _ clientv2 =>
      .pure { fits with clientv2 }
    exact SecondClients.ensures_read depth _
  · exact (Ensures.once fits.genesisDelta (ensures_natural _ _ _ v) _).bind fun _ genesisDelta =>
      .pure { fits with genesisDelta }
  · exact (Ensures.once fits.readyTimeout (ensures_natural _ _ _ v) _).bind fun _ readyTimeout =>
      .pure { fits with readyTimeout }
  · exact (Ensures.once fits.pool (PoolSpec.ensures_read _ _ v) _).bind fun _ pool =>
      .pure { fits with pool }
  · exact .after _ fun _ => .pure fits

theorem BlueprintDraft.ensures_finish {d : BlueprintDraft} (fits : d.Fits) :
    Ensures d.finish Blueprint.Fits := by
  refine .after _ fun ns => ?_
  refine (Ensures.required fits.bootstrap _).bind fun bootstrap bootstrapFits => ?_
  refine (Ensures.required fits.client _).bind fun client clientFits => ?_
  refine (Ensures.required fits.genesisDelta _).bind fun genesisDelta delta => ?_
  refine (Ensures.required fits.readyTimeout _).bind fun readyTimeout timeout => .pure ?_
  refine ⟨?_, delta, timeout, ?_⟩
  · have second : ∀ c ∈ d.clientv2.getD none, c.node.Fits := by
      cases same : d.clientv2 with
      | none => exact fun _ absent => (nomatch absent)
      | some o => exact fits.clientv2 o same
    intro s hs
    rcases List.mem_cons.1 hs with rfl | hs
    · exact bootstrapFits
    rcases List.mem_cons.1 hs with rfl | hs
    · exact clientFits
    · obtain ⟨c, hc, rfl⟩ := Option.map_eq_some_iff.1 (Option.mem_toList.1 hs)
      exact second c hc
  · cases same : d.pool with
    | none => exact PoolSpec.usual_diskSize_lt
    | some p => exact fits.pool p same

/-! ### Documents -/

/-- The value that is read from a document. -/
def Yaml.Document.decode {α : Type} (doc : Document) (read : Node → Reading α) :
    Except DecodeFault α :=
  match (read doc.root).run doc 0 with
  | .error fault => .error fault
  | .ok (value, _) =>
    match doc.fault with
    | some fault => .error (.form fault)
    | none => if doc.hasMore then .error .severalDocuments else .ok value

theorem Yaml.Document.decode_eq_ok {α : Type} {doc : Document} {read : Node → Reading α} {a : α} :
    doc.decode read = .ok a ↔
      (∃ count, read doc.root doc 0 = .ok (a, count)) ∧ doc.fault = none ∧ doc.hasMore = false := by
  have run : (read doc.root).run doc 0 = read doc.root doc 0 := rfl
  unfold Document.decode
  rw [run]
  rcases read doc.root doc 0 with fault | ⟨value, count⟩
  · simp
  · cases doc.fault <;> cases doc.hasMore <;> simp

namespace Blueprint

/-- Reads and checks a blueprint as from a text, with its document at hand. -/
def ofDocument (doc : Document) : Except ConfigCause Blueprint :=
  match doc.decode read with
  | .error fault => .error (.malformedDocument fault.text)
  | .ok b =>
    match b.check with
    | .error cause => .error cause
    | .ok () => .ok b

theorem ofText_eq_ofDocument (text : String) : ofText text = ofDocument (Document.read text) := rfl

theorem ofDocument_eq_ok {doc : Document} {b : Blueprint} :
    ofDocument doc = .ok b ↔ doc.decode read = .ok b ∧ b.check = .ok () := by
  unfold ofDocument
  constructor
  · intro h
    split at h
    · cases h
    next decoded =>
      split at h
      · cases h
      next checked =>
        cases h
        exact ⟨decoded, checked⟩
  · rintro ⟨decoded, checked⟩
    simp only [decoded, checked]

theorem ensures_read (n : Node) : Ensures (read n) Fits := by
  refine .entries (fun d es => ?_) _ "" depthLimit n
  refine .bind (.foldlM (fun draft e _ fits => ?_) ?_) fun draft fits => draft.ensures_finish fits
  · exact draft.ensures_readField fits d e.1 e.2
  · constructor <;> exact fun _ absent => (nomatch absent)

/-- Whatever document a blueprint is read from, it fits its fields. -/
theorem fits_of_ofDocument {doc : Document} {b : Blueprint} (accepted : ofDocument doc = .ok b) :
    b.Fits := by
  obtain ⟨decoded, -⟩ := ofDocument_eq_ok.1 accepted
  obtain ⟨⟨count, ran⟩, -, -⟩ := Document.decode_eq_ok.1 decoded
  exact ensures_read doc.root doc 0 b count ran

end Blueprint

end ProvingGround
