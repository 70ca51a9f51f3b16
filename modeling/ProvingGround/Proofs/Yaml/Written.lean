import Mathlib.Data.List.Forall2
import ProvingGround.Json.Value
import ProvingGround.Proofs.Yaml.Plain
import ProvingGround.Yaml.Value

/-!
# Written values are read back

A JSON value is written as a tree of nodes: words and numbers as plain scalars, texts in any style
in which they stand for themselves, and no tags. From such a tree every field is read as the value
that was written, whatever the document is otherwise.
-/

namespace ProvingGround.Yaml

open Text

/-! ### Trees of JSON values -/

mutual

/-- The node stands for a JSON value that is written without tags. -/
inductive Writes : Node → Json → Prop where
  | null (m : Mark) : Writes (.scalar m ⟨"null", .plain, none⟩) .null
  | bool (m : Mark) (b : Bool) : Writes (.scalar m ⟨toString b, .plain, none⟩) (.bool b)
  | int (m : Mark) (n : Int) : Writes (.scalar m ⟨toString n, .plain, none⟩) (.int n)
  | real (m : Mark) (x : Binary64) :
    Writes (.scalar m ⟨x.json?.getD "null", .plain, none⟩) (.real x)
  | text (m : Mark) {s : String} {style : Style}
    (itself : style = .plain → Atom.ofPlain s = .text s) :
    Writes (.scalar m ⟨s, style, none⟩) (.text s)
  | list (m : Mark) {nodes : List Node} {items : List Json} (each : WritesItems nodes items) :
    Writes (.sequence m none nodes) (.list items)
  | object (m : Mark) {entries : List (Node × Node)} {members : List (String × Json)}
    (each : WritesMembers entries members) : Writes (.mapping m none entries) (.object members)

inductive WritesItems : List Node → List Json → Prop where
  | nil : WritesItems [] []
  | cons {n nodes v items} (first : Writes n v) (rest : WritesItems nodes items) :
    WritesItems (n :: nodes) (v :: items)

inductive WritesMembers : List (Node × Node) → List (String × Json) → Prop where
  | nil : WritesMembers [] []
  | cons {k n entries name v members} (key : Writes k (.text name)) (value : Writes n v)
    (rest : WritesMembers entries members) :
    WritesMembers ((k, n) :: entries) ((name, v) :: members)

end

def plainNode (s : String) : Node := .scalar .start ⟨s, .plain, none⟩

def quotedNode (s : String) : Node := .scalar .start ⟨s, .doubleQuoted, none⟩

mutual

/-- A tree of a JSON value, with all texts in quotes. -/
def nodeOf : Json → Node
  | .null => plainNode "null"
  | .bool b => plainNode (toString b)
  | .int n => plainNode (toString n)
  | .real x => plainNode (x.json?.getD "null")
  | .text s => quotedNode s
  | .list items => .sequence .start none (itemsOf items)
  | .object members => .mapping .start none (entriesOf members)

def itemsOf : List Json → List Node
  | [] => []
  | v :: items => nodeOf v :: itemsOf items

def entriesOf : List (String × Json) → List (Node × Node)
  | [] => []
  | (name, v) :: members => (quotedNode name, nodeOf v) :: entriesOf members

end

theorem writes_quotedNode (s : String) : Writes (quotedNode s) (.text s) :=
  .text .start fun plain => by cases plain

mutual

theorem writes_nodeOf : (v : Json) → Writes (nodeOf v) v
  | .null => .null .start
  | .bool b => .bool .start b
  | .int n => .int .start n
  | .real x => .real .start x
  | .text s => writes_quotedNode s
  | .list items => .list .start (writesItems_itemsOf items)
  | .object members => .object .start (writesMembers_entriesOf members)

theorem writesItems_itemsOf : (items : List Json) → WritesItems (itemsOf items) items
  | [] => .nil
  | v :: items => .cons (writes_nodeOf v) (writesItems_itemsOf items)

theorem writesMembers_entriesOf :
    (members : List (String × Json)) → WritesMembers (entriesOf members) members
  | [] => .nil
  | (name, v) :: members =>
    .cons (writes_quotedNode name) (writes_nodeOf v) (writesMembers_entriesOf members)

end

/-! ### Readings that give a value -/

namespace Reading

variable {α β σ : Type} {a : α} {b : β} {r : Reading α} {f : α → Reading β}

/-- The reading gives a value, in every document and without following an alias. -/
def Gives (r : Reading α) (a : α) : Prop := ∀ doc count, r doc count = .ok (a, count)

theorem Gives.pure (a : α) : Gives (pure a) a := fun _ _ => rfl

theorem Gives.bind (first : Gives r a) (then_ : Gives (f a) b) : Gives (r >>= f) b :=
  fun doc count => by
    show (r doc count >>= fun p => f p.1 doc p.2) = _
    rw [first]
    exact then_ doc count

theorem Gives.map (h : Gives r a) (g : α → β) : Gives (g <$> r) (g a) := fun doc count => by
  show (r doc count >>= fun p => Except.ok (g p.1, p.2)) = _
  rw [h]
  rfl

theorem Gives.locate (h : Gives r a) (path : String) (m : Mark) : Gives (locate path m r) a :=
  fun doc count => by
    simp only [Reading.locate, h doc count]

theorem Gives.once (name : String) (h : Gives r a) : Gives (once name none r) (some a) := h.map some

theorem Gives.required (name : String) (a : α) : Gives (required name (some a)) a := .pure a

/-- One turn of a loop leads to the given state, and the others from there to the end. -/
theorem Gives.foldlM_cons {step : σ → β → Reading σ} {s s'' : σ} {rest : List β} (s' : σ)
    (first : Gives (step s b) s') (others : Gives (rest.foldlM step s') s'') :
    Gives ((b :: rest).foldlM step s) s'' := by
  rw [List.foldlM_cons]
  exact first.bind others

theorem Gives.mapM_cons {g : α → Reading β} {bs : List β} {rest : List α}
    (first : Gives (g a) b) (others : Gives (rest.mapM g) bs) :
    Gives ((a :: rest).mapM g) (b :: bs) := by
  rw [List.mapM_cons]
  exact first.bind (others.bind (.pure _))

/-! ### Fields -/

section Fields

variable {n : Node} {v : Json} {path : String}

/-- A written node is no alias and no broken leaf. -/
theorem Gives.atNode {read : Node → Reading α} (written : Writes n v) (h : Gives (read n) a) :
    Gives (atNode path n read) a := by
  cases written <;> exact h.locate path _

theorem gives_textAs {s : String} (written : Writes n (.text s)) (expected : String) :
    Gives (textAs expected path n) s := by
  refine .atNode written ?_
  cases written
  exact .pure s

theorem gives_scalarOf {tag expected s : String} {m : Mark} {read : String → Option α}
    {check : α → Reading α} (written : Writes (.scalar m ⟨s, .plain, none⟩) v)
    (value : read s = some a) (checked : Gives (check a) a) :
    Gives (scalarOf tag expected read path (.scalar m ⟨s, .plain, none⟩) check) a := by
  refine .atNode written ?_
  have open_ : isOpen tag ⟨s, .plain, none⟩ = true := rfl
  simp only [open_, if_true, value]
  exact checked

theorem gives_bool {b : Bool} (written : Writes n (.bool b)) : Gives (bool path n) b := by
  cases written with
  | bool m =>
    refine gives_scalarOf (.bool m b) ?_ (.pure b)
    cases b <;> rfl

theorem gives_natural {k limit : Nat} (expected : String) (written : Writes n (.int k))
    (below : k < limit) (word : limit ≤ Word.count 64) :
    Gives (natural limit expected path n) k := by
  cases written with
  | int m =>
    refine gives_scalarOf (.int m k) (Atom.readUnsigned_natural (Nat.lt_of_lt_of_le below word)) ?_
    rw [if_pos below]
    exact .pure k

theorem gives_integer {k : Int} (expected : String) (written : Writes n (.int k))
    (word : Word.Signed 32 k) : Gives (integer 32 expected path n) k := by
  cases written with
  | int m =>
    have wide : Word.count 31 ≤ Word.count 63 := by decide +kernel
    obtain ⟨low, high⟩ : -(Word.count 31 : Int) ≤ k ∧ k < Word.count 31 := word
    refine gives_scalarOf (.int m k) (Atom.readSigned_toString ⟨?_, ?_⟩) ?_
    · show -(Word.count 63 : Int) ≤ k
      omega
    · show k < Word.count 63
      omega
    · rw [if_pos ⟨low, high⟩]
      exact .pure k

theorem gives_entries {expected : String} {depth : Nat} {members : List (String × Json)}
    {read : Nat → List (Node × Node) → Reading α} (written : Writes n (.object members))
    (each : ∀ es, WritesMembers es members → Gives (read depth es) a) :
    Gives (entries expected path (depth + 1) n read) a := by
  refine .atNode written ?_
  cases written with
  | object m written => exact each _ written

theorem gives_optional_text {read : Node → Reading α} {s : String} (written : Writes n (.text s))
    (h : Gives (read n) a) : Gives (optional n read) (some a) := by
  cases written with
  | @text m _ style itself =>
    refine Gives.bind (.pure _) ?_
    dsimp only
    by_cases plain : style = .plain
    · have solid : ¬((none : Option String).isNone && (s.isEmpty || Atom.isNull s)) = true := by
        intro absent
        have none_ : Atom.ofPlain s = .null := if_pos absent
        rw [itself plain] at none_
        cases none_
      rw [if_neg (not_not.2 plain), if_neg (by simp), if_neg solid]
      exact h.map some
    · rw [if_pos plain]
      exact h.map some

theorem gives_optional_object {read : Node → Reading α} {members : List (String × Json)}
    (written : Writes n (.object members)) (h : Gives (read n) a) :
    Gives (optional n read) (some a) := by
  cases written with
  | object m each => exact Gives.bind (.pure _) (h.map some)

end Fields

/-! ### Values of any kind -/

section Values

variable {n : Node} {path : String} {depth : Nat}

theorem gives_read_scalar {m : Mark} {s : String} {style : Style} {atom : Atom} {value : Value}
    (means : Atom.ofScalar ⟨s, style, none⟩ = .ok atom) (h : Gives (Value.ofAtom atom) value) :
    Gives (Value.read depth path (.scalar m ⟨s, style, none⟩)) value := by
  unfold Value.read
  refine Gives.locate (Gives.bind (.pure ()) ?_) path m
  simp only [means]
  exact h

theorem gives_read_bool {b : Bool} (written : Writes n (.bool b)) :
    Gives (Value.read depth path n) (.bool b) := by
  cases written with
  | bool m => cases b <;> exact gives_read_scalar rfl (.pure _)

theorem gives_read_int {k : Int} (written : Writes n (.int k)) (low : -(Word.count 63 : Int) ≤ k)
    (high : k < Word.count 64) : Gives (Value.read depth path n) (.int k) := by
  cases written with
  | int m =>
    refine gives_read_scalar (congrArg Except.ok (Atom.ofPlain_toString low high)) ?_
    unfold Atom.whole
    split
    · exact .pure _
    · next natural =>
      obtain ⟨j, rfl⟩ := Int.eq_ofNat_of_zero_le (Int.not_lt.1 natural)
      exact .pure _

theorem gives_read_real {x : Binary64} (written : Writes n (.real x)) (finite : x.isFinite = true) :
    Gives (Value.read depth path n) (.float x) := by
  cases written with
  | real m =>
    cases x with
    | nan => cases finite
    | infinite => cases finite
    | finite negative index =>
      obtain ⟨body, form, -⟩ := Binary64.json?_finite negative index
      refine gives_read_scalar (congrArg Except.ok (Atom.ofPlain_json? ?_)) (.pure _)
      rw [form]
      rfl

theorem gives_read_text {s : String} (written : Writes n (.text s)) :
    Gives (Value.read depth path n) (.text s) := by
  cases written with
  | @text m _ style itself =>
    have means : Atom.ofScalar ⟨s, style, none⟩ = .ok (.text s) := by
      by_cases plain : style = .plain
      · exact congrArg Except.ok ((if_pos plain).trans (itself plain))
      · exact congrArg Except.ok (if_neg plain)
    exact gives_read_scalar means (.pure _)

/-- The value of a member of an object, under its name. -/
def GivesMember (depth : Nat) (entry : Node × Node) (member : Value × Value) : Prop :=
  ∃ name, member.1 = .text name ∧ Writes entry.1 (.text name) ∧
    ∀ path, Gives (Value.read depth path entry.2) member.2

theorem gives_read_object {members : List (String × Json)} {values : List (Value × Value)}
    (written : Writes n (.object members))
    (each : ∀ es, WritesMembers es members → List.Forall₂ (GivesMember depth) es values) :
    Gives (Value.read (depth + 1) path n) (.map values) := by
  cases written with
  | object m entries =>
    unfold Value.read
    refine Gives.locate (Gives.bind (.pure ()) (Gives.map ?_ _)) path m
    have valued := each _ entries
    clear each entries
    induction valued with
    | nil => exact .pure _
    | @cons entry member _ _ first rest ih =>
      obtain ⟨name, same, key, value⟩ := first
      have pair : member = (.text name, member.2) := by rw [← same]
      rw [pair]
      exact .mapM_cons ((gives_read_text key).bind ((value _).bind (.pure _))) ih

end Values

end Reading

end ProvingGround.Yaml
