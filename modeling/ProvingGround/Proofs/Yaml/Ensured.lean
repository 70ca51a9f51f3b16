import ProvingGround.Proofs.Decimal.Numerals
import ProvingGround.Yaml.Value

/-!
# What readings ensure

A property that a reading gives to every value it ends with, for any document. It passes through
sequences of readings, loops and fields, so that the bounds that are checked at a leaf of a document
are known of the whole that is read from it. Whole numbers are bounded wherever they stand in a
value.
-/

namespace ProvingGround.Yaml

/-! ### Bounded whole numbers -/

namespace Atom

theorem neg_le_of_readNegative {limit : Nat} {s : String} {n : Int}
    (h : readNegative limit s = some n) : -(limit : Int) ≤ n := by
  unfold readNegative at h
  split at h
  · split at h
    · cases h
    · obtain ⟨_, found, rfl⟩ := Option.map_eq_some_iff.1 h
      obtain ⟨k, within, ⟨⟩⟩ := Option.bind_eq_some_iff.1 found
      have bound := of_decide_eq_true (Option.filter_eq_some_iff.1 within).2
      omega
  · cases h

theorem neg_le_of_readInteger {s : String} {n : Int} (h : readInteger s = some (.signed n)) :
    -(Word.count 63 : Int) ≤ n := by
  unfold readInteger at h
  cases wide : readUnsigned (Word.count 64) s with
  | some k =>
    rw [wide] at h
    cases h
  | none =>
    cases narrow : readNegative (Word.count 63) s with
    | some k =>
      rw [wide, narrow] at h
      cases h
      exact neg_le_of_readNegative narrow
    | none =>
      rw [wide, narrow] at h
      simp at h

theorem neg_le_of_ofPlain {s : String} {n : Int} (h : ofPlain s = .signed n) :
    -(Word.count 63 : Int) ≤ n := by
  unfold ofPlain at h
  split at h
  · cases h
  split at h
  · cases h
  · next integer => exact neg_le_of_readInteger (h ▸ integer)
  · split at h
    · cases h
    · split at h <;> cases h

theorem neg_le_of_ofScalar {s : Scalar} {n : Int} (h : ofScalar s = .ok (.signed n)) :
    -(Word.count 63 : Int) ≤ n := by
  have plain (h : (Except.ok (ofPlain s.text) : Except String Atom) = .ok (.signed n)) :
      -(Word.count 63 : Int) ≤ n := neg_le_of_ofPlain (Except.ok.inj h)
  unfold ofScalar at h
  split at h
  · split at h
    · exact plain h
    · cases h
  · split at h
    · split at h <;> cases h
    split at h
    · split at h
      · next integer =>
        cases h
        exact neg_le_of_readInteger integer
      · cases h
    split at h
    · split at h <;> cases h
    split at h
    · split at h <;> cases h
    split at h
    · exact plain h
    · cases h

end Atom

/-- No whole number in the value is below the least of 64 bits. -/
inductive Value.Bounded : Value → Prop where
  | null : Bounded null
  | bool (b : Bool) : Bounded (bool b)
  | int {n : Int} (low : -(Word.count 63 : Int) ≤ n) : Bounded (int n)
  | float (x : Binary64) : Bounded (float x)
  | text (s : String) : Bounded (text s)
  | list {items : List Value} (each : ∀ v ∈ items, Bounded v) : Bounded (list items)
  | map {entries : List (Value × Value)} (each : ∀ e ∈ entries, Bounded e.2) : Bounded (map entries)

namespace Reading

variable {α β σ : Type} {r : Reading α} {f : α → Reading β} {P : α → Prop} {Q : β → Prop}

/-- Whatever the reading ends with has the property. -/
def Ensures (r : Reading α) (P : α → Prop) : Prop :=
  ∀ doc count a count', r doc count = .ok (a, count') → P a

theorem Ensures.pure {a : α} (h : P a) : Ensures (pure a) P := by
  rintro doc count _ _ ⟨⟩
  exact h

theorem Ensures.throw (fault : DecodeFault) : Ensures (throw fault : Reading α) P := by
  rintro doc count _ _ ⟨⟩

theorem Ensures.mismatch (message : String) : Ensures (mismatch message : Reading α) P := .throw _

theorem Ensures.bind (first : Ensures r P) (next : ∀ a, P a → Ensures (f a) Q) :
    Ensures (r >>= f) Q := by
  intro doc count b count' result
  have unfolded : (r doc count >>= fun p => f p.1 doc p.2) = .ok (b, count') := result
  cases ran : r doc count with
  | error fault =>
    rw [ran] at unfolded
    cases unfolded
  | ok p =>
    rw [ran] at unfolded
    exact next p.1 (first doc count p.1 p.2 ran) doc p.2 b count' unfolded

/-- A reading of which nothing is known. -/
theorem Ensures.after (r : Reading α) (next : ∀ a, Ensures (f a) Q) : Ensures (r >>= f) Q :=
  Ensures.bind (P := fun _ => True) (fun _ _ _ _ _ => trivial) fun a _ => next a

theorem Ensures.map {g : α → β} (h : Ensures r P) (imp : ∀ a, P a → Q (g a)) :
    Ensures (g <$> r) Q := by
  intro doc count b count' result
  have unfolded : (r doc count >>= fun p => Except.ok (g p.1, p.2)) = .ok (b, count') := result
  cases ran : r doc count with
  | error fault =>
    rw [ran] at unfolded
    cases unfolded
  | ok p =>
    rw [ran] at unfolded
    cases unfolded
    exact imp p.1 (h doc count p.1 p.2 ran)

theorem Ensures.locate (h : Ensures r P) (path : String) (m : Mark) :
    Ensures (locate path m r) P := by
  intro doc count a count' result
  unfold Reading.locate at result
  split at result
  · cases result
  · exact h doc count a count' result

theorem Ensures.atNode {read : Node → Reading α} (h : ∀ n, Ensures (read n) P) (path : String)
    (n : Node) : Ensures (atNode path n read) P := by
  unfold Reading.atNode
  split
  · exact .throw _
  · exact .locate (.after _ fun target => .locate (h target) path _) path _
  · exact .locate (h _) path _

/-! ### Loops -/

theorem Ensures.foldlM {I : σ → Prop} {step : σ → β → Reading σ} {bs : List β} {s : σ}
    (keeps : ∀ s, ∀ b ∈ bs, I s → Ensures (step s b) I) (start : I s) :
    Ensures (bs.foldlM step s) I := by
  induction bs generalizing s with
  | nil => exact .pure start
  | cons b bs ih =>
    rw [List.foldlM_cons]
    exact (keeps s b List.mem_cons_self start).bind fun s' kept =>
      ih (fun s b inside => keeps s b (List.mem_cons_of_mem _ inside)) kept

theorem Ensures.mapM {g : α → Reading β} (each : ∀ a, Ensures (g a) Q) (as : List α) :
    Ensures (as.mapM g) (∀ b ∈ ·, Q b) := by
  induction as with
  | nil => exact .pure fun b h => absurd h List.not_mem_nil
  | cons a as ih =>
    rw [List.mapM_cons]
    exact (each a).bind fun b first => ih.bind fun bs rest =>
      .pure (List.forall_mem_cons.2 ⟨first, rest⟩)

/-! ### Fields -/

theorem Ensures.wrongKind (n : Node) (expected : String) :
    Ensures (wrongKind n expected : Reading α) P := by
  unfold Reading.wrongKind
  split
  · split <;> exact .mismatch _
  all_goals exact .mismatch _

theorem Ensures.entries {read : Nat → List (Node × Node) → Reading α}
    (h : ∀ d es, Ensures (read d es) P) (expected path : String) (depth : Nat) (n : Node) :
    Ensures (entries expected path depth n read) P := by
  refine .atNode (fun n => ?_) path n
  split
  · unfold deeper
    split
    · exact .throw _
    · exact h _ _
  · split
    · exact h _ _
    · exact .wrongKind _ _

theorem Ensures.once {old : Option α} (before : ∀ a ∈ old, P a) (h : Ensures r P)
    (name : String) : Ensures (once name old r) (∀ a ∈ ·, P a) := by
  unfold Reading.once
  split
  · exact .mismatch _
  · exact h.map fun a ha b hb => (Option.mem_some.1 hb) ▸ ha

theorem Ensures.required {value : Option α} (before : ∀ a ∈ value, P a) (name : String) :
    Ensures (required name value) P := by
  unfold Reading.required
  split
  · exact .pure (before _ rfl)
  · exact .mismatch _

theorem Ensures.optional {read : Node → Reading α} (h : ∀ n, Ensures (read n) P) (n : Node) :
    Ensures (optional n read) (∀ a ∈ ·, P a) := by
  have some_ (n : Node) : Ensures (some <$> read n) (∀ a ∈ ·, P a) :=
    (h n).map fun a ha b hb => (Option.mem_some.1 hb) ▸ ha
  have none_ : Ensures (Pure.pure none : Reading (Option α)) (∀ a ∈ ·, P a) :=
    .pure fun a ha => by cases ha
  unfold Reading.optional
  dsimp only
  cases n <;> refine .after _ fun n => ?_
  all_goals
    split
    · exact .throw _
    · exact none_
    · split
      · exact some_ _
      split
      · split
        · exact none_
        · exact .mismatch _
      split
      · exact none_
      · exact some_ _
    · exact some_ _

theorem ensures_natural (limit : Nat) (expected path : String) (n : Node) :
    Ensures (natural limit expected path n) (· < limit) := by
  refine .atNode (fun n => ?_) path n
  split
  · split
    · dsimp only
      split
      · next below => exact .pure below
      · exact .mismatch _
    · exact .wrongKind _ _
  · exact .wrongKind _ _

theorem ensures_integer (bits : Nat) (expected path : String) (n : Node) :
    Ensures (integer bits expected path n) (Word.Signed bits) := by
  refine .atNode (fun n => ?_) path n
  split
  · split
    · dsimp only
      split
      · next within => exact .pure within
      · exact .mismatch _
    · exact .wrongKind _ _
  · exact .wrongKind _ _

/-! ### Values of any kind -/

theorem ensures_asInteger (bits : Nat) (expected : String) (v : Value) :
    Ensures (v.asInteger bits expected) (Word.Signed bits) := by
  unfold Value.asInteger
  split
  · split
    · next within => exact .pure within
    · exact .mismatch _
  · exact .mismatch _

theorem ensures_ofAtom {a : Atom} (low : ∀ n, a = .signed n → -(Word.count 63 : Int) ≤ n) :
    Ensures (Value.ofAtom a) Value.Bounded := by
  unfold Value.ofAtom
  split
  · exact .pure .null
  · exact .pure (.bool _)
  · exact .pure (.int (by omega))
  · exact .pure (.int (low _ rfl))
  · exact .pure (.float _)
  · exact .pure (.text _)
  · exact .mismatch _

theorem ensures_read_scalar (s : Scalar) :
    Ensures (Value.refuseLocalTag s.tag >>= fun _ => match Atom.ofScalar s with
      | .ok a => Value.ofAtom a
      | .error message => mismatch message) Value.Bounded := by
  refine .after _ fun _ => ?_
  split
  · next atom means => exact ensures_ofAtom fun n same => Atom.neg_le_of_ofScalar (same ▸ means)
  · exact .mismatch _

theorem ensures_read (depth : Nat) (path : String) (n : Node) :
    Ensures (Value.read depth path n) Value.Bounded := by
  induction depth generalizing path n with
  | zero =>
    unfold Value.read
    refine .atNode (fun n => ?_) path n
    split
    · exact ensures_read_scalar _
    · exact .after _ fun _ => .throw _
    · exact .after _ fun _ => .throw _
    · exact .pure .null
  | succ d ih =>
    unfold Value.read
    refine .atNode (fun n => ?_) path n
    split
    · exact ensures_read_scalar _
    · refine .after _ fun _ => Ensures.map (P := (∀ v ∈ ·, Value.Bounded v)) ?_ fun _ each =>
        .list each
      refine .mapM (fun entry => ?_) _
      exact ih _ entry.1
    · refine .after _ fun _ => Ensures.map (P := (∀ e ∈ ·, Value.Bounded e.2)) ?_ fun _ each =>
        .map each
      refine .mapM (fun entry => ?_) _
      exact .after _ fun key => (ih _ entry.2).bind fun value low => .pure low
    · exact .pure .null

end Reading

end ProvingGround.Yaml
