/-!
# Values under text keys, in key order

A `Keyed` holds at most one value under each key and lists its entries in increasing order of the
keys, compared code point by code point. Two of them with the same look-ups are equal, because the
order is part of the type.
-/

namespace ProvingGround

/-- Entries under increasing keys. -/
structure Keyed (α : Type) where
  /-- The entries in key order. -/
  toList : List (String × α)
  sorted : toList.Pairwise (fun a b => a.1 < b.1)

namespace Keyed

variable {α β : Type}

@[ext]
theorem ext {m n : Keyed α} (h : m.toList = n.toList) : m = n := by
  cases m
  cases n
  simp_all

instance [DecidableEq α] : DecidableEq (Keyed α) := fun m n =>
  decidable_of_iff (m.toList = n.toList) ⟨ext, fun h => h ▸ rfl⟩

instance [Repr α] : Repr (Keyed α) := ⟨fun m p => reprPrec m.toList p⟩

/-! ### Building -/

/-- No entries. -/
def empty : Keyed α := ⟨[], List.Pairwise.nil⟩

instance : EmptyCollection (Keyed α) := ⟨empty⟩

instance : Inhabited (Keyed α) := ⟨empty⟩

/-- The entries with `value` under `key`, in place of a value that stood there before. -/
def insertEntry (key : String) (value : α) : List (String × α) → List (String × α)
  | [] => [(key, value)]
  | (k, v) :: rest =>
    if key < k then (key, value) :: (k, v) :: rest
    else if key = k then (key, value) :: rest
    else (k, v) :: insertEntry key value rest

theorem mem_insertEntry {key : String} {value : α} {e : String × α} {l : List (String × α)}
    (h : e ∈ insertEntry key value l) : e = (key, value) ∨ e ∈ l := by
  induction l with
  | nil => simpa [insertEntry] using h
  | cons a l ih =>
    obtain ⟨k, v⟩ := a
    simp only [insertEntry] at h
    split at h
    · simpa using h
    · split at h
      · rcases List.mem_cons.1 h with h | h
        · exact .inl h
        · exact .inr (List.mem_cons_of_mem _ h)
      · rcases List.mem_cons.1 h with h | h
        · exact .inr (h ▸ List.mem_cons_self ..)
        · exact (ih h).imp id (List.mem_cons_of_mem _)

theorem lt_of_not_lt_of_ne {a b : String} (h : ¬a < b) (hne : a ≠ b) : b < a :=
  Classical.byContradiction fun hba =>
    hne (String.le_antisymm (String.not_lt.1 hba) (String.not_lt.1 h))

theorem pairwise_insertEntry (key : String) (value : α) (l : List (String × α))
    (h : l.Pairwise (fun a b => a.1 < b.1)) :
    (insertEntry key value l).Pairwise (fun a b => a.1 < b.1) := by
  induction l with
  | nil => simp [insertEntry]
  | cons a l ih =>
    obtain ⟨k, v⟩ := a
    rw [List.pairwise_cons] at h
    simp only [insertEntry]
    split
    · next hlt =>
      refine List.pairwise_cons.2 ⟨fun e he => ?_, List.pairwise_cons.2 h⟩
      rcases List.mem_cons.1 he with he | he
      · exact he ▸ hlt
      · exact String.lt_trans hlt (h.1 e he)
    · next hlt =>
      split
      · next heq => exact List.pairwise_cons.2 ⟨fun e he => heq ▸ h.1 e he, h.2⟩
      · next hne =>
        refine List.pairwise_cons.2 ⟨fun e he => ?_, ih h.2⟩
        rcases mem_insertEntry he with he | he
        · exact he ▸ lt_of_not_lt_of_ne hlt hne
        · exact h.1 e he

def insert (m : Keyed α) (key : String) (value : α) : Keyed α :=
  ⟨insertEntry key value m.toList, pairwise_insertEntry key value m.toList m.sorted⟩

/-- Entries in any order; of several under one key the last counts. -/
def ofList (entries : List (String × α)) : Keyed α :=
  entries.foldl (fun m e => m.insert e.1 e.2) empty

/-! ### Looking up -/

def get? (m : Keyed α) (key : String) : Option α := m.toList.lookup key

/-- No entry at all. -/
def isEmpty (m : Keyed α) : Bool := m.toList.isEmpty

def keys (m : Keyed α) : List String := m.toList.map Prod.fst

/-- The same keys with other values. -/
def map (f : α → β) (m : Keyed α) : Keyed β :=
  ⟨m.toList.map fun e => (e.1, f e.2), by
    rw [List.pairwise_map]
    exact m.sorted⟩

theorem toList_empty : (empty : Keyed α).toList = [] := rfl

theorem toList_insert (m : Keyed α) (key : String) (value : α) :
    (m.insert key value).toList = insertEntry key value m.toList := rfl

theorem lookup_insertEntry_self (key : String) (value : α) (l : List (String × α)) :
    (insertEntry key value l).lookup key = some value := by
  induction l with
  | nil => simp [insertEntry]
  | cons a l ih =>
    obtain ⟨k, v⟩ := a
    simp only [insertEntry]
    split
    · simp
    · split
      · simp
      · next hne =>
        have hb : (key == k) = false := beq_eq_false_iff_ne.2 hne
        simp [List.lookup_cons, hb, ih]

theorem get?_insert_self (m : Keyed α) (key : String) (value : α) :
    (m.insert key value).get? key = some value :=
  lookup_insertEntry_self key value m.toList

theorem lookup_insertEntry_of_ne {key other : String} (hne : other ≠ key) (value : α)
    (l : List (String × α)) : (insertEntry key value l).lookup other = l.lookup other := by
  have hb : (other == key) = false := beq_eq_false_iff_ne.2 hne
  induction l with
  | nil => simp [insertEntry, List.lookup_cons, hb]
  | cons a l ih =>
    obtain ⟨k, v⟩ := a
    simp only [insertEntry]
    split
    · simp [List.lookup_cons, hb]
    · split
      · next heq =>
        subst heq
        simp [List.lookup_cons, hb]
      · simp [List.lookup_cons, ih]

theorem get?_insert_of_ne (m : Keyed α) {key other : String} (hne : other ≠ key) (value : α) :
    (m.insert key value).get? other = m.get? other :=
  lookup_insertEntry_of_ne hne value m.toList

end Keyed

end ProvingGround
