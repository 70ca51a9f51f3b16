import ProvingGround.Json.Value

/-!
# Taking JSON values apart

Members and items of a value by the kind that is expected, or a text that says what is missing. A
member that is null counts as absent.
-/

namespace ProvingGround.Json

/-- What was taken out of a value, or what is missing in it. -/
abbrev Decoded := Except String

def need {α : Type} (what : String) : Option α → Decoded α
  | some a => .ok a
  | none => .error what

/-! ### Values -/

def asItems (j : Json) : Decoded (List Json) := need "no list" j.items?

def asMembers (j : Json) : Decoded (List (String × Json)) := need "no object" j.members?

def asText (j : Json) : Decoded String := need "no text" j.text?

def asInt (j : Json) : Decoded Int := need "no whole number" j.int?

/-- A whole number that is not negative. -/
def asNat (j : Json) : Decoded Nat := need "no natural number" j.nat?

def asBool (j : Json) : Decoded Bool := need "no truth value" j.bool?

/-- Two whole numbers. -/
def asPair (j : Json) : Decoded (Int × Int) := do
  match ← j.asItems with
  | [a, b] => pure (← a.asInt, ← b.asInt)
  | _ => .error "no pair"

/-- A value that may be null. -/
def orNull {α : Type} (decode : Json → Decoded α) : Json → Decoded (Option α)
  | null => pure none
  | v => some <$> decode v

/-! ### Members -/

def member? (j : Json) (key : String) : Option Json :=
  match j.get? key with
  | some null => none
  | v => v

def member (j : Json) (key : String) : Decoded Json := need s!"missing {key}" (j.member? key)

/-- A member of a kind, if there is one. -/
def at? {α : Type} (decode : Json → Decoded α) (j : Json) (key : String) : Decoded (Option α) :=
  match j.member? key with
  | none => pure none
  | some v => some <$> decode v

def textAt (j : Json) (key : String) : Decoded String := do (← j.member key).asText

def natAt (j : Json) (key : String) : Decoded Nat := do (← j.member key).asNat

/-- Whether a member is there and true. -/
def flagAt (j : Json) (key : String) : Bool := ((j.member? key).bind bool?).getD false

/-- The items under a key, none when it is absent. -/
def itemsAt (j : Json) (key : String) : Decoded (List Json) :=
  match j.member? key with
  | none => pure []
  | some v => v.asItems

/-! ### Changing texts -/

mutual

/-- Changes every text of a value, but no key. -/
def mapTexts (f : String → String) : Json → Json
  | text s => text (f s)
  | list l => list (mapTextsItems f l)
  | object m => object (mapTextsMembers f m)
  | v => v

def mapTextsItems (f : String → String) : List Json → List Json
  | [] => []
  | v :: rest => mapTexts f v :: mapTextsItems f rest

def mapTextsMembers (f : String → String) : List (String × Json) → List (String × Json)
  | [] => []
  | (k, v) :: rest => (k, mapTexts f v) :: mapTextsMembers f rest

end

end ProvingGround.Json
