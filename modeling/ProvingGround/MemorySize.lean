import ProvingGround.Fault.Config
import ProvingGround.Text.Blank
import ProvingGround.Text.Digit
import ProvingGround.Word

/-!
# Memory sizes

A memory size is a run of digits, white space, a unit letter for kilo-, mega- or gigabytes in either
case, an optional `i` and an optional `b` in either case. Its value is a number of megabytes,
rounded up. A bare number is refused, because its unit cannot be known. Digits of other scripts
belong to the grammar, but no number is read from them.
-/

namespace ProvingGround

open Text

inductive MemoryUnit where
  | kilo
  | mega
  | giga
  deriving DecidableEq, Repr

namespace MemoryUnit

def ofChar? : Char → Option MemoryUnit
  | 'K' | 'k' => some kilo
  | 'M' | 'm' => some mega
  | 'G' | 'g' => some giga
  | _ => none

def megabytes : MemoryUnit → Nat → Nat
  | kilo, n => (n + 1023) / 1024
  | mega, n => n
  | giga, n => n * 1024

end MemoryUnit

namespace MemorySize

/-- The end of a size behind the unit letter: `i` and `b` are optional. -/
def isSuffix : List Char → Bool
  | [] | ['i'] | ['b'] | ['B'] | ['i', 'b'] | ['i', 'B'] => true
  | _ => false

/-- The unit behind the digits and white space. -/
def unit? : List Char → Option MemoryUnit
  | c :: rest => if isSuffix rest then MemoryUnit.ofChar? c else none
  | [] => none

/-- The digits and the unit of a size in the grammar. -/
def split? (cs : List Char) : Option (List Char × MemoryUnit) :=
  let digits := cs.takeWhile isDecimalDigit
  if digits.isEmpty then none
  else (unit? ((cs.dropWhile isDecimalDigit).dropWhile isBlank)).map fun u => (digits, u)

/-- The bound below which amounts and megabytes are. -/
def limit : Nat := Word.count 64

def amount? (digits : List Char) (unit : MemoryUnit) : Option Nat :=
  match readDigits digits with
  | none => none
  | some n => if n < limit ∧ unit.megabytes n < limit then some (unit.megabytes n) else none

def parse (size : String) : Except ConfigCause Nat :=
  match split? (trimList size.toList) with
  | none => .error (.malformedMemory size)
  | some (digits, unit) =>
    match amount? digits unit with
    | none => .error (.memoryOutOfRange size)
    | some n => .ok n

theorem parse_lt_limit {size : String} {n : Nat} (h : parse size = .ok n) : n < limit := by
  simp only [parse] at h
  split at h
  · cases h
  · next digits unit _ =>
    split at h
    · cases h
    · next m hm =>
      simp only [amount?] at hm
      split at hm
      · cases hm
      · split at hm
        · next hb =>
          simp only [Option.some.injEq] at hm
          simp only [Except.ok.injEq] at h
          omega
        · cases hm

end MemorySize

end ProvingGround
