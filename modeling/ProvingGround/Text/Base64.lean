/-!
# Base64

Bytes as text: three bytes become four digits of the standard alphabet, and a last group of one or
two bytes is padded. Reading accepts what writing produces, and no digit carries bits that no byte
has.
-/

namespace ProvingGround.Base64

/-! ### Digits -/

/-- The digits in the order of their values. -/
def alphabet : List Char :=
  "ABCDEFGHIJKLMNOPQRSTUVWXYZabcdefghijklmnopqrstuvwxyz0123456789+/".toList

def digit (n : Nat) : Char := alphabet.getD n '='

def value? (c : Char) : Option Nat := alphabet.findIdx? (· == c)

theorem value?_digit {n : Nat} (h : n < 64) : value? (digit n) = some n := by
  have all : ∀ k : Fin 64, value? (digit k) = some k.1 := by decide +kernel
  exact all ⟨n, h⟩

theorem digit_ne_pad {n : Nat} (h : n < 64) : digit n ≠ '=' := by
  have all : ∀ k : Fin 64, digit k ≠ '=' := by decide +kernel
  exact all ⟨n, h⟩

/-! ### Writing -/

def encode : List UInt8 → List Char
  | [] => []
  | [a] => [digit (a.toNat / 4), digit (a.toNat % 4 * 16), '=', '=']
  | [a, b] =>
    [digit (a.toNat / 4), digit (a.toNat % 4 * 16 + b.toNat / 16), digit (b.toNat % 16 * 4), '=']
  | a :: b :: c :: rest =>
    digit (a.toNat / 4) :: digit (a.toNat % 4 * 16 + b.toNat / 16) ::
      digit (b.toNat % 16 * 4 + c.toNat / 64) :: digit (c.toNat % 64) :: encode rest

/-- A text in its bytes, as digits. -/
def ofText (s : String) : String := String.ofList (encode s.toUTF8.toList)

/-! ### Reading -/

/-- The byte of a number below 256. -/
def byte (n : Nat) : UInt8 := UInt8.ofNat n

def decode : List Char → Option (List UInt8)
  | [] => some []
  | [p, q, '=', '='] => do
    let p ← value? p
    let q ← value? q
    if q % 16 = 0 then some [byte (p * 4 + q / 16)] else none
  | [p, q, r, '='] => do
    let p ← value? p
    let q ← value? q
    let r ← value? r
    if r % 4 = 0 then some [byte (p * 4 + q / 16), byte (q % 16 * 16 + r / 4)] else none
  | p :: q :: r :: s :: rest => do
    let p ← value? p
    let q ← value? q
    let r ← value? r
    let s ← value? s
    let bytes ← decode rest
    some (byte (p * 4 + q / 16) :: byte (q % 16 * 16 + r / 4) :: byte (r % 4 * 64 + s) :: bytes)
  | _ => none

/-! ### What is written is read back -/

theorem byte_toNat (a : UInt8) : byte a.toNat = a := UInt8.ofNat_toNat

theorem decode_encode (bytes : List UInt8) : decode (encode bytes) = some bytes := by
  fun_induction encode bytes with
  | case1 => rfl
  | case2 a =>
    have ha := a.toNat_lt
    have h0 : a.toNat % 4 * 16 / 16 = a.toNat % 4 := Nat.mul_div_cancel _ (by decide)
    have h1 : a.toNat / 4 * 4 + a.toNat % 4 = a.toNat := by omega
    simp [decode, value?_digit (n := a.toNat / 4) (by omega),
      value?_digit (n := a.toNat % 4 * 16) (by omega), h0, h1, byte_toNat]
  | case3 a b =>
    have ha := a.toNat_lt
    have hb := b.toNat_lt
    have hp := digit_ne_pad (n := b.toNat % 16 * 4) (by omega)
    have h1 : a.toNat / 4 * 4 + (a.toNat % 4 * 16 + b.toNat / 16) / 16 = a.toNat := by omega
    have h2 : (a.toNat % 4 * 16 + b.toNat / 16) % 16 * 16 + b.toNat % 16 * 4 / 4 = b.toNat := by
      omega
    rw [decode]
    · simp only [value?_digit (n := a.toNat / 4) (by omega),
        value?_digit (n := a.toNat % 4 * 16 + b.toNat / 16) (by omega),
        value?_digit (n := b.toNat % 16 * 4) (by omega), Option.bind_eq_bind, Option.bind_some]
      rw [if_pos (by omega), h1, h2, byte_toNat, byte_toNat]
    · intro h
      exact hp h
  | case4 a b c rest ih =>
    have ha := a.toNat_lt
    have hb := b.toNat_lt
    have hc := c.toNat_lt
    have hp := digit_ne_pad (n := b.toNat % 16 * 4 + c.toNat / 64) (by omega)
    have hq := digit_ne_pad (n := c.toNat % 64) (by omega)
    have h1 : a.toNat / 4 * 4 + (a.toNat % 4 * 16 + b.toNat / 16) / 16 = a.toNat := by omega
    have h2 : (a.toNat % 4 * 16 + b.toNat / 16) % 16 * 16 +
        (b.toNat % 16 * 4 + c.toNat / 64) / 4 = b.toNat := by omega
    have h3 : (b.toNat % 16 * 4 + c.toNat / 64) % 4 * 64 + c.toNat % 64 = c.toNat := by omega
    rw [decode]
    · simp only [value?_digit (n := a.toNat / 4) (by omega),
        value?_digit (n := a.toNat % 4 * 16 + b.toNat / 16) (by omega),
        value?_digit (n := b.toNat % 16 * 4 + c.toNat / 64) (by omega),
        value?_digit (n := c.toNat % 64) (by omega), ih, Option.bind_eq_bind, Option.bind_some]
      rw [h1, h2, h3, byte_toNat, byte_toNat, byte_toNat]
    · intro h _
      exact absurd h hp
    · intro h _
      exact absurd h hq
end ProvingGround.Base64
