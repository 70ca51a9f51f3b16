import ProvingGround.Text.Digit
import ProvingGround.Text.Radix
import ProvingGround.Word

/-!
# Addresses of the web

Which texts a request can be sent to. An address of the web has the scheme `http` or `https`, a host
and perhaps a port; what follows is always taken. A path of the cluster API is taken as it is, so
that it must not hold characters that a request line does not carry.
-/

namespace ProvingGround.Http

open Text

/-! ### Web addresses -/

/-- A character that is dropped anywhere in an address. -/
def isDropped (c : Char) : Bool := c == '\t' || c == '\n' || c == '\r'

/-- A character that is dropped at either end of an address. -/
def isPadding (c : Char) : Bool := c.toNat ≤ 0x20

def strip (cs : List Char) : List Char :=
  (((cs.dropWhile isPadding).reverse.dropWhile isPadding).reverse).filter fun c => !isDropped c

/-- What follows a scheme of the web. -/
def afterScheme? (cs : List Char) : Option (List Char) :=
  let head := (cs.takeWhile (· != ':')).map Char.toLower
  if head == "http".toList || head == "https".toList then
    match cs.dropWhile (· != ':') with
    | _ :: rest => some rest
    | [] => none
  else none

def isSlash (c : Char) : Bool := c == '/' || c == '\\'

/-- The end of the part that names the host. -/
def endsAuthority (c : Char) : Bool := isSlash c || c == '?' || c == '#'

/-- The host and port of what follows a scheme, without a user. -/
def hostAndPort (cs : List Char) : List Char :=
  let authority := (cs.dropWhile isSlash).takeWhile fun c => !endsAuthority c
  (authority.reverse.takeWhile (· != '@')).reverse

/-- The characters that a host's name stands for; what lies beyond ASCII stays as it is. -/
def decodePercent : List Char → List Char
  | '%' :: a :: b :: rest =>
    match hexValue? a, hexValue? b with
    | some x, some y => Char.ofNat (16 * x + y) :: decodePercent rest
    | _, _ => '%' :: decodePercent (a :: b :: rest)
  | c :: rest => c :: decodePercent rest
  | [] => []

/-- A part of an address in numbers: decimal, octal behind a zero, hexadecimal behind `0x`. -/
def readPart : List Char → Option Nat
  | ['0', 'x'] => some 0
  | ['0', 'X'] => some 0
  | '0' :: 'x' :: rest => readBase 16 rest
  | '0' :: 'X' :: rest => readBase 16 rest
  | '0' :: c :: rest => readBase 8 (c :: rest)
  | cs => readBase 10 cs

/-- The parts of a host between points, without an empty one at the end. -/
def hostParts (host : List Char) : List (List Char) :=
  let parts := host.splitOn '.'
  if parts.length > 1 && parts.getLast? == some [] then parts.dropLast else parts

/-- A host whose last part is a number is an address in numbers. -/
def endsInNumber (host : List Char) : Bool :=
  match (hostParts host).getLast? with
  | some last => (!last.isEmpty && last.all isAsciiDigit) || (readPart last).isSome
  | none => false

/-- The parts of an address in numbers: each but the last is a byte, and the last fills up four
bytes. -/
def isNumericHost (host : List Char) : Bool :=
  match (hostParts host).mapM readPart with
  | none => false
  | some numbers =>
    numbers.length ≤ 4 && numbers.dropLast.all (· < 256) &&
      (numbers.getLast?.all fun n => n < Word.count (8 * (5 - numbers.length)))

def isForbiddenInHost (c : Char) : Bool :=
  c.toNat ≤ 0x20 || c.toNat == 0x7F || "#/:<>?@[\\]^|%".toList.contains c

/-- A port is empty or a number of 16 bits. -/
def isPort (cs : List Char) : Bool :=
  cs.isEmpty || ((readDigits cs).any fun n => n < Word.count 16)

def isHostAndPort (cs : List Char) : Bool :=
  match cs with
  | '[' :: rest =>
    let inner := rest.takeWhile (· != ']')
    let digits := inner.all fun c => c == ':' || c == '.' || isAsciiDigit c ||
      ('a' ≤ c.toLower && c.toLower ≤ 'f')
    match rest.dropWhile (· != ']') with
    | [']'] => digits && inner.contains ':'
    | ']' :: ':' :: port => digits && inner.contains ':' && isPort port
    | _ => false
  | _ =>
    let host := decodePercent (cs.takeWhile (· != ':'))
    let port := (cs.dropWhile (· != ':')).drop 1
    !host.isEmpty && !host.any isForbiddenInHost && (!endsInNumber host || isNumericHost host) &&
      isPort port

/-- A request can be sent to the address. -/
def isWebAddress (s : String) : Bool :=
  match afterScheme? (strip s.toList) with
  | some rest => isHostAndPort (hostAndPort rest)
  | none => false

/-! ### What a request line and a header carry -/

def isPathChar (c : Char) : Bool :=
  c.toNat ≥ 0x7F || (c.toNat > 0x20 && !"#<>`?".toList.contains c)

def isQueryChar (c : Char) : Bool :=
  c.toNat ≥ 0x7F || (c.toNat > 0x20 && !"\"#<>".toList.contains c)

/-- A path as it is, with a query if it holds a question mark. -/
def isRequestPath (s : String) : Bool :=
  let path := s.toList.takeWhile isPathChar
  match s.toList.drop path.length with
  | [] => true
  | '?' :: query => (query.takeWhile (· != '#')).all isQueryChar
  | c :: _ => c == '#'

def isHeaderText (s : String) : Bool :=
  s.toList.all fun c => c == '\t' || (c.toNat ≥ 0x20 && c.toNat != 0x7F)

end ProvingGround.Http
