import ProvingGround.Machine
import ProvingGround.Text.Digit
import ProvingGround.Word

/-!
# The command line

A line is read from left to right and the first thing that ends it counts: a call for help or for
the version, or a word that is out of place. Every option stands at most once. The file of the
network may be named by a variable in place of an option.
-/

namespace ProvingGround

open Text

/-! ### Lines -/

/-- What a run is asked to do. -/
structure Invocation where
  /-- The file of the network. -/
  config : String
  /-- A failure of setup is raised and nothing is torn down. -/
  debug : Bool
  /-- Nothing is created. -/
  skip : Bool
  /-- The epochs that the network has to live. -/
  epochs : Nat
  deriving DecidableEq, Repr

inductive Misuse where
  | unexpectedWord (word : String)
  | missingValue (name : String)
  | invalidValue (name value : String)
  /-- A flag was given a value. -/
  | needlessValue (name : String)
  | repeated (name : String)
  | missingConfig
  deriving DecidableEq, Repr

def Misuse.text : Misuse → String
  | unexpectedWord word => s!"unexpected argument '{word}' found"
  | missingValue name => s!"a value is required for '--{name}' but none was supplied"
  | invalidValue name value => s!"invalid value '{value}' for '--{name}'"
  | needlessValue name => s!"unexpected value for '--{name}' found; no more were expected"
  | repeated name => s!"the argument '--{name}' cannot be used multiple times"
  | missingConfig => "the following required arguments were not provided: --config <CONFIG>"

/-- Why a line asks for no run. -/
inductive LineEnd where
  | help
  | version
  | misuse (m : Misuse)
  deriving DecidableEq, Repr

namespace CommandLine

/-! ### Words -/

inductive Flag where
  | debug
  | skip
  deriving DecidableEq, Repr

inductive Setting where
  | config
  | epochs
  deriving DecidableEq, Repr

def Flag.name : Flag → String
  | debug => "debug"
  | skip => "skip"

def Setting.name : Setting → String
  | config => "config"
  | epochs => "epochs"

/-- A word of a line. -/
inductive Word where
  | flag (f : Flag)
  /-- An option, with the value that stands in the same word. -/
  | setting (s : Setting) (value : Option String)
  | stop (e : LineEnd)
  /-- After this word no option follows. -/
  | separator
  deriving DecidableEq, Repr

/-- A word that only stands without a value. -/
def Word.bare (w : Word) (name : String) (value : Option String) : Word :=
  if value.isSome then .stop (.misuse (.needlessValue name)) else w

/-- The word of a long name, and perhaps of a value behind an equals sign. -/
def Word.ofLong (name : List Char) (value : Option String) : Word :=
  match String.ofList name with
  | "config" => .setting .config value
  | "epochs" => .setting .epochs value
  | "debug" => Word.bare (.flag .debug) "debug" value
  | "skip" => Word.bare (.flag .skip) "skip" value
  | "help" => Word.bare (.stop .help) "help" value
  | "version" => Word.bare (.stop .version) "version" value
  | other => .stop (.misuse (.unexpectedWord ("--" ++ other)))

/-- What follows a character, if it occurs. -/
def after? (c : Char) (cs : List Char) : Option String :=
  match cs.dropWhile (· != c) with
  | _ :: rest => some (String.ofList rest)
  | [] => none

/-- A value in the word of a short name. -/
def attached? : List Char → Option String
  | [] => none
  | '=' :: value => some (String.ofList value)
  | value => some (String.ofList value)

def Word.ofText (s : String) : Word :=
  match s.toList with
  | ['-', '-'] => .separator
  | '-' :: '-' :: cs => Word.ofLong (cs.takeWhile (· != '=')) (after? '=' cs)
  | '-' :: 'c' :: value => .setting .config (attached? value)
  | '-' :: 'h' :: _ => .stop .help
  | '-' :: 'V' :: _ => .stop .version
  | _ => .stop (.misuse (.unexpectedWord s))

/-- A text can be the value of the option before it: a dash begins an option, unless it stands
alone. -/
def isValue (s : String) : Bool :=
  match s.toList with
  | ['-'] => true
  | '-' :: _ => false
  | _ => true

/-! ### Reading -/

/-- What has been read of a line. -/
structure Draft where
  config : Option String := none
  epochs : Option Nat := none
  debug : Bool := false
  skip : Bool := false
  deriving DecidableEq, Repr

/-- A path has at least one character. -/
def readPath (name value : String) : Except LineEnd String :=
  if value.isEmpty then .error (.misuse (.missingValue name)) else .ok value

/-- A number below 2^64. -/
def readCount (name value : String) : Except LineEnd Nat :=
  match readNatural (Word.count 64) value with
  | some n => .ok n
  | none => .error (.misuse (.invalidValue name value))

/-- A flag that has not been raised before. -/
def Draft.raise (d : Draft) (f : Flag) : Except LineEnd Draft :=
  let again : Except LineEnd Draft := .error (.misuse (.repeated f.name))
  match f with
  | .debug => if d.debug then again else .ok { d with debug := true }
  | .skip => if d.skip then again else .ok { d with skip := true }

/-- An option that has not been given before. -/
def Draft.give (d : Draft) (s : Setting) (value : String) : Except LineEnd Draft :=
  let again : Except LineEnd Draft := .error (.misuse (.repeated s.name))
  match s with
  | .config =>
    if d.config.isSome then again
    else (readPath s.name value).map fun path => { d with config := some path }
  | .epochs =>
    if d.epochs.isSome then again
    else (readCount s.name value).map fun n => { d with epochs := some n }

def readWords (d : Draft) : List String → Except LineEnd Draft
  | [] => .ok d
  | [word] =>
    match Word.ofText word with
    | .flag f => d.raise f
    | .setting s (some value) => d.give s value
    | .setting s none => .error (.misuse (.missingValue s.name))
    | .stop e => .error e
    | .separator => .ok d
  | word :: next :: rest =>
    match Word.ofText word with
    | .flag f => do readWords (← d.raise f) (next :: rest)
    | .setting s (some value) => do readWords (← d.give s value) (next :: rest)
    | .setting s none =>
      if isValue next then do readWords (← d.give s next) rest
      else .error (.misuse (.missingValue s.name))
    | .stop e => .error e
    | .separator => .error (.misuse (.unexpectedWord next))

/-- The epochs of a run that names none. -/
def usualEpochs : Nat := 2

/-- The variable that names the file of the network. -/
def configVariable : String := "HARNESS_CONFIG"

/-- The run that a line asks for. -/
def read (vars : Variables) (words : List String) : Except LineEnd Invocation := do
  let d ← readWords {} words
  let config ← match d.config, vars configVariable with
    | some path, _ => .ok path
    | none, some path => readPath "config" path
    | none, none => .error (.misuse .missingConfig)
  .ok ⟨config, d.debug, d.skip, d.epochs.getD usualEpochs⟩

end CommandLine

end ProvingGround
