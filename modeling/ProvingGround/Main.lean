import ProvingGround.Program

/-!
# The command line of the program

The outermost layer: it collects the variables and the files that a run may look at, runs the
program, and writes the log and the ending. This build holds no network, so that no run gets as far
as its calendar.
-/

namespace ProvingGround

/-! ### The machine -/

def collectVariables : List String → IO (List (String × String))
  | [] => pure []
  | name :: rest => do
    let others ← collectVariables rest
    match ← IO.getEnv name with
    | some value => pure ((name, value) :: others)
    | none => pure others

def inspectPath (path : String) : IO FileContent := do
  try
    let bytes ← IO.FS.readBinFile path
    match String.fromUTF8? bytes with
    | some s => pure (.text s)
    | none => pure .foreign
  catch
    | .inappropriateType .. => pure .directory
    | _ => pure .missing

def collectFiles : List String → IO (List (String × FileContent))
  | [] => pure []
  | path :: rest => do
    let content ← inspectPath path
    let others ← collectFiles rest
    pure ((path, content) :: others)

/-- The part of the machine that a run may look at. -/
def collectMachine (words : List String) : IO Machine := do
  let values ← collectVariables Program.variableNames
  let vars : Variables := fun name => values.lookup name
  let contents ← collectFiles (Program.paths vars words)
  pure ⟨vars, fun path => (contents.lookup path).getD .missing⟩

/-! ### The program -/

def launch (words : List String) : IO UInt32 := do
  let machine ← collectMachine words
  let seed ← IO.rand 0 (Nat.pow 36 suffixLength - 1)
  let (ending, log) := Program.run noNet machine ⟨fun _ => ⟨0⟩, .ofNat seed⟩ words
  for line in log do
    IO.println line.toJson.render
  if let some text := ending.output then
    IO.println text
  if let some text := ending.complaint then
    IO.eprintln text
  pure ending.exitCode.toUInt32

end ProvingGround

def main (words : List String) : IO UInt32 := ProvingGround.launch words
