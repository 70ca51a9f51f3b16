/-!
# The machine of a run

What a run finds on its machine: the variables of the environment, and what lies at each path.
-/

namespace ProvingGround

/-- What lies at a path. -/
inductive FileContent where
  | text (s : String)
  /-- A file whose bytes are no UTF-8. -/
  | foreign
  | directory
  | missing
  deriving DecidableEq, Repr

namespace FileContent

def isFile : FileContent → Bool
  | text _ => true
  | foreign => true
  | directory => false
  | missing => false

/-- The text of a file, or why there is none. -/
def read : FileContent → Except String String
  | text s => .ok s
  | foreign => .error "stream did not contain valid UTF-8"
  | directory => .error "Is a directory (os error 21)"
  | missing => .error "No such file or directory (os error 2)"

theorem isFile_of_read {c : FileContent} {s : String} (h : c.read = .ok s) : c.isFile = true := by
  cases c <;> simp_all [read, isFile]

end FileContent

/-- The value of each variable that is set. -/
abbrev Variables := String → Option String

/-- A machine. -/
structure Machine where
  vars : Variables
  files : String → FileContent

end ProvingGround
