import ProvingGround.Session.Basic
import ProvingGround.Text.Blank

/-!
# Claiming a namespace

A run works in a namespace of its own. The name asked for is taken when it is free; a run that asks
for none gets a generated one.
-/

namespace ProvingGround

open Text

variable {σ : Type} [Services σ]

/-- The name asked for without blanks around it, or a generated one when nothing is left. -/
def resolveName (operator : String) (draws : SuffixDraws) (requested : Option String) : String :=
  match requested with
  | none => generatedName operator draws
  | some name => if isAllBlank name then generatedName operator draws else trim name

def claimNamespace (name : String) : Task σ Unit := do
  let existing ← Task.call .listNamespaces
  if existing.contains name then throw (.duplicateResource "namespace" name)
  else Task.call (.createNamespace name)

/-- Creates the namespace asked for, or a generated one, and gives its name. -/
def provisionNamespace (operator : String) (draws : SuffixDraws) (requested : Option String) :
    Task σ String := do
  let name := resolveName operator draws requested
  claimNamespace name
  pure name

end ProvingGround
