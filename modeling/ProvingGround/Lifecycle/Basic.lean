import ProvingGround.Deployment.Logging
import ProvingGround.Deployment.Nodes
import ProvingGround.Genesis.Wait
import ProvingGround.Namespace.Claim
import ProvingGround.Pool.Scale
import ProvingGround.Teardown.Report

/-!
# The lifecycle of a run

A run is set up once, hands its network to scenarios, and is torn down once. Where it stands is one
of the phases; every step asks the table of transitions first, and is refused without any effect
where the table has no edge. What setup has reached stays in the record when setup fails.
-/

namespace ProvingGround

open Text

/-! ### The record of a run -/

structure Lifecycle where
  blueprint : Blueprint
  settings : Settings
  /-- The generated name of the run, which stands in for a namespace. -/
  runId : String
  phase : Phase
  /-- The phases before the present one, the latest first. -/
  past : List Phase
  /-- The namespace that the run created. -/
  ns : Option String
  indexDate : String
  /-- The teardown task has been built. -/
  reported : Bool
  deriving DecidableEq, Repr

namespace Lifecycle

/-- A run that has not started, made at an instant. -/
def create (b : Blueprint) (s : Settings) (draws : SuffixDraws) (now : Timestamp) : Lifecycle where
  blueprint := b
  settings := s
  runId := generatedName s.operator draws
  phase := .notStarted
  past := []
  ns := none
  indexDate := now.indexDate
  reported := false

/-- Every phase of the run up to now, in order. -/
def history (l : Lifecycle) : List Phase := (l.phase :: l.past).reverse

/-- The namespace that setup goes for: the one configured, else the name of the run, without blanks
around it. -/
def targetNamespace (l : Lifecycle) : String :=
  trim (if isAllBlank l.blueprint.ns then l.runId else l.blueprint.ns)

/-- The name that stands for the run in its teardown task. -/
def ownName (l : Lifecycle) : String := l.ns.getD l.runId

/-- The run in another phase. -/
def enter (l : Lifecycle) (p : Phase) : Lifecycle :=
  { l with phase := p, past := l.phase :: l.past }

theorem history_enter (l : Lifecycle) (p : Phase) : (l.enter p).history = l.history ++ [p] := by
  simp [enter, history]

end Lifecycle

/-! ### Operations -/

/-- An operation on a run in a session. -/
abbrev Operation (σ : Type) := StateT Lifecycle (Act σ)

/-- An operation that may fail in a phase. -/
abbrev Step (σ : Type) := ExceptT PhaseFailure (Operation σ)

namespace Operation

variable {σ α : Type}

/-- What an operation gives on a run in a session, the run and the session after it. -/
def exec (o : Operation σ α) (l : Lifecycle) (s : Session σ) :
    Except Halt (α × Lifecycle) × Session σ := Act.exec (StateT.run o l) s

theorem exec_pure (a : α) (l : Lifecycle) (s : Session σ) :
    (pure a : Operation σ α).exec l s = (.ok (a, l), s) := rfl

theorem exec_bind {β : Type} (o : Operation σ α) (next : α → Operation σ β) (l : Lifecycle)
    (s : Session σ) :
    (o >>= next).exec l s =
      match o.exec l s with
      | (.ok (value, run), later) => (next value).exec run later
      | (.error h, later) => (.error h, later) := by
  unfold exec
  rw [StateT.run_bind, Act.exec_bind]
  cases Act.exec (StateT.run o l) s with
  | mk result later => cases result <;> rfl

/-- An action that leaves the record alone. -/
def act (a : Act σ α) : Operation σ α := StateT.lift a

/-- Follows a trigger, if the table has an edge for it. -/
def fire (t : Trigger) : Operation σ (Except Fault Unit) := do
  let l ← get
  match Transition.find? l.phase t with
  | some edge =>
    set (l.enter edge.target)
    act do Act.note (.entered edge.target (← Act.clock))
    pure (.ok ())
  | none => pure (.error (.invalidTransition l.phase t))

end Operation

namespace Step

variable {σ α : Type}

/-- What a step gives on a run in a session, the run and the session after it. -/
def exec (t : Step σ α) (l : Lifecycle) (s : Session σ) :
    Except Halt (Except PhaseFailure α × Lifecycle) × Session σ := Operation.exec (ExceptT.run t) l s

theorem exec_pure (a : α) (l : Lifecycle) (s : Session σ) :
    (pure a : Step σ α).exec l s = (.ok (.ok a, l), s) := rfl

theorem exec_bind {β : Type} (t : Step σ α) (next : α → Step σ β) (l : Lifecycle)
    (s : Session σ) :
    (t >>= next).exec l s =
      match t.exec l s with
      | (.ok (.ok value, run), later) => (next value).exec run later
      | (.ok (.error failure, run), later) => (.ok (.error failure, run), later)
      | (.error h, later) => (.error h, later) := by
  unfold exec
  rw [ExceptT.run_bind, Operation.exec_bind]
  cases Operation.exec (ExceptT.run t) l s with
  | mk result later =>
    cases result with
    | error h => rfl
    | ok pair =>
      obtain ⟨r, run⟩ := pair
      cases r <;> rfl

def lift (o : Operation σ α) : Step σ α := ExceptT.lift o

def record : Step σ Lifecycle := lift get

def update (f : Lifecycle → Lifecycle) : Step σ Unit := lift (modify f)

def fail (p : Phase) (f : Fault) : Step σ α := throw ⟨p, f⟩

/-- A task whose faults belong to a phase. -/
def task (p : Phase) (t : Task σ α) : Step σ α := do
  match ← lift (Operation.act t.attempt) with
  | .ok a => pure a
  | .error f => fail p f

/-- Follows a trigger; a refusal belongs to a phase. -/
def advance (p : Phase) (t : Trigger) : Step σ Unit := do
  match ← lift (Operation.fire t) with
  | .ok () => pure ()
  | .error f => fail p f

end Step

end ProvingGround
