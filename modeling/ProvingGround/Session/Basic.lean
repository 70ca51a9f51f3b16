import ProvingGround.Session.Call
import ProvingGround.Time.Timer

/-!
# Sessions

A session is a world of services under a clock, with a journal of what happened: every call with its
answer, every phase that was entered, every scenario that began. Actions change a session; a task is
an action that may fail with a fault. An action that can never end, or that would need an instant
beyond the clock, halts.
-/

namespace ProvingGround

/-! ### Journal -/

structure Exchange where
  call : Call
  start : Duration
  finish : Duration
  result : Except Fault call.Answer

/-- Something worth a line in the journal. -/
inductive Event where
  /-- A call of the run. -/
  | exchanged (exchange : Exchange)
  /-- A call that a scenario made on its own. -/
  | probed (exchange : Exchange)
  | entered (phase : Phase) (clock : Duration)
  | began (scenario : String) (environment : Environment) (clock : Duration)

def Event.call? : Event → Option Call
  | exchanged e => some e.call
  | probed e => some e.call
  | _ => none

/-! ### Sessions -/

structure Session (σ : Type) where
  world : σ
  clock : Duration
  /-- The instant of the calendar at a time of the clock. -/
  calendar : Duration → Timestamp
  /-- The checks after which a poll without an interval is given up as endless. -/
  patience : Nat
  /-- What happened, the latest first. -/
  journal : List Event

namespace Session

variable {σ : Type}

/-- The patience of a session that is started. -/
def usualPatience : Nat := Word.count 20

/-- A session at the beginning of its clock. -/
def start (world : σ) (calendar : Duration → Timestamp) : Session σ :=
  ⟨world, .zero, calendar, usualPatience, []⟩

def today (s : Session σ) : Timestamp := s.calendar s.clock

/-- What happened, in order. -/
def history (s : Session σ) : List Event := s.journal.reverse

/-- The calls that were made, in order. -/
def calls (s : Session σ) : List Call := s.history.filterMap Event.call?

def pass (s : Session σ) (d : Duration) : Session σ :=
  { s with clock := ⟨s.clock.nanos + d.nanos⟩ }

def note (s : Session σ) (e : Event) : Session σ := { s with journal := e :: s.journal }

theorem history_note (s : Session σ) (e : Event) : (s.note e).history = s.history ++ [e] := by
  simp [note, history]

end Session

/-! ### Actions -/

/-- Why an action never gives a result. -/
inductive Halt where
  /-- A poll without an interval goes on and on while no time passes. -/
  | stalled
  | beyondClock
  deriving DecidableEq, Repr

/-- A change of a session. -/
abbrev Act (σ : Type) := ExceptT Halt (StateM (Session σ))

/-- A change of a session that may fail. -/
abbrev Task (σ : Type) := ExceptT Fault (Act σ)

namespace Act

variable {σ α : Type}

/-- What an action gives in a session, and the session after it. -/
def exec (a : Act σ α) (s : Session σ) : Except Halt α × Session σ := StateT.run (ExceptT.run a) s

def halt (h : Halt) : Act σ α := throw h

def clock : Act σ Duration := do return (← get).clock

def today : Act σ Timestamp := do return (← get).today

/-- The checks after which a poll without an interval is given up. -/
def patience : Act σ Nat := do return (← get).patience

def note (e : Event) : Act σ Unit := modify (·.note e)

def pass (d : Duration) : Act σ Unit := modify (·.pass d)

def sleep (d : Duration) : Act σ Unit :=
  modify fun s => { s with clock := Timer.fires s.clock d }

/-- The session after a call and the answer to it; the call is entered in the journal as given. -/
def exchange [Services σ] (entry : Exchange → Event) (c : Call) (s : Session σ) :
    Except Fault c.Answer × Session σ :=
  let (reply, world) := Services.respond s.world s.clock c
  let later := { s with world }.pass reply.delay
  (reply.result, later.note (entry ⟨c, s.clock, later.clock, reply.result⟩))

theorem exec_pure (a : α) (s : Session σ) : (pure a : Act σ α).exec s = (.ok a, s) := rfl

theorem exec_halt (h : Halt) (s : Session σ) : (halt h : Act σ α).exec s = (.error h, s) := rfl

theorem exec_clock (s : Session σ) : (clock : Act σ Duration).exec s = (.ok s.clock, s) := rfl

theorem exec_sleep (d : Duration) (s : Session σ) :
    (sleep d : Act σ Unit).exec s = (.ok (), { s with clock := Timer.fires s.clock d }) := rfl

theorem exec_bind {β : Type} (a : Act σ α) (next : α → Act σ β) (s : Session σ) :
    (a >>= next).exec s =
      match a.exec s with
      | (.ok value, later) => (next value).exec later
      | (.error h, later) => (.error h, later) := by
  unfold exec
  simp only [ExceptT.run, bind, ExceptT.bind, ExceptT.mk, StateT.bind, StateT.run]
  cases a s with
  | mk result later => cases result <;> rfl

end Act

namespace Task

variable {σ α : Type}

def call [Services σ] (c : Call) : Task σ c.Answer :=
  ExceptT.mk (modifyGet (Act.exchange .exchanged c))

def probe [Services σ] (c : Call) : Task σ c.Answer :=
  ExceptT.mk (modifyGet (Act.exchange .probed c))

/-- An action as a task that does not fail. -/
def lift (a : Act σ α) : Task σ α := ExceptT.lift a

def halt (h : Halt) : Task σ α := lift (Act.halt h)

def clock : Task σ Duration := lift Act.clock

/-- The checks after which a poll without an interval is given up. -/
def patience : Task σ Nat := lift Act.patience

def sleep (d : Duration) : Task σ Unit := lift (Act.sleep d)

def attempt (t : Task σ α) : Act σ (Except Fault α) := ExceptT.run t

/-- What a task gives in a session, and the session after it. -/
def exec (t : Task σ α) (s : Session σ) : Except Halt (Except Fault α) × Session σ :=
  t.attempt.exec s

theorem exec_pure (a : α) (s : Session σ) : (pure a : Task σ α).exec s = (.ok (.ok a), s) := rfl

theorem exec_throw (f : Fault) (s : Session σ) :
    (throw f : Task σ α).exec s = (.ok (.error f), s) := rfl

theorem exec_call [Services σ] (c : Call) (s : Session σ) :
    (call c : Task σ c.Answer).exec s =
      (.ok (Act.exchange .exchanged c s).1, (Act.exchange .exchanged c s).2) := rfl

theorem exec_probe [Services σ] (c : Call) (s : Session σ) :
    (probe c : Task σ c.Answer).exec s =
      (.ok (Act.exchange .probed c s).1, (Act.exchange .probed c s).2) := rfl

theorem exec_bind {β : Type} (t : Task σ α) (next : α → Task σ β) (s : Session σ) :
    (t >>= next).exec s =
      match t.exec s with
      | (.ok (.ok value), later) => (next value).exec later
      | (.ok (.error f), later) => (.ok (.error f), later)
      | (.error h, later) => (.error h, later) := by
  have h := Act.exec_bind t.attempt
    (fun
      | .ok value => (next value).attempt
      | .error f => (pure (.error f) : Act σ (Except Fault β))) s
  refine Eq.trans ?_ (h.trans ?_)
  · unfold exec attempt
    congr 1
    simp only [ExceptT.run, bind, ExceptT.bind, ExceptT.mk]
    congr 1
    funext r
    cases r with
    | ok r => cases r <;> rfl
    | error h => rfl
  · show _ = (match t.attempt.exec s with
      | (.ok (.ok value), later) => (next value).exec later
      | (.ok (.error f), later) => (.ok (.error f), later)
      | (.error h, later) => (.error h, later))
    cases t.attempt.exec s with
    | mk result later =>
      cases result with
      | error h => rfl
      | ok r => cases r <;> rfl

/-- What is right or wrong with what is configured. -/
def ofConfig (r : Except ConfigCause α) : Task σ α :=
  match r with
  | .ok a => pure a
  | .error cause => throw (.config cause)

end Task

end ProvingGround
