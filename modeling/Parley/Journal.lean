import Parley.Value

/-!
# The journal of a run

Whatever happens on the way to an answer is written down in order: what the delivery hook was
asked, which handlers ran, how mailboxes were called, and what was logged. A run may end in a panic; what was written before
it stays.

## Main definitions

- `Level`, `Entry` — the log
- `Event` — what is written down
- `Traced` — a result with the events on the way to it
- `Act` — the same for runs that change a state

## Design notes

A panic ends a run but undoes nothing, neither events nor changes of state. Both kinds of run
therefore give their events, and `Act` its state, beside a result that is a value or a panic.
-/

namespace Parley

/-- How important a log entry is. -/
inductive Level
  | error
  | warn
  | info
  | debug
  | trace
  deriving Repr, DecidableEq

/-- The name of a level, in capitals. -/
def Level.name : Level → String
  | error => "ERROR"
  | warn => "WARN"
  | info => "INFO"
  | debug => "DEBUG"
  | trace => "TRACE"

/-- A log entry. -/
structure Entry where
  /-- How important it is. -/
  level : Level
  /-- What happened. -/
  text : String
  /-- With what. -/
  fields : List (String × String) := []
  deriving Repr, DecidableEq

/-- What is written down during a run. -/
inductive Event
  /-- The delivery hook was asked about a handler. -/
  | before (identity : String)
  /-- A handler was called. -/
  | called (identity : String) (args : Args)
  /-- A handler wrote down its own call. -/
  | noted (identity : String) (args : Args)
  /-- The delivery hook was told that a handler is done. -/
  | after (identity : String)
  /-- A log entry was written. -/
  | logged (e : Entry)
  /-- A text was shown on the terminal, apart from the replies. -/
  | shown (text : String)
  /-- A mailbox was asked for its unseen mails. -/
  | fetched
  /-- A mailbox was told to mark a mail as seen. -/
  | marked (uid : String)
  deriving DecidableEq

/-- The result of a run, or the message of the panic that ended it, after some events. -/
structure Traced (α : Type) where
  /-- The events, in order. -/
  events : List Event
  /-- The result. -/
  result : Except String α

namespace Traced

variable {α β : Type}

/-- A result without events. -/
protected def pure (a : α) : Traced α :=
  ⟨[], .ok a⟩

/-- One run after another, unless the first ends in a panic. -/
protected def bind (x : Traced α) (f : α → Traced β) : Traced β :=
  match x.result with
  | .ok a => ⟨x.events ++ (f a).events, (f a).result⟩
  | .error message => ⟨x.events, .error message⟩

instance : Monad Traced where
  pure := Traced.pure
  bind := Traced.bind

/-- Writes down an event. -/
def emit (e : Event) : Traced Unit :=
  ⟨[e], .ok ()⟩

/-- Writes a log entry. -/
def log (level : Level) (text : String) (fields : List (String × String)) : Traced Unit :=
  emit (.logged ⟨level, text, fields⟩)

/-- Ends the run. -/
def panic (message : String) : Traced α :=
  ⟨[], .error message⟩

/-- A run with one more event at its end, be it a panic or not. -/
def closeWith (x : Traced α) (e : Event) : Traced α :=
  ⟨x.events ++ [e], x.result⟩

end Traced

/-- The state after a run, with its events and its result. -/
structure Step (σ α : Type) where
  /-- The state, also after a panic. -/
  state : σ
  /-- The events, in order. -/
  events : List Event
  /-- The result. -/
  result : Except String α

/-- A run that changes a state. -/
def Act (σ α : Type) : Type :=
  σ → Step σ α

namespace Act

variable {σ τ α β : Type}

/-- A result that changes nothing. -/
protected def pure (a : α) : Act σ α := fun s =>
  ⟨s, [], .ok a⟩

/-- One run after another, unless the first ends in a panic. -/
protected def bind (x : Act σ α) (f : α → Act σ β) : Act σ β := fun s =>
  let first := x s
  match first.result with
  | .ok a =>
    let second := f a first.state
    ⟨second.state, first.events ++ second.events, second.result⟩
  | .error message => ⟨first.state, first.events, .error message⟩

instance : Monad (Act σ) where
  pure := Act.pure
  bind := Act.bind

/-- A run without a state as one that changes nothing. -/
def ofTraced (x : Traced α) : Act σ α := fun s =>
  ⟨s, x.events, x.result⟩

instance : MonadLift Traced (Act σ) := ⟨ofTraced⟩

/-- The state. -/
def get : Act σ σ := fun s =>
  ⟨s, [], .ok s⟩

/-- Changes the state. -/
def modify (f : σ → σ) : Act σ Unit := fun s =>
  ⟨f s, [], .ok ()⟩

/-- A run on a part of the state. -/
def zoom (part : τ → σ) (put : σ → τ → τ) (x : Act σ α) : Act τ α := fun t =>
  let step := x (part t)
  ⟨put step.state t, step.events, step.result⟩

end Act

end Parley
