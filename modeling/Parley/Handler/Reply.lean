import Parley.Journal

/-!
# Replies

A handler answers with nothing, with a text, or with a response that can also direct the rest of
the conversation.

## Main definitions

- `Reply`, `Response` — the answers
- `Dialog` — where a conversation goes on
- `Reaction` — all that a handler does when it is called

## Design notes

A reply may name the group of handlers that the conversation goes on with, and that group may hold
the very handler that replied. So groups are referred to by names from a type of the user's
choice, here `γ`, and whoever routes messages knows the group of each name.
-/

namespace Parley

/-- Where a conversation goes on. -/
inductive Dialog (γ : Type)
  /-- With another group of handlers. -/
  | group (g : γ)
  /-- With the group of the handler that replied. -/
  | current
  deriving Repr, DecidableEq

/-- A reply that says more than its text. -/
structure Response (γ : Type) where
  /-- Whether the reply mentions the user on channels that do so. -/
  mention : Bool := true
  /-- The text, if any. -/
  message : Option String := none
  /-- Where the conversation goes on, if it does. -/
  dialog : Option (Dialog γ) := none
  deriving Repr, DecidableEq

/-- What a handler answers. -/
inductive Reply (γ : Type)
  | nothing
  | text (s : String)
  | response (r : Response γ)
  deriving Repr, DecidableEq

namespace Reply

variable {γ : Type}

/-- The text of a reply, if it has one. -/
def message : Reply γ → Option String
  | nothing => none
  | text s => some s
  | response r => r.message

/-- Where the conversation goes on, if it does. -/
def dialog : Reply γ → Option (Dialog γ)
  | response r => r.dialog
  | _ => none

end Reply

/-- How the call of a handler ends. -/
inductive Ending (γ : Type)
  /-- With a reply. -/
  | reply (r : Reply γ)
  /-- With a failure. -/
  | failure (reason : String)
  /-- With a panic, which ends the whole run. -/
  | panic (message : String)
  deriving Repr, DecidableEq

/-- What a handler does when it is called. -/
structure Reaction (γ : Type) where
  /-- The events that the handler itself writes down. -/
  events : List Event := []
  /-- How the call ends. -/
  ending : Ending γ

namespace Reaction

variable {γ : Type}

/-- A call that only replies with a text. -/
def text (s : String) : Reaction γ :=
  ⟨[], .reply (.text s)⟩

/-- A call that only replies with a response. -/
def response (r : Response γ) : Reaction γ :=
  ⟨[], .reply (.response r)⟩

/-- A call that goes on with a value, or fails with the reason why there is none. -/
def withValue {α : Type} (value : Except String α) (go : α → Reaction γ) : Reaction γ :=
  match value with
  | .ok a => go a
  | .error reason => ⟨[], .failure reason⟩

end Reaction

end Parley
