import Parley.Dispatch

/-!
# The chat channel

Chat messages go to all targets, and every reply with a text is sent back to the sender.

## Main definitions

- `ChatMessage`, `ChatReply` — what arrives and what is sent
- `Chat`, `Chat.deliver` — the channel
-/

namespace Parley

variable {γ : Type}

/-- A chat message; some have no body. -/
structure ChatMessage where
  /-- Who sent it. -/
  sender : String
  /-- The text. -/
  body : Option String
  deriving Repr, DecidableEq

/-- A text that is sent back. -/
structure ChatReply where
  /-- Who it is sent to. -/
  recipient : String
  /-- The text. -/
  text : String
  deriving Repr, DecidableEq

/-- A chat account. -/
structure Chat (γ : Type) where
  /-- Delivers to handlers. -/
  dispatcher : Dispatcher γ := {}
  /-- The groups that get every message. -/
  targets : List (Group γ)
  /-- Which replies fail, counted from the first. -/
  fails : Nat → Bool := fun _ => false

namespace Chat

/-- The name of the channel. -/
def name : String :=
  "chat"

/-- The message of a chat message with a body. -/
def message (sender body : String) : Message :=
  ({ channel := name : Message }.insert senderFacet sender).insert bodyFacet body

/-- Sends texts to somebody; a failure is logged and changes nothing else. The state holds the
replies so far, in order. -/
def sendEach (c : Chat γ) (recipient : String) : List String → Act (List ChatReply) Unit
  | [] => pure ()
  | text :: rest => do
    let sent ← Act.get
    Act.modify fun sent => sent ++ [⟨recipient, text⟩]
    if c.fails sent.length then Traced.log .warn "Chat reply failed" [("to", recipient)]
    c.sendEach recipient rest

/-- Answers a chat message. One without a text goes nowhere. -/
def deliver (c : Chat γ) (raw : ChatMessage) : Act (List ChatReply) (List (Outcome γ)) := do
  let body := raw.body.getD ""
  if body.isEmpty then
    Traced.log .debug "Ignoring chat message without body" [("sender", raw.sender)]
    pure []
  else
    let outcomes ← c.dispatcher.dispatchEach (message raw.sender body) c.targets
    c.sendEach raw.sender (replyTexts outcomes)
    pure outcomes

end Chat

end Parley
