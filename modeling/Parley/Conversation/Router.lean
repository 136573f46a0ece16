import Parley.Dispatch

/-!
# Conversations

A reply may say where a conversation goes on. The router keeps this for each sender, under the
value of a key facet, and sends the sender's next message there and nowhere else.

## Main definitions

- `Store` — the groups that the conversations of senders go on with
- `Router` — the targets of messages that continue no conversation
- `Router.route` — delivers a message and keeps where its conversation goes on

## Design notes

A pending group is taken out of the store before the message is delivered. Each invocation then
puts a group in or takes one out, so the last invocation has the last word.
-/

namespace Parley

variable {γ : Type}

/-- The groups that are pending, under the keys of their senders. -/
abbrev Store (γ : Type) := Table γ

/-- Delivers messages to targets, or to where a conversation goes on. -/
structure Router (γ : Type) where
  /-- Delivers to a group. -/
  dispatcher : Dispatcher γ := {}
  /-- The facet that tells senders apart. -/
  keyFacet : String
  /-- The groups by their names. -/
  group : γ → Group γ
  /-- The groups that get a message that continues no conversation. -/
  targets : List γ

namespace Router

/-- Where a conversation goes on after an invocation by a handler of the group `g`. -/
def nextDialog (g : γ) (i : Invocation γ) : Option γ :=
  match i.result with
  | .error _ => none
  | .ok reply =>
    match reply.dialog with
    | some (.group next) => some next
    | some .current => some g
    | none => none

/-- Puts where a conversation goes on into the store, or takes out what is there. -/
def recordNext (r : Router γ) (key : String) (next : Option γ) : Act (Store γ) Unit :=
  match next with
  | some g => do
    Traced.log .debug "Parking conversation" [("key", key), ("dialog", (r.group g).name)]
    Act.modify fun store => store.insert key g
  | none => Act.modify fun store => store.erase key

/-- Records the invocations of a delivery in order. -/
def recordEach (r : Router γ) (key : String) (g : γ) : List (Invocation γ) → Act (Store γ) Unit
  | [] => pure ()
  | i :: rest => do
    r.recordNext key (nextDialog g i)
    r.recordEach key g rest

/-- Delivers a message to a group and records the outcome, if the message has a key. -/
def deliver (r : Router γ) (m : Message) (key : Option String) (g : γ) :
    Act (Store γ) (Outcome γ) := do
  let outcome ← r.dispatcher.dispatch m (r.group g)
  match key with
  | some key => r.recordEach key g outcome.invocations
  | none => pure ()
  pure outcome

/-- Delivers a message to groups in order. -/
def deliverEach (r : Router γ) (m : Message) (key : Option String) :
    List γ → Act (Store γ) (List (Outcome γ))
  | [] => pure []
  | g :: rest => do
    let o ← r.deliver m key g
    let os ← r.deliverEach m key rest
    pure (o :: os)

/-- Takes out what is pending for a key. -/
def takePending (key : Option String) : Act (Store γ) (Option γ) :=
  match key with
  | none => pure none
  | some key => do
    let store ← Act.get
    Act.modify fun store => store.erase key
    pure (store.get? key)

/-- Delivers a message: where the conversation of its sender goes on, or to all targets. -/
def route (r : Router γ) (m : Message) : Act (Store γ) (List (Outcome γ)) := do
  let key := m.get? r.keyFacet
  match ← takePending key with
  | some g =>
    Traced.log .debug "Continuing conversation"
      [("key", key.getD ""), ("dialog", (r.group g).name)]
    r.deliverEach m key [g]
  | none => r.deliverEach m key r.targets

end Router

end Parley
