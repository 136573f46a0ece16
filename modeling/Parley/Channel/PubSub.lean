import Parley.Channel.Error
import Parley.Config
import Parley.Dispatch
import Parley.Json.Quote
import Parley.Json.Reader

/-!
# The publish-subscribe channel

A broker passes on what is published on a subject. The channel subscribes to one subject, delivers
what it receives, and may publish the replies on another subject.

## Main definitions

- `Envelope` — a text on a subject, and its wire form
- `decodeEnvelope` — the envelope of a frame, if it is one for the subject
- `PubSub.Frame`, `subscription` — what a connection receives, and the stream of envelopes made of
  it
- `PubSub`, `PubSub.deliver`, `PubSub.pump` — the channel

## Design notes

A stream is a list of runs, each of which gives an item or nothing. The events of a run happen
when the item is taken from the stream, that is, after the delivery of the item before.
-/

namespace Parley

variable {γ : Type}

/-- A text on a subject. -/
structure Envelope where
  /-- The subject. -/
  subject : String
  /-- The text. -/
  body : String
  deriving Repr, DecidableEq

/-- The frame that subscribes to a subject. -/
def subscribeRequest (subject : String) : String :=
  Json.object [("op", "subscribe"), ("subject", subject)]

/-- The frame that publishes a text. -/
def Envelope.publishRequest (e : Envelope) : String :=
  Json.object [("op", "publish"), ("subject", e.subject), ("body", e.body)]

/-- The envelope of the members of an object; without a body the text is empty. -/
def Envelope.ofMembers? (members : List (String × String)) : Option Envelope :=
  (members.lookup "subject").map fun subject =>
    ⟨subject, (members.lookup "body").getD ""⟩

/-- The envelope of the items of an array: the subject, and the text if there is one. -/
def Envelope.ofItems? : List String → Option Envelope
  | [subject] => some ⟨subject, ""⟩
  | [subject, body] => some ⟨subject, body⟩
  | _ => none

/-- The envelope that a text stands for: an object with a subject, or an array that starts with
one. -/
def Envelope.read? (text : String) : Option Envelope :=
  let envelope? : Option (Envelope × List Char) :=
    match Json.skipBlanks text.toList with
    | '{' :: s =>
      (Json.readObject ["subject", "body"] s).bind fun (members, rest) =>
        (Envelope.ofMembers? members).map fun e => (e, rest)
    | '[' :: s =>
      (Json.readArray s).bind fun (items, rest) =>
        (Envelope.ofItems? items).map fun e => (e, rest)
    | _ => none
  match envelope? with
  | some (e, rest) => if (Json.skipBlanks rest).isEmpty then some e else none
  | none => none

/-- The envelope of a text frame, if it is one for the subject. -/
def decodeEnvelope (text subject : String) : Traced (Option Envelope) :=
  match Envelope.read? text with
  | none => do
    Traced.log .warn "Malformed pub/sub frame" []
    pure none
  | some e =>
    if e.subject = subject then pure (some e)
    else do
      Traced.log .debug "Ignoring message for another subject" [("subject", e.subject)]
      pure none

/-- What a connection receives. -/
inductive PubSub.Frame
  /-- A frame of text. -/
  | text (s : String)
  /-- A frame of another kind. -/
  | other
  /-- A failure to read. -/
  | failure (reason : String)
  deriving Repr, DecidableEq

/-- An item of a stream: an envelope, or the loss of the connection. -/
abbrev StreamItem := Except ChannelError Envelope

/-- The name of the channel. -/
def PubSub.name : String :=
  "pubsub"

/-- The item that a frame gives, if any. -/
def PubSub.Frame.item (subject : String) : PubSub.Frame → Traced (Option StreamItem)
  | .text s => do
    let e? ← decodeEnvelope s subject
    pure (e?.map .ok)
  | .other => do
    Traced.log .trace "Ignoring non-text frame" []
    pure none
  | .failure reason => pure (some (.error (.disconnected PubSub.name reason)))

/-- The stream of the envelopes for a subject. A failure to read ends it. -/
def subscription (subject : String) : List PubSub.Frame → List (Traced (Option StreamItem))
  | [] => []
  | .failure reason :: _ => [PubSub.Frame.item subject (.failure reason)]
  | frame :: rest => frame.item subject :: subscription subject rest

/-- The items of a stream, without what happens on the way to them. -/
def streamItems (stream : List (Traced (Option StreamItem))) : List StreamItem :=
  stream.filterMap fun x =>
    match x.result with
    | .ok item => item
    | .error _ => none

/-- A subscriber that may publish replies. -/
structure PubSub (γ : Type) where
  /-- Delivers to handlers. -/
  dispatcher : Dispatcher γ := {}
  /-- The groups that get every message. -/
  targets : List (Group γ)
  /-- The subject of replies; without it, they are dropped. -/
  replySubject : Option String := none
  /-- Which publications fail, counted from the first. -/
  fails : Nat → Bool := fun _ => false

/-- Starts a subscription; `reachable` says whether the broker answers. -/
def PubSubConfig.connect (c : PubSubConfig) (reachable : Bool) :
    Traced (Except ChannelError String) := do
  Traced.log .info "Subscribing" [("url", c.url), ("subject", c.subject)]
  if reachable then pure (.ok (subscribeRequest c.subject))
  else pure (.error (.startupFailed PubSub.name "WebSocket connection failed"))

namespace PubSub

/-- The message of an envelope. -/
def message (e : Envelope) : Message :=
  ({ channel := name : Message }.insert subjectFacet e.subject).insert bodyFacet e.body

/-- Publishes an envelope. The state holds all that was published, in order. -/
def publish (c : PubSub γ) (e : Envelope) : Act (List Envelope) (Except ChannelError Unit) := do
  let published ← Act.get
  Act.modify fun published => published ++ [e]
  if c.fails published.length then pure (.error (.sendFailed name "connection closed"))
  else
    Traced.log .trace "Published" [("subject", e.subject)]
    pure (.ok ())

/-- Publishes replies, or drops them; a failure is logged and changes nothing else. -/
def replyEach (c : PubSub γ) : List String → Act (List Envelope) Unit
  | [] => pure ()
  | text :: rest => do
    match c.replySubject with
    | some subject =>
      match ← c.publish ⟨subject, text⟩ with
      | .ok () => pure ()
      | .error _ => Traced.log .warn "Reply publish failed" [("subject", subject)]
    | none => Traced.log .debug "Dropping pub/sub reply" [("reply", text)]
    c.replyEach rest

/-- Answers an envelope. -/
def deliver (c : PubSub γ) (e : Envelope) : Act (List Envelope) (List (Outcome γ)) := do
  let outcomes ← c.dispatcher.dispatchEach (message e) c.targets
  c.replyEach (replyTexts outcomes)
  pure outcomes

/-- Answers the envelopes of a stream up to its end or the loss of the connection; `count`
envelopes have been answered before. -/
def pumpFrom (c : PubSub γ) (count : Nat) :
    List (Traced (Option StreamItem)) → Act (List Envelope) Nat
  | [] => pure count
  | x :: rest => do
    match ← (x : Traced (Option StreamItem)) with
    | none => c.pumpFrom count rest
    | some (.ok e) =>
      let _ ← c.deliver e
      c.pumpFrom (count + 1) rest
    | some (.error _) =>
      Traced.log .warn "Subscription lost" []
      pure count

/-- Answers the envelopes of a stream, and gives their number. -/
def pump (c : PubSub γ) (stream : List (Traced (Option StreamItem))) :
    Act (List Envelope) Nat := do
  let count ← c.pumpFrom 0 stream
  Traced.log .info "Subscription ended" [("delivered", toString count)]
  pure count

end PubSub

end Parley
