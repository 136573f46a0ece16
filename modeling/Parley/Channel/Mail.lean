import Parley.Channel.Error
import Parley.Dispatch
import Parley.Mail.Address
import Parley.Mail.Markup
import Parley.Mail.Part

/-!
# The mail channel

Mails are messages with a sender, a subject and a body. Replies are not sent.

## Main definitions

- `Mail.fieldsOf` — the fields of a mail
- `Mail.bodyText` — the text that the parts of a mail stand for
- `Mail.read` — the message of a mail
- `MailChannel.deliver` — answers a mail
-/

namespace Parley

open Parley.Text

variable {γ : Type}

/-- The name of the channel. -/
def Mail.channelName : String :=
  "mail"

/-- The text of a part, if it is one. -/
def Mail.Part.text? : Mail.Part → Option String
  | .text s => some s
  | _ => none

/-- The words of a part, if it is markup. -/
def Mail.Part.words? : Mail.Part → Option String
  | .html s => some (Mail.stripHtml s)
  | _ => none

/-- The text of a mail: its first part that is text; or else the words of the first that is
markup. -/
def Mail.bodyText (parts : List Mail.Part) : String :=
  ((parts.findSome? Mail.Part.text?).or (parts.findSome? Mail.Part.words?)).getD ""

/-- Sets a facet if there is a value for it. -/
def Message.insert? (m : Message) (name : String) : Option String → Message
  | some value => m.insert name value
  | none => m

/-- The fields of a mail: those of its first part. -/
def Mail.fieldsOf (es : List Mail.Entity) : List Mail.Field :=
  (es.head?.map fun e => e.header.fields).getD []

/-- The message of a mail, if its bytes are one. -/
def Mail.read (raw : List UInt8) : Except ChannelError Message :=
  match Mail.readParts raw with
  | none => .error (.invalidMessage "not an RFC 822 message")
  | some es =>
    let fields := Mail.fieldsOf es
    let sender := (Mail.lastField? "from" fields).bind Mail.Field.address?
    let subject := (Mail.lastField? "subject" fields).bind Mail.Field.text?
    .ok (((({ channel := Mail.channelName } : Message).insert? fromFacet sender).insert?
      subjectFacet subject).insert bodyFacet (Mail.bodyText (es.map Mail.Entity.part)))

/-- A mail account. -/
structure MailChannel (γ : Type) where
  /-- Delivers to handlers. -/
  dispatcher : Dispatcher γ := {}
  /-- The groups that get every mail. -/
  targets : List (Group γ)

namespace MailChannel

/-- Writes down replies, which are not sent. -/
def dropEach : List String → Traced Unit
  | [] => pure ()
  | text :: rest => do
    Traced.log .debug "Dropping mail reply" [("reply", text)]
    dropEach rest

/-- Answers a message that was made of a mail. -/
def deliverMessage (c : MailChannel γ) (m : Message) : Traced (List (Outcome γ)) := do
  Traced.log .info "Mail received"
    [("from", quotedOption (m.get? fromFacet)), ("subject", quotedOption (m.get? subjectFacet))]
  let outcomes ← c.dispatcher.dispatchEach m c.targets
  dropEach (replyTexts outcomes)
  pure outcomes

/-- Answers a mail. -/
def deliver (c : MailChannel γ) (raw : List UInt8) :
    Traced (Except ChannelError (List (Outcome γ))) :=
  match Mail.read raw with
  | .error e => pure (.error e)
  | .ok m => do
    let outcomes ← c.deliverMessage m
    pure (.ok outcomes)

end MailChannel

end Parley
