import Parley.Channel.Error

/-!
# Mailboxes

## Main definitions

- `FetchedMail` — a mail as a mailbox holds it
- `Mailbox` — a store of mails that can be asked for those unseen
-/

namespace Parley

/-- A mail as a mailbox holds it. -/
structure FetchedMail where
  /-- The name under which the mailbox knows the mail. -/
  uid : String
  /-- The bytes of the mail. -/
  raw : List UInt8
  deriving Repr, DecidableEq

/-- How a call of a mailbox ends. -/
inductive MailboxCall (α : Type)
  | done (a : α)
  | failed (e : ChannelError)
  | panicked
  deriving Repr, DecidableEq

/-- A store of mails, with a state of its own. -/
structure Mailbox (σ : Type) where
  /-- The mails that are unseen; they stay so. -/
  fetchUnseen : σ → σ × MailboxCall (List FetchedMail)
  /-- Marks a mail as seen. -/
  markSeen : String → σ → σ × MailboxCall Unit

end Parley
