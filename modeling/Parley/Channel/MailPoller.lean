import Parley.Channel.Mail
import Parley.Mail.Mailbox

/-!
# Polling a mailbox

A poll fetches the unseen mails, delivers each and then marks it as seen. A mail that cannot be
delivered is marked too, so it does not come back, and a mark that fails stops nothing.

## Main definitions

- `MailPoller`, `MailPoller.poll` — one poll
- `MailPoller.run` — polls until the mailbox is closed
-/

namespace Parley

variable {γ σ : Type}

/-- A mail account and the mailbox that feeds it. -/
structure MailPoller (γ σ : Type) where
  /-- The account. -/
  channel : MailChannel γ
  /-- The mailbox. -/
  mailbox : Mailbox σ

namespace MailPoller

/-- Calls a mailbox, and writes down that it does. -/
def callMailbox {α : Type} (e : Event) (f : σ → σ × MailboxCall α) : Act σ (MailboxCall α) := do
  Traced.emit e
  let s ← Act.get
  Act.modify fun s => (f s).1
  pure (f s).2

/-- Marks a mail as seen; it does not matter whether that fails. -/
def mark (p : MailPoller γ σ) (uid : String) : Act σ Unit := do
  match ← callMailbox (.marked uid) (p.mailbox.markSeen uid) with
  | .done () => pure ()
  | .failed e => Traced.log .warn "Failed to mark mail as seen" [("error", e.message)]
  | .panicked => Traced.log .warn "Mark-seen task panicked" []

/-- Delivers mails and marks them, and gives the number of those that could be delivered. -/
def handleEach (p : MailPoller γ σ) : List FetchedMail → Act σ Nat
  | [] => pure 0
  | mail :: rest => do
    let delivered ← match ← (p.channel.deliver mail.raw : Traced _) with
      | .ok _ => pure 1
      | .error e => do
        Traced.log .warn "Undeliverable mail" [("uid", mail.uid), ("error", e.message)]
        pure 0
    p.mark mail.uid
    let others ← p.handleEach rest
    pure (delivered + others)

/-- Fetches the unseen mails and handles them. -/
def poll (p : MailPoller γ σ) : Act σ Nat := do
  match ← callMailbox .fetched p.mailbox.fetchUnseen with
  | .failed e => do
    Traced.log .error "Mail poll failed" [("error", e.message)]
    pure 0
  | .panicked => do
    Traced.log .error "Mail poll task panicked" []
    pure 0
  | .done mails =>
    if mails.isEmpty then pure 0
    else do
      Traced.log .debug "Fetched unseen mail" [("count", toString mails.length)]
      p.handleEach mails

/-- Polls a number of times. -/
def pollEach (p : MailPoller γ σ) : Nat → Act σ Unit
  | 0 => pure ()
  | n + 1 => do
    let _ ← p.poll
    p.pollEach n

/-- Polls every `interval` seconds, a number of times in all, and then shuts down. -/
def run (p : MailPoller γ σ) (interval polls : Nat) : Act σ Unit := do
  Traced.log .info "Mail poller started" [("interval_secs", toString interval)]
  p.pollEach polls
  Traced.log .info "Mail poller shutting down" []

end MailPoller

end Parley
