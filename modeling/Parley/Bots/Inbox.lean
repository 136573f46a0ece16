import Parley.Dispatch

/-!
# The inbox bot

Logs mails whose subject speaks of a test.

## Main definitions

- `Inbox.logMessage` — the only handler
- `Inbox.roster`, `Inbox.group` — the bot
-/

namespace Parley.Inbox

variable {γ : Type}

/-- Writes sender, subject and body to the log and replies with nothing. -/
def logMessage : Registration γ :=
  { identity := "log_message"
    patterns := [(subjectFacet, ".*test.*")]
    bindings := [.whole fromFacet .text, .whole subjectFacet .text, .whole bodyFacet .text]
    action := fun args =>
      .withValue (args.text 0) fun sender =>
        .withValue (args.text 1) fun subject =>
          .withValue (args.text 2) fun body =>
            { events :=
                [.logged ⟨.info, "Message received", [("from", sender), ("subject", subject)]⟩,
                  .logged ⟨.info, "Message body", [("body", body)]⟩]
              ending := .reply .nothing } }

/-- The registrations of the bot. -/
def roster : Roster γ :=
  { name := "inbox", registrations := [logMessage] }

/-- The bot. -/
def group : Group γ :=
  roster.build

end Parley.Inbox
