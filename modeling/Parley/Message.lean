import Parley.Table
import Parley.Text.Quoted

/-!
# Messages

A message arrives on a channel and carries named facets, such as the sender or the text. Handlers
look at the facets only.

## Main definitions

- `Message` — a channel and facets
- `Message.insert`, `Message.get?` — writing and reading a facet
- `Message.text` — the message on one line, for the log
-/

namespace Parley

open Parley.Text

/-- A message. -/
structure Message where
  /-- The channel that the message arrived on. -/
  channel : String
  /-- The facets with their values. -/
  facets : Table String := ∅
  deriving DecidableEq

namespace Message

/-- Sets a facet, in place of the value that it had. -/
def insert (m : Message) (name value : String) : Message :=
  { m with facets := m.facets.insert name value }

/-- The value of a facet, if the message has it. -/
def get? (m : Message) (name : String) : Option String :=
  m.facets.get? name

/-- The message on one line: the channel, and the facets with quoted values in braces. -/
def text (m : Message) : String :=
  m.channel ++ "\x7b" ++
    ", ".intercalate (m.facets.entries.map fun (n, v) => n ++ "=" ++ quoted v) ++ "\x7d"

end Message

/-- The facet of a mail's sender. -/
def fromFacet : String := "from"

/-- The facet of a chat message's sender. -/
def senderFacet : String := "sender"

/-- The facet of a subject. -/
def subjectFacet : String := "subject"

/-- The facet of a body. -/
def bodyFacet : String := "body"

/-- The facet of a post's author. -/
def userFacet : String := "user"

/-- The facet of a post's text. -/
def textFacet : String := "text"

end Parley
