import Parley.Text.Quoted
import Parley.Text.Utf8

/-!
# What goes wrong on channels

## Main definitions

- `IoError` — a fault of the line itself
- `ChannelError` — a fault of a channel
- `message`, `shown` — the faults in words, and with the names of their kinds
-/

namespace Parley

/-- A fault of the line that a channel runs over. -/
inductive IoError
  /-- A line of input is no text. -/
  | notText (line : List UInt8) (fault : Text.Utf8Error)
  /-- The input ends where bytes were announced. -/
  | unexpectedEnd
  /-- The line breaks down. -/
  | broken
  /-- Nobody listens at the other end. -/
  | unreachable
  deriving Repr, DecidableEq

/-- A fault of a channel. -/
inductive ChannelError
  | startupFailed (name reason : String)
  | disconnected (name reason : String)
  | sendFailed (name reason : String)
  | invalidMessage (text : String)
  | mailbox (text : String)
  | io (e : IoError)
  deriving Repr, DecidableEq

namespace IoError

/-- The fault in words. -/
def message : IoError → String
  | notText _ fault =>
    match fault.length with
    | some n =>
      "invalid utf-8 sequence of " ++ toString n ++ " bytes from index " ++
        toString fault.validUpTo
    | none => "incomplete utf-8 byte sequence from index " ++ toString fault.validUpTo
  | unexpectedEnd => "failed to fill whole buffer"
  | broken => "Connection reset by peer"
  | unreachable => "Connection refused"

/-- The fault with the names of its parts. -/
def shown : IoError → String
  | notText line fault =>
    "Custom \x7b kind: InvalidData, error: FromUtf8Error \x7b bytes: [" ++
      ", ".intercalate (line.map toString) ++
      "], error: Utf8Error \x7b valid_up_to: " ++ toString fault.validUpTo ++ ", error_len: " ++
      (match fault.length with
        | some n => "Some(" ++ toString n ++ ")"
        | none => "None") ++ " \x7d \x7d \x7d"
  | unexpectedEnd =>
    "Error \x7b kind: UnexpectedEof, message: \"failed to fill whole buffer\" \x7d"
  | broken => "Kind(ConnectionReset)"
  | unreachable => "Kind(ConnectionRefused)"

end IoError

namespace ChannelError

/-- The fault in words. -/
def message : ChannelError → String
  | startupFailed name reason => "Channel " ++ name ++ " failed to start: " ++ reason
  | disconnected name reason => "Channel " ++ name ++ " disconnected: " ++ reason
  | sendFailed name reason => "Failed to send reply on channel " ++ name ++ ": " ++ reason
  | invalidMessage text => "Invalid message format: " ++ text
  | mailbox text => "Mailbox error: " ++ text
  | io e => "IO error: " ++ e.message

/-- A kind of fault with the name of a channel and a reason. -/
def shownWith (kind name reason : String) : String :=
  kind ++ " \x7b name: " ++ Text.quoted name ++ ", reason: " ++ Text.quoted reason ++ " \x7d"

/-- The fault with the name of its kind. -/
def shown : ChannelError → String
  | startupFailed name reason => shownWith "StartupFailed" name reason
  | disconnected name reason => shownWith "Disconnected" name reason
  | sendFailed name reason => shownWith "SendFailed" name reason
  | invalidMessage text => "InvalidMessage(" ++ Text.quoted text ++ ")"
  | mailbox text => "Mailbox(" ++ Text.quoted text ++ ")"
  | io e => "Io(" ++ e.shown ++ ")"

end ChannelError

end Parley
