import Parley.Config
import Parley.Imap.Response
import Parley.Mail.Mailbox

/-!
# Sessions with a mail server

A session logs in, selects a folder, and then either fetches the unseen mails or marks one as
seen. Every command waits for the response to the one before, and the first failure ends the
session.

## Main definitions

- `Peer` — how a server behaves
- `Session`, `Talk` — one end of a connection, and what goes on there
- `command` — sends a command and waits for the response
- `fetchUnseen`, `markSeen` — the two uses of a session

## Design notes

A server is any function from the commands that it got to what it sends next. A connection ends
cleanly or breaks down. Either is noticed when no bytes are left to read, and a broken connection
also when a command is to be sent.

The number of the next command is a machine word. Adding to the last one is a panic, and so is room
for more bytes than there can be. Room for fewer is there whenever it is asked for.
-/

namespace Parley.Imap

open Parley.Text

/-- What a server sends at a time. -/
structure Burst where
  /-- The bytes. -/
  bytes : List UInt8 := []
  /-- Whether the connection breaks down after them. -/
  breaks : Bool := false
  deriving Repr, DecidableEq

/-- How a server behaves. -/
structure Peer where
  /-- What it sends when the connection opens. -/
  greeting : Burst
  /-- What it sends after the last of the commands so far. -/
  answer : List String → Burst

/-- One end of a connection. -/
structure Session where
  /-- The bytes that arrived and are not read yet. -/
  unread : List UInt8 := []
  /-- Whether the connection broke down after them. -/
  broken : Bool := false
  /-- The commands sent, in order, with their line ends. -/
  sent : List String := []
  /-- The number of the next command. -/
  next : UInt32 := 1
  deriving Repr, DecidableEq

/-- What goes on in a session, up to its first failure. -/
abbrev Talk (α : Type) := ExceptT ChannelError (Act Session) α

/-- The connection to a server when it opens. -/
def Peer.connect (p : Peer) : Session :=
  { unread := p.greeting.bytes, broken := p.greeting.breaks }

/-- Sends a command line, unless the connection has broken down. -/
def send (p : Peer) (line : String) : Talk Unit := do
  let s ← ExceptT.lift Act.get
  if s.broken then throw (.io .broken)
  else
    let sent := s.sent ++ [line]
    let burst := p.answer sent
    ExceptT.lift (Act.modify fun s =>
      { s with unread := s.unread ++ burst.bytes, broken := burst.breaks, sent })

/-- Puts the bytes that are left in place of those unread. -/
def leave (bytes : List UInt8) : Talk Unit :=
  ExceptT.lift (Act.modify fun s => { s with unread := bytes })

/-- The failure of reading on when the bytes are too few. -/
def Session.failure (s : Session) : Shortage → ChannelError
  | .inLine => if s.broken then .io .broken else .mailbox "connection closed"
  | .inLiteral => if s.broken then .io .broken else .io .unexpectedEnd

/-- The tag of the next command: a letter and the number of the command. -/
def Session.nextTag (s : Session) : String :=
  "A" ++ toString s.next.toNat

/-- Takes the tag of the next command, and leaves the number after it for the one after that. -/
def takeTag : Talk String := do
  let s ← ExceptT.lift Act.get
  if s.next.toNat + 1 < UInt32.size then
    ExceptT.lift (Act.modify fun s => { s with next := s.next + 1 })
    pure s.nextTag
  else Traced.panic "attempt to add with overflow"

/-- The first word of a command. -/
def verb (text : String) : String :=
  match words text.toList with
  | w :: _ => String.ofList w
  | [] => text

/-- Sends a command and waits for the response, which must be a good one. -/
def command (p : Peer) (text : String) : Talk Response := do
  let tag ← takeTag
  send p (tag ++ " " ++ text ++ "\r\n")
  let s ← ExceptT.lift Act.get
  match readResponse tag.toList s.unread with
  | .error .overflow => Traced.panic "capacity overflow"
  | .error (.short shortage) =>
    leave []
    throw (s.failure shortage)
  | .ok (response, rest) =>
    leave rest
    if response.isOk then pure response
    else throw (.mailbox (verb text ++ " failed: " ++ trimmed response.status))

/-- Waits for the greeting, which must be a good one. -/
def greet : Talk Unit := do
  let s ← ExceptT.lift Act.get
  match cutLine s.unread with
  | none =>
    leave []
    throw (s.failure .inLine)
  | some (raw, rest) =>
    leave rest
    let line := decodeLossy raw
    if "* OK".toList.isPrefixOf line then pure ()
    else throw (.mailbox ("unexpected greeting: " ++ String.ofList (trimEnd line)))

/-- A text as a quoted string. -/
def quoted (s : String) : String :=
  String.ofList (quote s.toList)

/-- Logs in and selects the folder. -/
def logIn (p : Peer) (c : MailConfig) : Talk Unit := do
  greet
  let _ ← command p ("LOGIN " ++ quoted c.username ++ " " ++ quoted c.password)
  let _ ← command p ("SELECT " ++ quoted c.folder)

/-- Logs out; it does not matter whether that fails. -/
def logOut (p : Peer) : Talk Unit := do
  match ← ExceptT.lift (command p "LOGOUT").run with
  | .ok _ => pure ()
  | .error e => Traced.log .debug "LOGOUT failed" [("error", e.message)]

/-- Fetches mails one after the other. A response without a literal gives no mail. -/
def fetchEach (p : Peer) : List String → Talk (List FetchedMail)
  | [] => pure []
  | uid :: rest => do
    let response ← command p ("UID FETCH " ++ uid ++ " BODY.PEEK[]")
    match response.literals with
    | raw :: _ =>
      let mails ← fetchEach p rest
      pure (⟨uid, raw⟩ :: mails)
    | [] =>
      Traced.log .warn "FETCH returned no message body" [("uid", uid)]
      fetchEach p rest

/-- Fetches the unseen mails and leaves them so. -/
def fetchUnseen (c : MailConfig) (p : Peer) : Talk (List FetchedMail) := do
  logIn p c
  let response ← command p "UID SEARCH UNSEEN"
  let uids := searchResults response.lines
  Traced.log .debug "Unseen messages"
    [("count", toString uids.length), ("folder", c.folder)]
  let mails ← fetchEach p uids
  logOut p
  pure mails

/-- Marks a mail as seen. -/
def markSeen (c : MailConfig) (uid : String) (p : Peer) : Talk Unit := do
  logIn p c
  let _ ← command p ("UID STORE " ++ uid ++ " +FLAGS (\\Seen)")
  logOut p

/-- A session with a server, if one can be reached. -/
def converse {α : Type} (p : Option Peer) (talk : Peer → Talk α) :
    Step Session (Except ChannelError α) :=
  match p with
  | some p => (talk p).run p.connect
  | none => ⟨{}, [], .ok (.error (.io .unreachable))⟩

end Parley.Imap
