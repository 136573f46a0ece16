import Parley.Mail.Header
import Parley.Mail.Span

/-!
# Addresses

A field may hold a list of addresses, each with a name before it and comments around it. Commas
stand between them, and a group of them stands between a colon after its name and a semicolon.

## Main definitions

- `Entry` — what stands between two commas
- `AddressReader` — the state of reading a list
- `Field.address?` — the address of the first entry

## Design notes

An address stands in angle brackets, or it is a word with an at sign. Where an entry has several,
they are one address. An entry without any has the name for its address if it has a comment.
-/

namespace Parley.Mail

/-- What stands between two commas. -/
structure Entry where
  /-- The words of the name. -/
  name : Option (List Char) := none
  /-- The words of the address. -/
  mailbox : Option (List Char) := none
  /-- Whether there is a comment. -/
  commented : Bool := false
  deriving Repr, DecidableEq

namespace Entry

/-- Whether nothing has been read. -/
def isEmpty (e : Entry) : Bool :=
  e.name.isNone && e.mailbox.isNone && !e.commented

/-- The address. -/
def address? (e : Entry) : Option (List Char) :=
  e.mailbox.or (if e.commented then e.name else none)

end Entry

/-- Where in a list of addresses a byte stands. -/
inductive Place
  /-- Among names, and addresses without brackets. -/
  | names
  /-- Between angle brackets. -/
  | brackets
  /-- Between quotes. -/
  | quotes
  /-- Between parentheses. -/
  | comment
  deriving Repr, DecidableEq

/-- The state of reading a list of addresses. -/
structure AddressReader where
  /-- Where the next byte stands. -/
  place : Place := .names
  /-- The places around that, innermost first. -/
  around : List Place := []
  /-- The word being read. -/
  span : Span := {}
  /-- Whether the word has an at sign outside of quotes. -/
  hasAt : Bool := false
  /-- Whether an encoded word may begin. -/
  fresh : Bool := true
  /-- Whether a backslash takes the meaning from the next byte. -/
  escaped : Bool := false
  /-- How many bytes to skip. -/
  skip : Nat := 0
  /-- The entry being read. -/
  entry : Entry := {}
  /-- The entries before it, last entry first. -/
  entries : List Entry := []
  deriving Repr, DecidableEq

/-- Adds a word after those before. -/
def addWord (blank : Bool) (word : List Char) : Option (List Char) → Option (List Char)
  | none => some word
  | some words => some (if blank then words ++ ' ' :: word else words ++ word)

namespace AddressReader

/-- Ends the word being read; `trailer` follows it within the entry. -/
def closeWith (s : AddressReader) (trailer : List Char) : AddressReader :=
  if s.span.isOpen then
    let word := s.span.text ++ trailer
    let e := s.entry
    let entry :=
      match s.place with
      | .names =>
        if s.hasAt then { e with mailbox := addWord false word e.mailbox }
        else { e with name := addWord true word e.name }
      | .brackets => { e with mailbox := addWord false word e.mailbox }
      | .quotes => { e with name := addWord false word e.name }
      | .comment => { e with commented := true }
    { s with span := {}, hasAt := false, fresh := true, escaped := false, entry }
  else s

/-- Ends the word being read. -/
def close (s : AddressReader) : AddressReader :=
  s.closeWith []

/-- Adds a byte to the word being read. -/
def push (s : AddressReader) (b : UInt8) : AddressReader :=
  { s with span := s.span.push b, fresh := false, escaped := false }

/-- Ends the entry being read. -/
def endEntry (s : AddressReader) : AddressReader :=
  if s.entry.isEmpty then s else { s with entry := {}, entries := s.entry :: s.entries }

/-- Enters a place. -/
def enter (s : AddressReader) (place : Place) : AddressReader :=
  { s with place, around := s.place :: s.around }

/-- Goes back to the place around. -/
def leave (s : AddressReader) : AddressReader :=
  { s with place := s.around.headD .names, around := s.around.tail }

/-- Adds an encoded word, which belongs to a comment or to the name. A blank follows the word
before it, except between quotes. -/
def pushEncoded (s : AddressReader) (word : EncodedWord) : AddressReader :=
  let s := s.closeWith (if s.place = .quotes then [] else [' '])
  let s := { s with skip := word.size - 1 }
  if s.place = .comment then { s with entry.commented := true }
  else { s with entry.name := addWord false word.text s.entry.name }

/-- Reads a byte with a meaning of its own outside of words, if it has that meaning here. -/
def sign? (s : AddressReader) (c : Char) : Option AddressReader :=
  match c, s.place with
  | ',', .names | ';', .names => some s.close.endEntry
  | '<', .names => some ({ s with hasAt := false }.close.enter .brackets)
  | '>', .brackets => some s.close.leave
  | '"', .names => if s.escaped then none else some (s.close.enter .quotes)
  | '"', .quotes => if s.escaped then none else some s.close.leave
  | ':', .names => if s.escaped then none else some { s.close with entry := {} }
  | '(', .names | '(', .brackets =>
    if s.escaped then none else some (s.close.enter .comment)
  | ')', .comment =>
    if s.escaped ∨ s.around.head? = some .comment then none else some s.close.leave
  | '\\', .names => none
  | '\\', _ => if s.escaped then none else some { s.close with escaped := true }
  | _, _ => none

/-- Reads a byte that has no meaning of its own. Parentheses are counted within comments. -/
def plain (s : AddressReader) (b : UInt8) (c : Char) : AddressReader :=
  match c, s.place with
  | '@', .names => { s with hasAt := true }.push b
  | '(', .comment => (if s.escaped then s else s.enter .comment).push b
  | ')', .comment => (if s.escaped then s else s.leave).push b
  | _, _ => s.push b

/-- Reads a byte, of which `rest` are those after. -/
def step (s : AddressReader) (b : UInt8) (rest : List UInt8) : AddressReader :=
  let c := Char.ofNat b.toNat
  match s.skip with
  | skip + 1 => { s with skip }
  | 0 =>
    if c = '\n' then { s.close with skip := if continuesLine rest then 1 else 0 }
    else if c = '\r' then { s with span := s.span.pass b }
    else if isLineBlank b then
      let span := if s.place = .quotes then s.span.push b else s.span.pass b
      { s with span, fresh := true, escaped := false }
    else
      match s.sign? c with
      | some s => s
      | none =>
        match if s.fresh && !s.escaped then encodedWord? (b :: rest) else none with
        | some word => s.pushEncoded word
        | none => s.plain b c

/-- Reads bytes. -/
def run (s : AddressReader) : List UInt8 → AddressReader
  | [] => s
  | b :: bs => run (s.step b bs) bs

end AddressReader

/-- The entries of the value. A word that is cut off by the end of the mail is none of it. -/
def Field.entries (f : Field) : List Entry :=
  (AddressReader.run {} f.value).endEntry.entries.reverse

/-- The address of the first entry of the value. -/
def Field.address? (f : Field) : Option String :=
  (f.entries.head?.bind Entry.address?).map String.ofList

end Parley.Mail
