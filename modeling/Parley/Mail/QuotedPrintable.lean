import Parley.Mail.Boundary

/-!
# Quoted-printable

Bytes written as they are, or as two hexadecimal digits after an equals sign. A line that ends in
an equals sign goes on with the next, and blanks at the end of a line do not count.

## Main definitions

- `hexByte?` — the value of a hexadecimal digit
- `Escape` — how much of an escape has been read
- `QuotedBytes`, `readQuotedBody` — the bytes of a body

## Design notes

An equals sign before a character that is neither a digit nor a blank stands for itself. Lines end
with a line feed alone until a carriage return has been read, and with both from then on.
-/

namespace Parley.Mail

/-- The value of a hexadecimal digit. -/
def hexByte? (b : UInt8) : Option Nat :=
  let n := b.toNat
  if 48 ≤ n ∧ n ≤ 57 then some (n - 48)
  else if 65 ≤ n ∧ n ≤ 70 then some (n - 65 + 10)
  else if 97 ≤ n ∧ n ≤ 102 then some (n - 97 + 10)
  else none

/-- Whether a byte is white space. -/
def isSpaceByte (b : UInt8) : Bool :=
  b == 9 || b == 10 || b == 12 || b == 13 || b == 32

/-- How much of an escape has been read. -/
inductive Escape
  /-- Nothing. -/
  | closed
  /-- The sign that begins it. -/
  | opened
  /-- The first digit. -/
  | digit (high : Nat)
  deriving Repr, DecidableEq

/-- The state of reading a body. -/
structure QuotedBytes where
  /-- The escape being read. -/
  escape : Escape := .closed
  /-- How lines end, last byte first. -/
  ending : List UInt8 := [10]
  /-- How many blanks were read last. -/
  blanks : Nat := 0
  /-- How many bytes of a line end were read last. -/
  broken : Nat := 0
  /-- The bytes read, last byte first. -/
  read : List UInt8 := []
  deriving Repr, DecidableEq

namespace QuotedBytes

/-- Adds a byte other than those that end lines or begin escapes. -/
def push (q : QuotedBytes) (b : UInt8) : Option QuotedBytes :=
  let q := { q with broken := 0 }
  match q.escape with
  | .closed =>
    some { q with blanks := if isSpaceByte b then q.blanks + 1 else 0, read := b :: q.read }
  | .opened =>
    match hexByte? b with
    | some high => some { q with escape := .digit high }
    | none =>
      if isSpaceByte b then some q
      else some { q with escape := .closed, blanks := 0, read := b :: 61 :: q.read }
  | .digit high =>
    (hexByte? b).map fun low =>
      { q with escape := .closed, blanks := 0, read := UInt8.ofNat (high * 16 + low) :: q.read }

/-- Ends a line. -/
def endLine (q : QuotedBytes) : QuotedBytes :=
  if q.escape = .opened then { q with escape := .closed, blanks := 0, broken := 0 }
  else
    { q with blanks := 0, broken := q.ending.length, read := q.ending ++ q.read.drop q.blanks }

/-- Reads a byte. An equals sign within an escape is a fault. -/
def step (q : QuotedBytes) (b : UInt8) : Option QuotedBytes :=
  if b = 61 then
    if q.escape = .closed then some { q with escape := .opened, broken := 0 } else none
  else if b = 10 then some q.endLine
  else if b = 13 then some { q with ending := [10, 13], broken := 0 }
  else q.push b

/-- The bytes before a boundary. -/
def beforeBoundary (q : QuotedBytes) : Option (List UInt8) :=
  match q.escape with
  | .closed => some (q.read.drop q.broken).reverse
  | .opened => some (61 :: q.read).reverse
  | .digit _ => none

end QuotedBytes

/-- Reads a body up to its boundary, or to the end if it has none, and gives the bytes after. -/
def readQuotedBody (boundary : Option (List UInt8)) (q : QuotedBytes) :
    List UInt8 → Option (List UInt8 × List UInt8)
  | [] => if boundary.isNone then some (q.read.reverse, []) else none
  | b :: bs =>
    match boundary.bind fun boundary => afterBoundary? boundary (b :: bs) with
    | some rest => q.beforeBoundary.map fun bytes => (bytes, rest)
    | none =>
      match q.step b with
      | some q => readQuotedBody boundary q bs
      | none => none

end Parley.Mail
