import Parley.Mail.Base64
import Parley.Mail.QuotedPrintable

/-!
# Transfer encodings

Mails travel as lines of printable characters. A part of a mail names the encoding that its bytes
went through.

## Main definitions

- `Transfer` — the encodings
- `Transfer.read` — the bytes of a part, up to the boundary after it
- `rawBody` — the bytes of a part as they travel
-/

namespace Parley.Mail

/-- How the bytes of a part are encoded. -/
inductive Transfer
  | plain
  | base64
  | quotedPrintable
  deriving Repr, DecidableEq

/-- The encoding of a name; without one of these names, bytes are as they are. -/
def Transfer.ofName (name : Option String) : Transfer :=
  match name.map fun s => String.ofList (s.toList.map Char.toLower) with
  | some "base64" => .base64
  | some "quoted-printable" => .quotedPrintable
  | _ => .plain

/-- Reads a body in Base64 up to its boundary, or to the end if it has none, and gives the bytes
after. A single dash does not count; `dash` tells whether one was read last. -/
def readBase64Body (boundary : Option (List UInt8)) (dash : Bool) (s : Sextets) :
    List UInt8 → Option (List UInt8 × List UInt8)
  | [] => if boundary.isNone then some (s.bytes, []) else none
  | b :: bs =>
    match sextet? b with
    | some n => readBase64Body boundary false (s.push n) bs
    | none =>
      if b = 61 then readBase64Body boundary false s.close bs
      else if b = 32 ∨ b = 9 ∨ b = 13 ∨ b = 10 then readBase64Body boundary false s bs
      else if b = 45 then
        if dash then
          (boundary.bind fun boundary => boundary.isPrefixOf? bs).map fun rest => (s.bytes, rest)
        else readBase64Body boundary true s bs
      else none

/-- The bytes of a part as they travel, up to its boundary, and the bytes after; `none` in place of
those if the boundary is not found or there is none. -/
def rawBody (boundary : Option (List UInt8)) (bs : List UInt8) :
    List UInt8 × Option (List UInt8) :=
  match boundary.bind fun boundary => cutAtBoundary boundary bs with
  | some (bytes, rest) => (bytes, some rest)
  | none => (bs, none)

/-- The bytes of a part up to its boundary, or to the end if it has none, and the bytes after;
`none` if the boundary is not found or the encoding is broken. -/
def Transfer.read (boundary : Option (List UInt8)) (bs : List UInt8) :
    Transfer → Option (List UInt8 × List UInt8)
  | plain =>
    match boundary with
    | none => some (bs, [])
    | some boundary => cutAtBoundary boundary bs
  | base64 => readBase64Body boundary false {} bs
  | quotedPrintable => readQuotedBody boundary {} bs

end Parley.Mail
