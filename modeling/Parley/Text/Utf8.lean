/-!
# Text as bytes

Text travels as UTF-8. Bytes from outside may be no text at all; readers then either give up with
the place of the first fault, or put the replacement character where faults are.

## Main definitions

- `encode` — the bytes of a text
- `Utf8Error` — where bytes stop being text
- `decode` — the text of bytes, if they are text
- `decodeLossy` — the text of bytes, with faults replaced
- `splitLines` — bytes cut at line feeds

## Design notes

A fault covers the longest start of a character that could have gone on, and at least one byte.
-/

namespace Parley.Text

/-- The bytes of a text. -/
def encode (s : List Char) : List UInt8 :=
  s.flatMap String.utf8EncodeChar

/-- The place where bytes stop being text. -/
structure Utf8Error where
  /-- How many bytes before it are text. -/
  validUpTo : Nat
  /-- How many bytes the fault covers; `none` if the bytes end within a character. -/
  length : Option Nat
  deriving Repr, DecidableEq

/-- The start of some bytes: a character, or a fault of a given length, or the start of a
character that does not end. -/
inductive Head
  | char (c : Char) (rest : List UInt8)
  | fault (length : Nat)
  | cut
  deriving Repr, DecidableEq

/-- Whether a byte continues a character. -/
def isTail (b : UInt8) : Bool :=
  0x80 ≤ b && b ≤ 0xBF

/-- The payload of a byte that continues a character. -/
def tailBits (b : UInt8) : Nat :=
  b.toNat % 0x40

/-- The start of a character of two bytes. -/
def head2 (a : UInt8) : List UInt8 → Head
  | [] => .cut
  | b :: rest =>
    if isTail b then .char (Char.ofNat (a.toNat % 0x20 * 0x40 + tailBits b)) rest else .fault 1

/-- The start of a character of three bytes, of which the second is between `lo` and `hi`. -/
def head3 (a lo hi : UInt8) : List UInt8 → Head
  | [] => .cut
  | b :: bs =>
    if lo ≤ b && b ≤ hi then
      match bs with
      | [] => .cut
      | c :: rest =>
        if isTail c then
          .char (Char.ofNat (a.toNat % 0x10 * 0x1000 + tailBits b * 0x40 + tailBits c)) rest
        else .fault 2
    else .fault 1

/-- The start of a character of four bytes, of which the second is between `lo` and `hi`. -/
def head4 (a lo hi : UInt8) : List UInt8 → Head
  | [] => .cut
  | b :: bs =>
    if lo ≤ b && b ≤ hi then
      match bs with
      | [] => .cut
      | c :: cs =>
        if isTail c then
          match cs with
          | [] => .cut
          | d :: rest =>
            if isTail d then
              .char (Char.ofNat (a.toNat % 0x8 * 0x40000 + tailBits b * 0x1000 +
                tailBits c * 0x40 + tailBits d)) rest
            else .fault 3
        else .fault 2
    else .fault 1

/-- The start of bytes of which `a` is the first. -/
def headOf (a : UInt8) (rest : List UInt8) : Head :=
  if a ≤ 0x7F then .char (Char.ofNat a.toNat) rest
  else if 0xC2 ≤ a && a ≤ 0xDF then head2 a rest
  else if a == 0xE0 then head3 a 0xA0 0xBF rest
  else if a == 0xED then head3 a 0x80 0x9F rest
  else if 0xE1 ≤ a && a ≤ 0xEF then head3 a 0x80 0xBF rest
  else if a == 0xF0 then head4 a 0x90 0xBF rest
  else if 0xF1 ≤ a && a ≤ 0xF3 then head4 a 0x80 0xBF rest
  else if a == 0xF4 then head4 a 0x80 0x8F rest
  else .fault 1

/-- Decodes up to `fuel` characters; `before` counts the bytes already decoded. -/
def decodeFrom : Nat → Nat → List UInt8 → Except Utf8Error (List Char)
  | _, _, [] => .ok []
  | 0, before, _ => .error ⟨before, none⟩
  | fuel + 1, before, a :: bs =>
    match headOf a bs with
    | .char c rest => (decodeFrom fuel (before + c.utf8Size) rest).map (c :: ·)
    | .fault n => .error ⟨before, some n⟩
    | .cut => .error ⟨before, none⟩

/-- The text of bytes, or the first place where they are none. -/
def decode (bs : List UInt8) : Except Utf8Error (List Char) :=
  decodeFrom bs.length 0 bs

/-- The character that stands for bytes that are no text. -/
def replacement : Char :=
  Char.ofNat 0xFFFD

/-- Decodes up to `fuel` characters and faults. -/
def decodeLossyFrom : Nat → List UInt8 → List Char
  | _, [] => []
  | 0, _ => []
  | fuel + 1, a :: bs =>
    match headOf a bs with
    | .char c rest => c :: decodeLossyFrom fuel rest
    | .fault n => replacement :: decodeLossyFrom fuel (bs.drop (n - 1))
    | .cut => [replacement]

/-- The text of bytes, with a replacement character for every fault. -/
def decodeLossy (bs : List UInt8) : List Char :=
  decodeLossyFrom bs.length bs

/-- A line without its line feed and a carriage return before that. -/
def closeLine (reversed : List UInt8) : List UInt8 :=
  match reversed with
  | 13 :: rest => rest.reverse
  | line => line.reverse

/-- Cuts bytes at line feeds; `line` holds the line being read, last byte first. A last line
without a line feed counts unless it is empty. -/
def splitLinesFrom : List UInt8 → List UInt8 → List (List UInt8)
  | [], line => if line.isEmpty then [] else [line.reverse]
  | b :: bs, line =>
    if b = 10 then closeLine line :: splitLinesFrom bs [] else splitLinesFrom bs (b :: line)

/-- The lines of bytes. -/
def splitLines (bs : List UInt8) : List (List UInt8) :=
  splitLinesFrom bs []

end Parley.Text
