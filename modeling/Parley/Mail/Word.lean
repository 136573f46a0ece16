import Parley.Mail.Charset
import Parley.Mail.QuotedPrintable

/-!
# Encoded words

Text that cannot travel in a header is written as encoded words: a character set, the letter of an
encoding, and the encoded bytes, with question marks between them.

## Main definitions

- `readQuotedWord`, `readBase64Word` — the bytes of a word in either encoding
- `encodedWord?` — the word at the start of some bytes

## Design notes

A word may go on over several lines, as long as all but the first begin with a blank. The language
that may follow the character set, after an asterisk, is passed over.
-/

namespace Parley.Mail

open Parley.Text

/-- Whether a byte is a blank within a line. -/
def isLineBlank (b : UInt8) : Bool :=
  b == 32 || b == 9

/-- Whether bytes begin with a blank, and so go on with the line before them. -/
def continuesLine : List UInt8 → Bool
  | b :: _ => isLineBlank b
  | [] => false

/-- Reads the bytes of a word in which escapes stand for bytes, and gives those after the word.
`folding` tells whether blanks at the start of a line are being passed over; `read` holds the bytes
read, last byte first. An escape that is not complete at the end of the word is dropped. -/
def readQuotedWord (escape : Escape) (folding : Bool) (read : List UInt8) :
    List UInt8 → Option (List UInt8 × List UInt8)
  | [] => none
  | b :: bs =>
    if folding && isLineBlank b then readQuotedWord escape true read bs
    else if b = 61 then
      if escape = .closed then readQuotedWord .opened false read bs else none
    else if b = 63 then
      match bs with
      | 61 :: rest => some (read.reverse, rest)
      | _ => readQuotedWord escape false (b :: read) bs
    else if b = 10 then
      if continuesLine bs then readQuotedWord escape true read bs else none
    else if b = 95 then readQuotedWord escape false (32 :: read) bs
    else if b = 13 then readQuotedWord escape false read bs
    else
      match escape with
      | .closed => readQuotedWord .closed false (b :: read) bs
      | .opened =>
        match hexByte? b with
        | some high => readQuotedWord (.digit high) false read bs
        | none => none
      | .digit high =>
        match hexByte? b with
        | some low => readQuotedWord .closed false (UInt8.ofNat (high * 16 + low) :: read) bs
        | none => none

/-- Reads the bytes of a word in Base64, and gives those after the word. -/
def readBase64Word (s : Sextets) : List UInt8 → Option (List UInt8 × List UInt8)
  | [] => none
  | b :: bs =>
    match sextet? b with
    | some n => readBase64Word (s.push n) bs
    | none =>
      if b = 61 then readBase64Word s.close bs
      else if b = 63 then
        match bs with
        | 61 :: rest => some (s.bytes, rest)
        | _ => none
      else if b = 10 then if continuesLine bs then readBase64Word s bs else none
      else if isLineBlank b ∨ b = 13 then readBase64Word s bs
      else none

/-- An encoded word. -/
structure EncodedWord where
  /-- What it stands for. -/
  text : List Char
  /-- How many bytes it takes. -/
  size : Nat
  deriving Repr, DecidableEq

/-- The bytes up to a question mark on the same line, and those after it. -/
def cutAtQuestion (read : List UInt8) : List UInt8 → Option (List UInt8 × List UInt8)
  | [] => none
  | b :: bs =>
    if b = 63 then some (read.reverse, bs)
    else if b = 10 then none
    else cutAtQuestion (b :: read) bs

/-- The encoded word at the start of some bytes, if there is one. The name of its character set has
at least two characters. -/
def encodedWord? : List UInt8 → Option EncodedWord
  | 61 :: 63 :: bs => do
    let (set, bs') ← cutAtQuestion [] bs
    let charset := set.takeWhile (· ≠ 42)
    if charset.length < 2 then none
    else
      let (bytes, rest) ←
        match bs' with
        | e :: 63 :: word =>
          if e = 81 ∨ e = 113 then readQuotedWord .closed false [] word
          else if e = 66 ∨ e = 98 then readBase64Word {} word
          else none
        | _ => none
      pure ⟨decodeCharset (decodeLossy charset) bytes, bs.length + 2 - rest.length⟩
  | _ => none

end Parley.Mail
