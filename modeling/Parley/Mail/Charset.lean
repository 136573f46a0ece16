import Parley.Mail.CodePage
import Parley.Mail.Base64
import Parley.Text.Utf8

/-!
# Character sets

A mail names the character set in which its bytes are text. Sets that are not known are taken for
UTF-8.

## Main definitions

- `decodeUnits` — the text of bytes in pairs
- `decodeShifted` — the text of bytes of which some runs are pairs in Base64
- `decodeCharset` — the text of bytes in a character set
-/

namespace Parley.Mail

open Parley.Text

/-- The numbers of two bytes each, with the high byte first; a last single byte is dropped. -/
def unitsHighFirst : List UInt8 → List Nat
  | a :: b :: rest => (a.toNat * 0x100 + b.toNat) :: unitsHighFirst rest
  | _ => []

/-- The numbers of two bytes each, with the low byte first; a last single byte is dropped. -/
def unitsLowFirst : List UInt8 → List Nat
  | a :: b :: rest => (b.toNat * 0x100 + a.toNat) :: unitsLowFirst rest
  | _ => []

/-- Whether a unit is the first of a pair that stands for one character. -/
def isLeading (u : Nat) : Bool :=
  0xD800 ≤ u && u ≤ 0xDBFF

/-- Whether a unit is the second of a pair that stands for one character. -/
def isTrailing (u : Nat) : Bool :=
  0xDC00 ≤ u && u ≤ 0xDFFF

/-- The text of units. Half of a pair that stands alone is no text. -/
def decodeUnits : List Nat → List Char
  | [] => []
  | [u] => [if isLeading u || isTrailing u then replacement else Char.ofNat u]
  | u :: v :: rest =>
    if isLeading u then
      if isTrailing v then
        Char.ofNat (0x10000 + (u - 0xD800) * 0x400 + (v - 0xDC00)) :: decodeUnits rest
      else replacement :: decodeUnits (v :: rest)
    else
      (if isTrailing u then replacement else Char.ofNat u) :: decodeUnits (v :: rest)

/-- The text of bytes in pairs, of which the first may tell which byte comes first; without that,
the low byte does. -/
def decodeMarkedUnits : List UInt8 → List Char
  | 0xFE :: 0xFF :: rest => decodeUnits (unitsHighFirst rest)
  | 0xFF :: 0xFE :: rest => decodeUnits (unitsLowFirst rest)
  | bs => decodeUnits (unitsLowFirst bs)

/-- The text of a run in Base64; an empty run stands for the plus sign that begins it. -/
def shiftedText (s : Sextets) : List Char :=
  match s.close.bytes with
  | [] => ['+']
  | bs => decodeUnits (unitsHighFirst bs)

/-- The text of bytes of which the runs after a plus sign are pairs of bytes in Base64; `run?` is
the run being read. A dash that ends a run is no text. -/
def decodeShiftedFrom (run? : Option Sextets) : List UInt8 → List Char
  | [] => (run?.map shiftedText).getD []
  | b :: bs =>
    match run? with
    | none =>
      if b = 43 then decodeShiftedFrom (some {}) bs
      else Char.ofNat b.toNat :: decodeShiftedFrom none bs
    | some run =>
      match sextet? b with
      | some n => decodeShiftedFrom (some (run.push n)) bs
      | none =>
        shiftedText run ++
          if b = 45 then decodeShiftedFrom none bs
          else Char.ofNat b.toNat :: decodeShiftedFrom none bs

/-- The text of bytes of which the runs after a plus sign are pairs of bytes in Base64. -/
def decodeShifted (bs : List UInt8) : List Char :=
  decodeShiftedFrom none bs

/-- The text of bytes in a character set. The case of its name does not matter. -/
def decodeCharset (name : List Char) (bs : List UInt8) : List Char :=
  let name := String.ofList (name.map Char.toLower)
  match name with
  | "utf-16" | "csutf16" => decodeMarkedUnits bs
  | "utf-16be" | "csutf16be" => decodeUnits (unitsHighFirst bs)
  | "utf-16le" | "csutf16le" => decodeUnits (unitsLowFirst bs)
  | "utf-7" | "csutf7" => decodeShifted bs
  | _ =>
    match CodePage.named? name with
    | some page => page.decode bs
    | none => decodeLossy bs

end Parley.Mail
