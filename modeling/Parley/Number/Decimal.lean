import Parley.Number.Integer

/-!
# Decimal numbers

A decimal has a sign, a mantissa of at most 96 bits and a scale, the number of digits after its
point. The scale is kept, so `1.50` and `1.5` are different decimals with the same value.

## Main definitions

- `Decimal` — the numbers
- `Decimal.text` — a decimal in digits
- `Decimal.read` — reads a decimal without an exponent
- `Decimal.readScientific` — reads a decimal with an exponent
- `DecimalError` — why a text is no decimal

## Design notes

A fraction is cut where one more digit would not fit. The digit after the cut decides whether the
mantissa is rounded up; the text behind that digit must still be well formed.
-/

namespace Parley

/-- The least number that a mantissa cannot be. -/
def mantissaBound : Nat :=
  0x1000000000000000000000000

/-- The most digits after the point. -/
def maxScale : Nat :=
  28

/-- A decimal number. -/
structure Decimal where
  /-- Whether the number is below zero. -/
  negative : Bool
  /-- The digits, as a whole number. -/
  mantissa : Nat
  /-- How many of the digits are after the point. -/
  scale : Nat
  mantissa_lt : mantissa < mantissaBound
  scale_le : scale ≤ maxScale
  deriving DecidableEq

/-- Why a text is no decimal. -/
inductive DecimalError
  | empty
  | unknownCharacter
  | twoPoints
  | leadingSeparator
  | noDigits
  | tooManyDigits
  | roundingOverflow
  | noExponent
  | scaleTooLarge (scale : Nat)
  | tooLarge
  deriving Repr, DecidableEq

/-- The error in words. -/
def DecimalError.message : DecimalError → String
  | empty => "Invalid decimal: empty"
  | unknownCharacter => "Invalid decimal: unknown character"
  | twoPoints => "Invalid decimal: two decimal points"
  | leadingSeparator => "Invalid decimal: must start lead with a number"
  | noDigits => "Invalid decimal: no digits found"
  | tooManyDigits => "Invalid decimal: overflow from too many digits"
  | roundingOverflow => "Invalid decimal: overflow from mantissa after rounding"
  | noExponent => "Failed to parse"
  | scaleTooLarge scale =>
    "Scale exceeds the maximum precision allowed: " ++ toString scale ++ " > " ++
      toString maxScale
  | tooLarge => "Number exceeds maximum value that can be represented."

namespace Decimal

/-- At least `width` digits, with zeros in front. -/
def padded (width : Nat) (n : Nat) : List Char :=
  let ds := Nat.toDigits 10 n
  List.replicate (width - ds.length) '0' ++ ds

/-- The digits of a decimal with its point, and a minus sign if it is negative. -/
def text (d : Decimal) : String :=
  let ds := padded (d.scale + 1) d.mantissa
  let whole := ds.take (ds.length - d.scale)
  let part := ds.drop (ds.length - d.scale)
  String.ofList ((if d.negative then ['-'] else []) ++ whole ++
    (if d.scale = 0 then [] else '.' :: part))

/-- What has been read of a decimal. -/
structure Progress where
  /-- The digits so far. -/
  mantissa : Nat := 0
  /-- The digits after the point so far. -/
  scale : Nat := 0
  /-- Whether the point has been read. -/
  point : Bool := false
  /-- Whether a digit has been read. -/
  digits : Bool := false

/-- The decimal with these parts, if they are within their bounds; zero has no sign. -/
def ofParts? (negative : Bool) (mantissa scale : Nat) : Option Decimal :=
  if h : mantissa < mantissaBound ∧ scale ≤ maxScale then
    some ⟨negative && mantissa != 0, mantissa, scale, h.1, h.2⟩
  else none

/-- The decimal that has been read. -/
def Progress.finish (negative : Bool) (p : Progress) : Except DecimalError Decimal :=
  if p.digits then
    match ofParts? negative p.mantissa p.scale with
    | some d => .ok d
    | none => .error .tooManyDigits
  else .error .noDigits

/-- The error of a character that cannot stand where it does. -/
def misplaced (c : Char) : DecimalError :=
  if c = '.' then .twoPoints else if c = '_' then .leadingSeparator else .unknownCharacter

/-- Ends the reading at the text after the last digit that fits, which may only hold digits and
separators. The first of the digits rounds the mantissa up from five on, and a mantissa that gets
too large thereby loses its last digit. -/
def Progress.round (negative : Bool) (p : Progress) (rest : List Char) :
    Except DecimalError Decimal :=
  match rest.find? fun c => (digitValue? c).isNone && c != '_' with
  | some c => .error (misplaced c)
  | none =>
    if ((rest.filterMap digitValue?).head?.getD 0) < 5 then p.finish negative
    else if p.mantissa + 1 < mantissaBound then
      { p with mantissa := p.mantissa + 1 }.finish negative
    else if p.scale = 0 then .error .roundingOverflow
    else { p with mantissa := (p.mantissa + 5) / 10, scale := p.scale - 1 }.finish negative

/-- Reads what follows the sign: digits, at most one point, and separators after the first
digit. -/
def readFrom (negative : Bool) (p : Progress) : List Char → Except DecimalError Decimal
  | [] => p.finish negative
  | c :: cs =>
    if p.point ∧ p.scale = maxScale then p.round negative (c :: cs)
    else
      match digitValue? c with
      | some d =>
        let n := p.mantissa * 10 + d
        if n < mantissaBound then
          readFrom negative
            { p with
              mantissa := n
              scale := p.scale + (if p.point then 1 else 0)
              digits := true } cs
        else if p.point then p.round negative (c :: cs)
        else .error .tooManyDigits
      | none =>
        if c = '.' ∧ !p.point then readFrom negative { p with point := true } cs
        else if c = '_' ∧ p.digits then readFrom negative p cs
        else .error (misplaced c)

/-- Reads a decimal: an optional sign, digits and a point. -/
def read (s : List Char) : Except DecimalError Decimal :=
  match s with
  | [] => .error .empty
  | '-' :: rest => readFrom true {} rest
  | '+' :: rest => readFrom false {} rest
  | s => readFrom false {} s

/-- Drops the last `count` digits of a number; the first of them rounds it. -/
def dropDigits (n count : Nat) : Nat :=
  if count = 0 then n
  else n / Nat.pow 10 count + (if 5 ≤ n / Nat.pow 10 (count - 1) % 10 then 1 else 0)

/-- The decimal divided by a power of ten. Its scale grows by as much; where it would grow beyond
its bound, digits are dropped. -/
def shiftDown (d : Decimal) (exponent : Nat) : Except DecimalError Decimal :=
  if maxScale < exponent then .error (.scaleTooLarge exponent)
  else
    let excess := d.scale + exponent - maxScale
    let n := dropDigits d.mantissa excess
    if h : n < mantissaBound then
      .ok ⟨d.negative, n, min (d.scale + exponent) maxScale, h, Nat.min_le_right _ _⟩
    else .error .tooLarge

/-- The decimal multiplied by a power of ten: digits move before the point, and then zeros are
added. -/
def shiftUp (d : Decimal) (exponent : Nat) : Except DecimalError Decimal :=
  if exponent ≤ d.scale then
    .ok ⟨d.negative, d.mantissa, d.scale - exponent, d.mantissa_lt,
      Nat.le_trans (Nat.sub_le _ _) d.scale_le⟩
  else if maxScale < exponent then .error (.scaleTooLarge exponent)
  else
    let n := d.mantissa * Nat.pow 10 (exponent - d.scale)
    if h : n < mantissaBound then .ok ⟨d.negative, n, 0, h, Nat.zero_le _⟩
    else .error .tooLarge

/-- Whether a character announces an exponent. -/
def isExponentMark (c : Char) : Bool :=
  c == 'e' || c == 'E'

/-- Reads a decimal, a letter `e` in either case, and an exponent. -/
def readScientific (s : List Char) : Except DecimalError Decimal :=
  match s.dropWhile (!isExponentMark ·) with
  | [] => .error .noExponent
  | _ :: exponent => do
    let d ← read (s.takeWhile (!isExponentMark ·))
    match exponent with
    | '-' :: digits =>
      match readNatural 0xFFFFFFFF digits with
      | .ok n => d.shiftDown n
      | .error _ => .error .noExponent
    | digits =>
      match readNatural 0xFFFFFFFF digits with
      | .ok n => d.shiftUp n
      | .error _ => .error .noExponent

/-- Reads a decimal with or without an exponent. The error is the one of the reading with an
exponent. -/
def readAny (s : List Char) : Except DecimalError Decimal :=
  match read s with
  | .ok d => .ok d
  | .error _ => readScientific s

end Decimal

end Parley
