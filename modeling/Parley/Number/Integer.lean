/-!
# Integers in decimal digits

Whole numbers are read from an optional sign and decimal digits, within bounds that the reader
gives. Digits are read from left to right, and the first fault ends the reading: a character that
is no digit, or a digit that takes the number out of its bounds.

## Main definitions

- `IntegerError` — why a text is no integer
- `readInteger` — the integer of a text within bounds
- `readNatural` — the same for unsigned numbers, which take no minus sign
-/

namespace Parley

/-- Why a text is no integer within bounds. -/
inductive IntegerError
  | empty
  | invalidDigit
  | tooLarge
  | tooSmall
  deriving Repr, DecidableEq

/-- The error in words. -/
def IntegerError.message : IntegerError → String
  | empty => "cannot parse integer from empty string"
  | invalidDigit => "invalid digit found in string"
  | tooLarge => "number too large to fit in target type"
  | tooSmall => "number too small to fit in target type"

/-- The value of an ASCII digit. -/
def digitValue? (c : Char) : Option Nat :=
  if c.isDigit then some (c.toNat - '0'.toNat) else none

/-- Reads digits of a magnitude that starts at `n` and may not exceed `limit`; `excess` is the
error of one that does. -/
def readMagnitude (limit : Nat) (excess : IntegerError) : Nat → List Char →
    Except IntegerError Nat
  | n, [] => .ok n
  | n, c :: cs =>
    match digitValue? c with
    | none => .error .invalidDigit
    | some d =>
      if n * 10 + d ≤ limit then readMagnitude limit excess (n * 10 + d) cs else .error excess

/-- Reads the digits after a sign, of which there must be one. -/
def readDigits (limit : Nat) (excess : IntegerError) (s : List Char) : Except IntegerError Nat :=
  if s.isEmpty then .error .invalidDigit else readMagnitude limit excess 0 s

/-- Reads an integer from `-below` to `above`: an optional sign and digits. -/
def readInteger (below above : Nat) (s : List Char) : Except IntegerError Int :=
  match s with
  | [] => .error .empty
  | '-' :: rest => (readDigits below .tooSmall rest).map fun n => -(n : Int)
  | '+' :: rest => (readDigits above .tooLarge rest).map fun n => (n : Int)
  | s => (readDigits above .tooLarge s).map fun n => (n : Int)

/-- Reads a natural number up to `above`: an optional plus sign and digits. -/
def readNatural (above : Nat) (s : List Char) : Except IntegerError Nat :=
  match s with
  | [] => .error .empty
  | '+' :: rest => readDigits above .tooLarge rest
  | s => readDigits above .tooLarge s

end Parley
