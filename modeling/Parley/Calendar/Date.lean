import Parley.Number.Integer
import Parley.Text.Blank

/-!
# Calendar dates

Dates of the Gregorian calendar, extended to all years that the calendar of this library covers.

## Main definitions

- `Date` — a year, a month and a day that exist together
- `Date.text` — year, month and day, joined by dashes
- `Date.read` — reads a date in that form
- `Date.next?`, `Date.previous?` — the neighbouring days
- `CalendarError` — why a text is no date

## Design notes

A field is checked against its own bounds as soon as it is read; whether the three fields exist
together is only asked when nothing is left to read.
-/

namespace Parley

open Parley.Text

/-- Why a text is no date or no point in time. -/
inductive CalendarError
  | tooShort
  | tooLong
  | invalid
  | outOfRange
  deriving Repr, DecidableEq

/-- The error in words. -/
def CalendarError.message : CalendarError → String
  | tooShort => "premature end of input"
  | tooLong => "trailing input"
  | invalid => "input contains invalid characters"
  | outOfRange => "input is out of range"

/-- Whether a year has a leap day. -/
def isLeapYear (year : Int) : Bool :=
  year % 4 == 0 && (year % 100 != 0 || year % 400 == 0)

/-- The number of days of a month. -/
def daysInMonth (year : Int) (month : Nat) : Nat :=
  if month = 2 then (if isLeapYear year then 29 else 28)
  else if month = 4 ∨ month = 6 ∨ month = 9 ∨ month = 11 then 30
  else 31

/-- The first year of the calendar. -/
def firstYear : Int :=
  -262143

/-- The last year of the calendar. -/
def lastYear : Int :=
  262142

/-- Whether a day exists. -/
def IsDate (year : Int) (month day : Nat) : Prop :=
  (firstYear ≤ year ∧ year ≤ lastYear) ∧ (1 ≤ month ∧ month ≤ 12) ∧
    1 ≤ day ∧ day ≤ daysInMonth year month

instance (year : Int) (month day : Nat) : Decidable (IsDate year month day) :=
  inferInstanceAs (Decidable (_ ∧ _ ∧ _ ∧ _))

/-- A day of the calendar. -/
structure Date where
  /-- The year; the year before year one is zero. -/
  year : Int
  /-- The month, from one. -/
  month : Nat
  /-- The day of the month, from one. -/
  day : Nat
  isDate : IsDate year month day
  deriving DecidableEq

namespace Date

/-- The day with these numbers, if it exists. -/
def of? (year : Int) (month day : Nat) : Option Date :=
  if h : IsDate year month day then some ⟨year, month, day, h⟩ else none

/-- The day after, if the calendar covers it. -/
def next? (d : Date) : Option Date :=
  (of? d.year d.month (d.day + 1)).orElse fun _ =>
    if d.month = 12 then of? (d.year + 1) 1 1 else of? d.year (d.month + 1) 1

/-- The day before, if the calendar covers it. -/
def previous? (d : Date) : Option Date :=
  if 1 < d.day then of? d.year d.month (d.day - 1)
  else if d.month = 1 then of? (d.year - 1) 12 31
  else of? d.year (d.month - 1) (daysInMonth d.year (d.month - 1))

/-- A number in at least `width` digits. -/
def digits (width n : Nat) : List Char :=
  let ds := Nat.toDigits 10 n
  List.replicate (width - ds.length) '0' ++ ds

/-- A year in at least four digits; outside of four digits it has a sign. -/
def yearText (year : Int) : List Char :=
  if 0 ≤ year ∧ year ≤ 9999 then digits 4 year.toNat
  else (if year < 0 then '-' else '+') :: digits 4 year.natAbs

/-- The date as year, month and day. -/
def chars (d : Date) : List Char :=
  yearText d.year ++ '-' :: digits 2 d.month ++ '-' :: digits 2 d.day

/-- The date as year, month and day. -/
def text (d : Date) : String :=
  String.ofList d.chars

/-- The largest number that a field can hold while it is read. -/
def fieldLimit : Nat :=
  0x7FFFFFFFFFFFFFFF

/-- Reads digits, at most `width` of them. -/
def takeDigits : Nat → Nat → List Char → Except CalendarError (Nat × List Char)
  | 0, n, s => .ok (n, s)
  | _ + 1, n, [] => .ok (n, [])
  | width + 1, n, c :: cs =>
    match digitValue? c with
    | none => .ok (n, c :: cs)
    | some d =>
      if n * 10 + d ≤ fieldLimit then takeDigits width (n * 10 + d) cs else .error .outOfRange

/-- Reads a number of at least one and at most `width` digits. -/
def readNumber (width : Nat) (s : List Char) : Except CalendarError (Nat × List Char) :=
  match s with
  | [] => .error .tooShort
  | c :: _ => if c.isDigit then takeDigits width 0 s else .error .invalid

/-- Reads one given character. -/
def readMark (mark : Char) (s : List Char) : Except CalendarError (List Char) :=
  match s with
  | [] => .error .tooShort
  | c :: cs => if c = mark then .ok cs else .error .invalid

/-- Reads a year after blanks: with a sign any number of digits, else at most four. -/
def readYear (s : List Char) : Except CalendarError (Int × List Char) := do
  let (year, rest) ← match trimStart s with
    | '-' :: rest => (readNumber rest.length rest).map fun (n, rest) => (-(n : Int), rest)
    | '+' :: rest => (readNumber rest.length rest).map fun (n, rest) => ((n : Int), rest)
    | s => (readNumber 4 s).map fun (n, rest) => ((n : Int), rest)
  if -0x80000000 ≤ year ∧ year < 0x80000000 then pure (year, rest)
  else .error .outOfRange

/-- Reads a month or a day after blanks: at most two digits, from one to `last`. -/
def readPart (last : Nat) (s : List Char) : Except CalendarError (Nat × List Char) := do
  let (n, rest) ← readNumber 2 (trimStart s)
  if 1 ≤ n ∧ n ≤ last then pure (n, rest) else .error .outOfRange

/-- Reads a date: year, month and day with dashes between them. -/
def read (s : List Char) : Except CalendarError Date := do
  let (year, s) ← readYear s
  let s ← readMark '-' s
  let (month, s) ← readPart 12 s
  let s ← readMark '-' s
  let (day, s) ← readPart 31 s
  if s.isEmpty then
    match of? year month day with
    | some d => pure d
    | none => .error .outOfRange
  else .error .tooLong

end Date

end Parley
