import Parley.Calendar.Date

/-!
# Points in time

A point in time is a date with a time of day in universal time. A leap second is written as the
second sixty of its minute.

## Main definitions

- `Instant` — a date, hour, minute, second and nanoseconds
- `Instant.text` — with the offset of universal time, `+00:00`
- `Instant.shortText` — with the letter `Z` in place of the offset
- `Instant.read` — reads a local time with its offset

## Design notes

The fields up to the second have fixed places, so a text with fewer characters is too short
whatever it holds, and otherwise the first field that is wrong decides. A leap second is kept as a
full second of extra nanoseconds.
-/

namespace Parley

open Parley.Text

/-- Nanoseconds in a second. -/
def nanosPerSecond : Nat :=
  1000000000

/-- Minutes in a day. -/
def minutesPerDay : Nat :=
  1440

/-- A point in time, in universal time. -/
structure Instant where
  /-- The day. -/
  date : Date
  /-- The minutes of the day that are over. -/
  minute : Fin minutesPerDay
  /-- The seconds of the minute that are over. -/
  second : Fin 60
  /-- The nanoseconds of the second that are over; a leap second makes two seconds of one. -/
  nanos : Fin (2 * nanosPerSecond)
  deriving DecidableEq

namespace Instant

/-- A fraction of a second in no, three, six or nine digits, as few as show it. -/
def fractionText (nanos : Nat) : List Char :=
  if nanos = 0 then []
  else if nanos % 1000000 = 0 then '.' :: Date.digits 3 (nanos / 1000000)
  else if nanos % 1000 = 0 then '.' :: Date.digits 6 (nanos / 1000)
  else '.' :: Date.digits 9 nanos

/-- The date and the time of day. -/
def chars (t : Instant) : List Char :=
  t.date.chars ++ 'T' :: Date.digits 2 (t.minute.val / 60) ++
    ':' :: Date.digits 2 (t.minute.val % 60) ++
    ':' :: Date.digits 2 (t.second.val + t.nanos.val / nanosPerSecond) ++
    fractionText (t.nanos.val % nanosPerSecond)

/-- The point in time with the offset of universal time. -/
def text (t : Instant) : String :=
  String.ofList (t.chars ++ "+00:00".toList)

/-- The point in time with the letter for universal time. -/
def shortText (t : Instant) : String :=
  String.ofList (t.chars ++ ['Z'])

/-- Reads exactly `count` digits. -/
def readFixed : Nat → Nat → List Char → Except CalendarError (Nat × List Char)
  | 0, n, s => .ok (n, s)
  | _ + 1, _, [] => .error .tooShort
  | count + 1, n, c :: cs =>
    match digitValue? c with
    | some d => readFixed count (n * 10 + d) cs
    | none => .error .invalid

/-- Reads the letter or blank between the date and the time. -/
def readSeparator (s : List Char) : Except CalendarError (List Char) :=
  match s with
  | [] => .error .tooShort
  | c :: cs => if c = 'T' ∨ c = 't' ∨ c = ' ' then .ok cs else .error .invalid

/-- Reads a fraction in nanoseconds after its point; digits after the ninth are dropped. -/
def readFraction (s : List Char) : Except CalendarError (Nat × List Char) := do
  let (n, rest) ← Date.readNumber 9 s
  pure (n * Nat.pow 10 (9 - (s.length - rest.length)), rest.dropWhile Char.isDigit)

/-- Reads the sign of an offset; there is a minus sign beside the dash. -/
def readSign (s : List Char) : Except CalendarError (Bool × List Char) :=
  match s with
  | [] => .error .tooShort
  | c :: cs =>
    if c = '+' then .ok (false, cs)
    else if c = '-' ∨ c = '−' then .ok (true, cs)
    else .error .invalid

/-- Reads two digits of an offset, a character beyond ASCII counting by its bytes. -/
def readOffsetPart (s : List Char) : Except CalendarError (Nat × List Char) :=
  match s with
  | a :: b :: rest =>
    match digitValue? a, digitValue? b with
    | some m, some n => .ok (10 * m + n, rest)
    | _, _ => .error .invalid
  | [a] => if a.utf8Size < 2 then .error .tooShort else .error .invalid
  | [] => .error .tooShort

/-- Reads an offset from universal time in minutes: the letter `Z`, or hours and minutes. -/
def readOffset (s : List Char) : Except CalendarError (Int × List Char) :=
  match s with
  | 'Z' :: rest => .ok (0, rest)
  | 'z' :: rest => .ok (0, rest)
  | s => do
    let (behind, s) ← readSign s
    let (hours, s) ← readOffsetPart s
    let s ← Date.readMark ':' s
    let (minutes, s) ← readOffsetPart s
    if 60 ≤ minutes then .error .outOfRange
    else
      let offset : Int := (60 * hours + minutes : Nat)
      pure (if behind then -offset else offset, s)

/-- The point in time that lies `offset` minutes before a local time. -/
def ofLocal? (date : Date) (minute : Nat) (second : Fin 60) (nanos : Fin (2 * nanosPerSecond))
    (offset : Int) : Option Instant :=
  let total : Int := minute - offset
  let day? :=
    if total < 0 then date.previous? else if total < minutesPerDay then some date else date.next?
  day?.map fun day =>
    ⟨day, ⟨(total % minutesPerDay).toNat % minutesPerDay, Nat.mod_lt _ (by decide)⟩, second, nanos⟩

/-- The length of a text in UTF-8. -/
def byteLength (s : List Char) : Nat :=
  s.foldl (fun n c => n + c.utf8Size) 0

/-- Reads a time of day up to the second. -/
def readClock (s : List Char) : Except CalendarError ((Nat × Nat × Nat) × List Char) := do
  let (hour, s) ← readFixed 2 0 s
  let s ← Date.readMark ':' s
  let (minute, s) ← readFixed 2 0 s
  let s ← Date.readMark ':' s
  let (second, s) ← readFixed 2 0 s
  pure ((hour, minute, second), s)

/-- Reads the date at the start of a point in time. -/
def readDay (s : List Char) : Except CalendarError (Date × List Char) := do
  let (year, s) ← readFixed 4 0 s
  let s ← Date.readMark '-' s
  let (month, s) ← readFixed 2 0 s
  let s ← Date.readMark '-' s
  let (day, s) ← readFixed 2 0 s
  match Date.of? year month day with
  | some d => pure (d, s)
  | none => .error .outOfRange

/-- Reads a local time with its offset from universal time. -/
def read (s : List Char) : Except CalendarError Instant := do
  if byteLength s < 19 then .error .tooShort
  let (date, s) ← readDay s
  let s ← readSeparator s
  let ((hour, minute, second), s) ← readClock s
  let (nanos, s) ← match s with
    | '.' :: rest => readFraction rest
    | s => pure (0, s)
  if 24 ≤ hour ∨ 60 ≤ minute ∨ 60 < second then .error .outOfRange
  let leap := if second = 60 then nanosPerSecond else 0
  let (offset, s) ← readOffset s
  if !s.isEmpty then .error .tooLong
  if offset ≤ -(minutesPerDay : Int) ∨ (minutesPerDay : Int) ≤ offset then .error .outOfRange
  match ofLocal? date (60 * hour + minute) (Fin.ofNat 60 (min second 59))
      ⟨(nanos + leap) % (2 * nanosPerSecond), Nat.mod_lt _ (by decide)⟩ offset with
  | some t => pure t
  | none => .error .outOfRange

end Instant

end Parley
