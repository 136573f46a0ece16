import Parley.Calendar.Instant
import Parley.Number.Decimal
import Parley.Text.Quoted

/-!
# Values

A handler receives values. Each comes from a text, or from the absence of one, by conversion to
the type that the handler asks for.

## Main definitions

- `Value`, `ValueType` — the values and their types
- `convert` — the value of a text
- `ConversionError` — why a text has no value of a type
- `Args` — the values that a handler receives, with typed access

## Design notes

Whole numbers are machine words of 32 and 64 bits, so their bounds are part of their types.
-/

namespace Parley

open Parley.Text

/-- The types that a text can be converted to. -/
inductive ValueType
  | text
  | int
  | long
  | bool
  | decimal
  | date
  | datetime
  deriving Repr, DecidableEq

/-- The name of a type. -/
def ValueType.name : ValueType → String
  | text => "text"
  | int => "int"
  | long => "long"
  | bool => "bool"
  | decimal => "decimal"
  | date => "date"
  | datetime => "datetime"

/-- A value of one of the types, or none. -/
inductive Value
  | null
  | text (s : String)
  | int (n : Int32)
  | long (n : Int64)
  | bool (b : Bool)
  | decimal (d : Decimal)
  | date (d : Date)
  | datetime (t : Instant)
  deriving DecidableEq

/-- What a type makes of the absence of a text: zero or false where there is one, else no value. -/
def ValueType.nullValue : ValueType → Value
  | int => .int 0
  | long => .long 0
  | bool => .bool false
  | text | decimal | date | datetime => .null

namespace Value

/-- Whether there is no value. -/
def isNull : Value → Bool
  | null => true
  | _ => false

/-- The text, if the value is one. -/
def asText? : Value → Option String
  | text s => some s
  | _ => none

/-- The 32-bit number, if the value is one. -/
def asInt? : Value → Option Int32
  | int n => some n
  | _ => none

/-- The 64-bit number, if the value is a number of either width. -/
def asLong? : Value → Option Int64
  | long n => some n
  | int n => some n.toInt64
  | _ => none

/-- The truth value, if the value is one. -/
def asBool? : Value → Option Bool
  | bool b => some b
  | _ => none

/-- The decimal, if the value is one. -/
def asDecimal? : Value → Option Decimal
  | decimal d => some d
  | _ => none

/-- The date, if the value is one. -/
def asDate? : Value → Option Date
  | date d => some d
  | _ => none

/-- The point in time, if the value is one. -/
def asInstant? : Value → Option Instant
  | datetime t => some t
  | _ => none

/-- The value with the name of its type, as error messages show it. -/
def shown : Value → String
  | null => "Null"
  | text s => "Text(" ++ quoted s ++ ")"
  | int n => "Int(" ++ toString n.toInt ++ ")"
  | long n => "Long(" ++ toString n.toInt ++ ")"
  | bool b => "Bool(" ++ (if b then "true" else "false") ++ ")"
  | decimal d => "Decimal(" ++ d.text ++ ")"
  | date d => "Date(" ++ d.text ++ ")"
  | datetime t => "DateTime(" ++ t.shortText ++ ")"

end Value

/-- A text that has no value of a type. -/
structure ConversionError where
  /-- The text. -/
  value : String
  /-- The type. -/
  target : ValueType
  /-- Why there is no value. -/
  reason : String
  deriving Repr, DecidableEq

/-- The error in words. -/
def ConversionError.message (e : ConversionError) : String :=
  "Cannot convert " ++ quoted e.value ++ " to " ++ e.target.name ++ ": " ++ e.reason

/-- The truth value that a word stands for, in any case of its letters. -/
def readBool? (s : List Char) : Option Bool :=
  let word := String.ofList (s.map Char.toLower)
  if word = "true" ∨ word = "yes" ∨ word = "1" then some true
  else if word = "false" ∨ word = "no" ∨ word = "0" then some false
  else none

/-- The value of a text without the blanks around it, or the reason why there is none. -/
def readValue (target : ValueType) (s : List Char) : Except String Value :=
  match target with
  | .text => .ok (.text (String.ofList s))
  | .int =>
    match readInteger 0x80000000 0x7FFFFFFF s with
    | .ok n => .ok (.int (Int32.ofInt n))
    | .error e => .error e.message
  | .long =>
    match readInteger 0x8000000000000000 0x7FFFFFFFFFFFFFFF s with
    | .ok n => .ok (.long (Int64.ofInt n))
    | .error e => .error e.message
  | .bool =>
    match readBool? s with
    | some b => .ok (.bool b)
    | none => .error "expected true/false, yes/no or 1/0"
  | .decimal =>
    match Decimal.readAny s with
    | .ok d => .ok (.decimal d)
    | .error e => .error e.message
  | .date =>
    match Date.read s with
    | .ok d => .ok (.date d)
    | .error e => .error e.message
  | .datetime =>
    match Instant.read s with
    | .ok t => .ok (.datetime t)
    | .error e => .error e.message

/-- Converts a text that may be absent. Blanks around the text do not count, except in a value
that is a text itself. -/
def convert (raw : Option String) (target : ValueType) : Except ConversionError Value :=
  match raw with
  | none => .ok target.nullValue
  | some raw =>
    let s := if target = .text then raw.toList else trim raw.toList
    match readValue target s with
    | .ok v => .ok v
    | .error reason => .error ⟨raw, target, reason⟩

/-- The values that a handler receives, in the order of its bindings. -/
structure Args where
  /-- The values. -/
  values : List Value
  deriving DecidableEq

namespace Args

/-- The number of values. -/
def size (a : Args) : Nat :=
  a.values.length

/-- Whether there are no values. -/
def isEmpty (a : Args) : Bool :=
  a.values.isEmpty

/-- The value at a place. -/
def get? (a : Args) (i : Nat) : Option Value :=
  a.values[i]?

/-- The text at a place; no value counts as the empty text. -/
def text (a : Args) (i : Nat) : Except String String :=
  match a.get? i with
  | some (.text s) => .ok s
  | some .null => .ok ""
  | some v =>
    .error ("argument " ++ toString i ++ " is not text: Some(" ++ v.shown ++ ")")
  | none => .error ("argument " ++ toString i ++ " is not text: None")

/-- The 32-bit number at a place. -/
def int (a : Args) (i : Nat) : Except String Int32 :=
  match (a.get? i).bind Value.asInt? with
  | some n => .ok n
  | none => .error ("argument " ++ toString i ++ " is not an int")

/-- The decimal at a place. -/
def decimal (a : Args) (i : Nat) : Except String Decimal :=
  match (a.get? i).bind Value.asDecimal? with
  | some d => .ok d
  | none => .error ("argument " ++ toString i ++ " is not a decimal")

end Args

end Parley
