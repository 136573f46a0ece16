/-!
# Reading JSON texts

The reader takes the values that it is asked for and passes over others. Values passed over must
be well formed too, but their strings may hold numbers of characters that do not exist.

## Main definitions

- `skipBlanks` — passes over white space
- `readString` — reads a string
- `skipValue` — passes over any value
- `readObject` — reads an object member by member
- `readArray` — reads an array of strings
-/

namespace Parley.Json

/-- Whether a character is white space in JSON. -/
def isBlank (c : Char) : Bool :=
  c == ' ' || c == '\t' || c == '\n' || c == '\r'

/-- Passes over white space. -/
def skipBlanks (s : List Char) : List Char :=
  s.dropWhile isBlank

/-- The value of a hexadecimal digit in either case. -/
def hexValue? (c : Char) : Option Nat :=
  if '0' ≤ c ∧ c ≤ '9' then some (c.toNat - '0'.toNat)
  else if 'a' ≤ c ∧ c ≤ 'f' then some (c.toNat - 'a'.toNat + 10)
  else if 'A' ≤ c ∧ c ≤ 'F' then some (c.toNat - 'A'.toNat + 10)
  else none

/-- Four hexadecimal digits. -/
def readHex4 : List Char → Option (Nat × List Char)
  | a :: b :: c :: d :: rest => do
    let a ← hexValue? a
    let b ← hexValue? b
    let c ← hexValue? c
    let d ← hexValue? d
    pure (((a * 16 + b) * 16 + c) * 16 + d, rest)
  | _ => none

/-- The character that a letter after a backslash stands for. -/
def letterEscape? (c : Char) : Option Char :=
  if c = '"' ∨ c = '\\' ∨ c = '/' then some c
  else if c = 'b' then some '\x08'
  else if c = 'f' then some '\x0c'
  else if c = 'n' then some '\n'
  else if c = 'r' then some '\r'
  else if c = 't' then some '\t'
  else none

/-- The character whose number in UTF-16 starts with the unit `n`, after that unit. -/
def readUnit (n : Nat) (s : List Char) : Option (Char × List Char) :=
  if 0xD800 ≤ n ∧ n ≤ 0xDBFF then
    match s with
    | '\\' :: 'u' :: s => do
      let (m, rest) ← readHex4 s
      if 0xDC00 ≤ m ∧ m ≤ 0xDFFF then
        pure (Char.ofNat (0x10000 + (n - 0xD800) * 0x400 + (m - 0xDC00)), rest)
      else none
    | _ => none
  else if 0xDC00 ≤ n ∧ n ≤ 0xDFFF then none
  else some (Char.ofNat n, s)

/-- Reads a string after its opening quote; each character takes one unit of fuel. -/
def readStringFrom : Nat → List Char → Option (List Char × List Char)
  | 0, _ => none
  | _ + 1, [] => none
  | _ + 1, '"' :: rest => some ([], rest)
  | fuel + 1, '\\' :: 'u' :: s => do
    let (n, s) ← readHex4 s
    let (c, s) ← readUnit n s
    let (cs, rest) ← readStringFrom fuel s
    pure (c :: cs, rest)
  | fuel + 1, '\\' :: e :: s => do
    let c ← letterEscape? e
    let (cs, rest) ← readStringFrom fuel s
    pure (c :: cs, rest)
  | fuel + 1, c :: s =>
    if c = '\\' ∨ c.toNat < 0x20 then none
    else do
      let (cs, rest) ← readStringFrom fuel s
      pure (c :: cs, rest)

/-- Reads a string after white space. -/
def readString (s : List Char) : Option (String × List Char) :=
  match skipBlanks s with
  | '"' :: rest =>
    (readStringFrom rest.length rest).map fun (cs, rest) => (String.ofList cs, rest)
  | _ => none

/-- Passes over a string after its opening quote. -/
def skipStringFrom : Nat → List Char → Option (List Char)
  | 0, _ => none
  | _ + 1, [] => none
  | _ + 1, '"' :: rest => some rest
  | fuel + 1, '\\' :: 'u' :: s => do
    let (_, s) ← readHex4 s
    skipStringFrom fuel s
  | fuel + 1, '\\' :: e :: s => do
    let _ ← letterEscape? e
    skipStringFrom fuel s
  | fuel + 1, c :: s =>
    if c = '\\' ∨ c.toNat < 0x20 then none else skipStringFrom fuel s

/-- Passes over at least one digit. -/
def skipDigits (s : List Char) : Option (List Char) :=
  match s with
  | c :: _ => if c.isDigit then some (s.dropWhile Char.isDigit) else none
  | [] => none

/-- Passes over the whole part of a number: a zero alone, or digits without a zero in front. -/
def skipWhole (s : List Char) : Option (List Char) :=
  match s with
  | '0' :: c :: rest => if c.isDigit then none else some (c :: rest)
  | '0' :: [] => some []
  | s => skipDigits s

/-- Passes over the fraction of a number, if there is one. -/
def skipFraction (s : List Char) : Option (List Char) :=
  match s with
  | '.' :: rest => skipDigits rest
  | s => some s

/-- Passes over the exponent of a number, if there is one. -/
def skipExponent (s : List Char) : Option (List Char) :=
  match s with
  | c :: rest =>
    if c = 'e' ∨ c = 'E' then
      match rest with
      | '+' :: rest => skipDigits rest
      | '-' :: rest => skipDigits rest
      | rest => skipDigits rest
    else some s
  | [] => some []

/-- Passes over a number. -/
def skipNumber (s : List Char) : Option (List Char) := do
  let s := match s with
    | '-' :: rest => rest
    | s => s
  let s ← skipWhole s
  let s ← skipFraction s
  skipExponent s

/-- The bracket of an open array or object. -/
inductive Enclosing
  | array
  | object
  deriving Repr, DecidableEq

/-- What comes next inside of open arrays and objects. -/
inductive Expect
  /-- A value. -/
  | value
  /-- A value, or the end of an empty array. -/
  | firstValue
  /-- A member of an object. -/
  | member
  /-- A member, or the end of an empty object. -/
  | firstMember
  /-- A comma or a closing bracket. -/
  | close
  deriving Repr, DecidableEq

/-- Passes over values until all open brackets are closed. Every step consumes a character or
turns to what follows a value. -/
def skipFrom : Nat → Expect → List Enclosing → List Char → Option (List Char)
  | 0, _, _, _ => none
  | fuel + 1, expect, enclosing, s =>
    match expect, enclosing, skipBlanks s with
    | .close, [], _ => some s
    | .close, .array :: _, ',' :: rest => skipFrom fuel .value enclosing rest
    | .close, .object :: _, ',' :: rest => skipFrom fuel .member enclosing rest
    | .close, .array :: outer, ']' :: rest => skipFrom fuel .close outer rest
    | .close, .object :: outer, '}' :: rest => skipFrom fuel .close outer rest
    | .close, _, _ => none
    | .firstValue, .array :: outer, ']' :: rest => skipFrom fuel .close outer rest
    | .firstMember, .object :: outer, '}' :: rest => skipFrom fuel .close outer rest
    | .member, _, '"' :: rest | .firstMember, _, '"' :: rest => do
      let rest ← skipStringFrom rest.length rest
      match skipBlanks rest with
      | ':' :: rest => skipFrom fuel .value enclosing rest
      | _ => none
    | .member, _, _ | .firstMember, _, _ => none
    | .value, _, c :: rest | .firstValue, _, c :: rest =>
      if c = '[' then skipFrom fuel .firstValue (.array :: enclosing) rest
      else if c = '{' then skipFrom fuel .firstMember (.object :: enclosing) rest
      else if c = '"' then do
        let rest ← skipStringFrom rest.length rest
        skipFrom fuel .close enclosing rest
      else if c = '-' ∨ c.isDigit then do
        let rest ← skipNumber (c :: rest)
        skipFrom fuel .close enclosing rest
      else
        match c :: rest with
        | 'n' :: 'u' :: 'l' :: 'l' :: rest => skipFrom fuel .close enclosing rest
        | 't' :: 'r' :: 'u' :: 'e' :: rest => skipFrom fuel .close enclosing rest
        | 'f' :: 'a' :: 'l' :: 's' :: 'e' :: rest => skipFrom fuel .close enclosing rest
        | _ => none
    | .value, _, [] | .firstValue, _, [] => none

/-- Passes over a value. -/
def skipValue (s : List Char) : Option (List Char) :=
  skipFrom (2 * s.length + 2) .value [] s

/-- Reads the members of an object after its opening brace or a comma. The members that `wanted`
names must be strings and appear at most once; others are passed over. -/
def readMembers (wanted : List String) :
    Nat → List (String × String) → List Char → Option (List (String × String) × List Char)
  | 0, _, _ => none
  | fuel + 1, found, s => do
    let (key, s) ← readString s
    match skipBlanks s with
    | ':' :: s =>
      let (found, s) ←
        if wanted.contains key then
          if (found.lookup key).isSome then none
          else (readString s).map fun (v, s) => ((key, v) :: found, s)
        else (skipValue s).map fun s => (found, s)
      match skipBlanks s with
      | ',' :: s => readMembers wanted fuel found s
      | '}' :: rest => some (found, rest)
      | _ => none
    | _ => none

/-- Reads an object after its opening brace. -/
def readObject (wanted : List String) (s : List Char) :
    Option (List (String × String) × List Char) :=
  match skipBlanks s with
  | '}' :: rest => some ([], rest)
  | s => readMembers wanted s.length [] s

/-- Reads strings with commas between them, up to the end of the array. -/
def readItems : Nat → List Char → Option (List String × List Char)
  | 0, _ => none
  | fuel + 1, s => do
    let (item, s) ← readString s
    match skipBlanks s with
    | ',' :: s =>
      let (items, rest) ← readItems fuel s
      pure (item :: items, rest)
    | ']' :: rest => some ([item], rest)
    | _ => none

/-- Reads an array of strings after its opening bracket. -/
def readArray (s : List Char) : Option (List String × List Char) :=
  match skipBlanks s with
  | ']' :: rest => some ([], rest)
  | s => readItems s.length s

end Parley.Json
