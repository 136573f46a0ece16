import Parley.Regex.Syntax

/-!
# Flags, blanks and escapes in patterns

The pieces that patterns share inside and outside of brackets: the flags in force, the blanks and
comments that verbose mode skips, numbers, and the sequences after a backslash.

## Main definitions

- `Flags` — the modes that `(?flags)` switches
- `Flags.skip` — passes over blanks and comments, in verbose mode only
- `readCount` — a number in a counted repetition
- `Escape`, `readEscape` — what a backslash sequence denotes

## Design notes

Readers take the text that is left and give back what they read with the text after it; `none`
means that the text is not a pattern. Why it is not one is nowhere reported, so no cause is kept.
-/

namespace Parley

open Parley.Text Parley.Unicode

/-- The modes in force at a place in a pattern. -/
structure Flags where
  /-- Letters match in either case. -/
  caseless : Bool := false
  /-- The line anchors hold at every line. -/
  multiline : Bool := false
  /-- The dot matches a line feed too. -/
  dotAll : Bool := false
  /-- Repetitions are lazy, and greedy with a question mark. -/
  lazy : Bool := false
  /-- Classes are those of all scripts. -/
  unicode : Bool := true
  /-- A carriage return ends a line too. -/
  carriage : Bool := false
  /-- Blanks and comments in the pattern are skipped. -/
  verbose : Bool := false
  deriving Repr, DecidableEq

namespace Flags

/-- Switches the flag of a letter; `none` if no flag has the letter. -/
def set? (f : Flags) (letter : Char) (on : Bool) : Option Flags :=
  if letter = 'i' then some { f with caseless := on }
  else if letter = 'm' then some { f with multiline := on }
  else if letter = 's' then some { f with dotAll := on }
  else if letter = 'U' then some { f with lazy := on }
  else if letter = 'u' then some { f with unicode := on }
  else if letter = 'R' then some { f with carriage := on }
  else if letter = 'x' then some { f with verbose := on }
  else none

/-- Passes over blanks, and over comments from a number sign to the end of the line. -/
def skipVerbose : List Char → Bool → List Char
  | [], _ => []
  | c :: cs, comment =>
    if comment then skipVerbose cs (c ≠ '\n')
    else if isBlank c then skipVerbose cs false
    else if c = '#' then skipVerbose cs true
    else c :: cs

/-- Passes over what the mode does not read. -/
def skip (f : Flags) (s : List Char) : List Char :=
  if f.verbose then skipVerbose s false else s

/-- Passes over the next character and what the mode does not read; `none` at the end. -/
def next? (f : Flags) (s : List Char) : Option (List Char) :=
  match f.skip (s.drop 1) with
  | [] => none
  | rest => some rest

/-- The words that classes and assertions speak of. -/
def wordKind (f : Flags) : WordKind :=
  if f.unicode then .unicode else .ascii

end Flags

/-- The value of a hexadecimal digit in either case. -/
def hexValue? (c : Char) : Option Nat :=
  RangeTable.hexDigit? c.toUpper

/-- The value of a run of digits. -/
def digitsValue (base : Nat) (ds : List Nat) : Nat :=
  ds.foldl (fun n d => n * base + d) 0

/-- The decimal digits at the start of a text, with what is skipped after each. -/
def countDigits (f : Flags) : Nat → List Char → List Nat × List Char
  | fuel + 1, c :: cs =>
    if c.isDigit then
      let (ds, rest) := countDigits f fuel (f.skip cs)
      ((c.toNat - '0'.toNat) :: ds, rest)
    else ([], c :: cs)
  | _, s => ([], s)

/-- Blanks, a decimal number of 32 bits, and blanks again. -/
def readCount (f : Flags) (s : List Char) : Option (Nat × List Char) :=
  let s := s.dropWhile isBlank
  let (ds, rest) := countDigits f s.length s
  let n := digitsValue 10 ds
  if ds.isEmpty ∨ 0x100000000 ≤ n then none
  else some (n, f.skip (rest.dropWhile isBlank))

/-- What a backslash sequence denotes. -/
inductive Escape
  /-- A character; `byte` tells that it was written as two hexadecimal digits. -/
  | literal (c : Char) (byte : Bool)
  /-- A class. -/
  | chars (k : CharClass)
  /-- An assertion. -/
  | look (a : Assertion)

/-- The character of a number, if it is one. -/
def scalar? (n : Nat) : Option Char :=
  if n.isValidChar then some (Char.ofNat n) else none

/-- Exactly `count` hexadecimal digits, of which the text starts with the first. -/
def readHexDigits (f : Flags) : Nat → List Char → Option (List Nat × List Char)
  | 0, s => some ([], f.skip s)
  | count + 1, s =>
    match f.skip s with
    | [] => none
    | c :: cs => do
      let d ← hexValue? c
      let (ds, rest) ← readHexDigits f count cs
      pure (d :: ds, rest)

/-- Items up to the closing brace, one for each character that the mode reads. -/
def readBraced {α : Type} (f : Flags) (item? : Char → Option α) :
    Nat → List Char → Option (List α × List Char)
  | 0, _ => none
  | fuel + 1, s =>
    match f.skip s with
    | [] => none
    | '}' :: rest => some ([], rest)
    | c :: cs => do
      let x ← item? c
      let (xs, rest) ← readBraced f item? fuel cs
      pure (x :: xs, rest)

/-- A character given by number, after the letter that announces `count` digits. -/
def readHex (f : Flags) (count : Nat) (s : List Char) : Option (Escape × List Char) := do
  match f.skip s with
  | [] => none
  | '{' :: rest =>
    let (ds, rest) ← readBraced f hexValue? (rest.length + 1) rest
    if ds.isEmpty then none
    let c ← scalar? (digitsValue 16 ds)
    pure (.literal c false, f.skip rest)
  | s =>
    let (ds, rest) ← readHexDigits f count s
    let c ← scalar? (digitsValue 16 ds)
    pure (.literal c (count == 2), rest)

/-- Splits a text at the first place where `mark` stands. -/
def splitAtMark? (mark : List Char) : List Char → Option (List Char × List Char)
  | [] => none
  | c :: cs =>
    if mark.isPrefixOf (c :: cs) then some ([], (c :: cs).drop mark.length)
    else (splitAtMark? mark cs).map fun (a, b) => (c :: a, b)

/-- The class that a property name denotes: a name, or a name and a value with `!=`, `:` or `=`
between them, of which the first in this order counts. -/
def propertyClass? (name : List Char) : Option CharClass :=
  match splitAtMark? ['!', '='] name with
  | some (n, v) => (Property.valued? n v).map fun p => .compl (.property p)
  | none =>
    match splitAtMark? [':'] name <|> splitAtMark? ['='] name with
    | some (n, v) => (Property.valued? n v).map .property
    | none => (Property.named? name).map .property

/-- The class in the modes in force: folded first and then complemented. -/
def Flags.finish (f : Flags) (negated : Bool) (k : CharClass) : Option CharClass :=
  let k := if f.caseless then (if f.unicode then .anyCase k else .anyAsciiCase k) else k
  if negated then (if f.unicode then some (.compl k) else none) else some k

/-- A property class, after the letter that announces it. -/
def readProperty (f : Flags) (negated : Bool) (s : List Char) : Option (Escape × List Char) := do
  let (name, rest) ← match f.skip s with
    | [] => none
    | '{' :: rest => readBraced f some (rest.length + 1) rest
    | '\\' :: _ => none
    | c :: rest => some ([c], f.skip rest)
  if !f.unicode then none
  let k ← propertyClass? name
  let (negated, k) := match k with
    | .compl k => (!negated, k)
    | k => (negated, k)
  let k ← f.finish negated k
  pure (.chars k, rest)

/-- The class of digits, blanks or word characters, in the modes in force; only the classes of all
scripts have a complement. -/
def shorthand (f : Flags) (negated : Bool) (all ascii : CharClass) : Option CharClass :=
  if f.unicode then some (if negated then .compl all else all)
  else if negated then none else some ascii

/-- The blanks of ASCII. -/
def asciiBlanks : CharClass :=
  .ofRanges [('\t', '\r'), (' ', ' ')]

/-- The word characters of ASCII. -/
def asciiWord : CharClass :=
  .ofRanges [('0', '9'), ('A', 'Z'), ('_', '_'), ('a', 'z')]

/-- A letter or a dash, as in the name of a word boundary. -/
def boundaryLetter? (c : Char) : Option Char :=
  if c.isAlpha ∨ c = '-' then some c else none

/-- A word boundary, after its letter. A name in braces chooses a side; a brace that is not
followed by a letter or a dash belongs to a counted repetition. -/
def readBoundary (f : Flags) (s : List Char) : Option (Escape × List Char) :=
  match s with
  | '{' :: body =>
    match f.skip body with
    | [] => none
    | c :: rest =>
      if (boundaryLetter? c).isSome then do
        let (name, rest) ← readBraced f boundaryLetter? (rest.length + 2) (c :: rest)
        let name := String.ofList name
        if name = "start" then pure (.look (.wordStart f.wordKind), rest)
        else if name = "end" then pure (.look (.wordEnd f.wordKind), rest)
        else if name = "start-half" then pure (.look (.wordStartHalf f.wordKind), rest)
        else if name = "end-half" then pure (.look (.wordEndHalf f.wordKind), rest)
        else none
      else some (.look (.wordBoundary f.wordKind), s)
  | _ => some (.look (.wordBoundary f.wordKind), s)

/-- The sequence after a backslash. Letters and digits without a meaning are no pattern, and so
are angle brackets inside of classes; other ASCII characters stand for themselves. -/
def readEscape (f : Flags) (s : List Char) : Option (Escape × List Char) :=
  match s with
  | [] => none
  | c :: rest =>
    match c with
    | 'x' => readHex f 2 rest
    | 'u' => readHex f 4 rest
    | 'U' => readHex f 8 rest
    | 'p' => readProperty f false rest
    | 'P' => readProperty f true rest
    | 'd' => (shorthand f false .digit (.range '0' '9')).map fun k => (.chars k, rest)
    | 'D' => (shorthand f true .digit (.range '0' '9')).map fun k => (.chars k, rest)
    | 's' => (shorthand f false .blank asciiBlanks).map fun k => (.chars k, rest)
    | 'S' => (shorthand f true .blank asciiBlanks).map fun k => (.chars k, rest)
    | 'w' => (shorthand f false .word asciiWord).map fun k => (.chars k, rest)
    | 'W' => (shorthand f true .word asciiWord).map fun k => (.chars k, rest)
    | 'a' => some (.literal '\x07' false, rest)
    | 'f' => some (.literal '\x0c' false, rest)
    | 't' => some (.literal '\t' false, rest)
    | 'n' => some (.literal '\n' false, rest)
    | 'r' => some (.literal '\r' false, rest)
    | 'v' => some (.literal '\x0b' false, rest)
    | 'A' => some (.look .textStart, rest)
    | 'z' => some (.look .textEnd, rest)
    | 'b' => readBoundary f rest
    | 'B' => some (.look (.noWordBoundary f.wordKind), rest)
    | '<' => some (.look (.wordStart f.wordKind), rest)
    | '>' => some (.look (.wordEnd f.wordKind), rest)
    | c => if c.toNat ≤ 0x7F ∧ !c.isAlphanum then some (.literal c false, rest) else none

end Parley
