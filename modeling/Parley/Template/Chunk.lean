import Parley.Regex.Reader
import Parley.Regex.Search
import Parley.Text.Quoted

/-!
# The chunks of a template

A template is literal text with placeholders in braces. A placeholder has a name and may have a
constraint, a pattern that its value must match as a whole: `{name}` or `{name:pattern}`. Braces
nest inside a placeholder, so a constraint may count repetitions.

## Main definitions

- `PatternError` — why a text is no template, with `PatternError.message`
- `Segment`, `Segment.split` — the text cut at its outermost braces
- `Constraint`, `Placeholder`, `Chunk` — what a template is made of
- `Placeholder.ofBraced` — the placeholder that a text in braces denotes
- `Chunk.ofText` — the chunks of a text
- `anchored?` — a pattern for the whole of a text

## Design notes

Cutting the text never fails; it only tells where an outermost brace stays open. Placeholders are
read afterwards, in order, so the first bad placeholder is reported before an open brace.

Why a text is no regex is not told: an error has no room for the words of the compiler of regexes,
and whoever puts it into words has to give them.
-/

namespace Parley

open Parley.Text

/-- Why a text is no template. -/
inductive PatternError
  /-- An outermost brace is never closed; it stands at this offset, in bytes of UTF-8. -/
  | unterminated (pattern : String) (offset : Nat)
  /-- A text in braces, given with its braces, is no placeholder. -/
  | invalidVariable (pattern chunk : String)
  /-- The constraint of a placeholder is no pattern. -/
  | invalidConstraint (name : String)
  /-- The template as a whole is no pattern. -/
  | invalidRegex (pattern : String)
  deriving Repr, DecidableEq

/-- The error in words, with what the compiler of regexes says about a text that it refuses. -/
def PatternError.message (e : PatternError) (reason : String := "") : String :=
  match e with
  | unterminated pattern offset =>
    "Unterminated '\x7b' at offset " ++ toString offset ++ " in pattern " ++ quoted pattern
  | invalidVariable pattern chunk =>
    "Invalid variable " ++ quoted chunk ++ " in pattern " ++ quoted pattern
  | invalidConstraint name =>
    "Constraint for variable " ++ name ++ " does not compile: " ++ reason
  | invalidRegex pattern => "Pattern " ++ quoted pattern ++ " does not compile: " ++ reason

/-- A piece of a text that is cut at its outermost braces. -/
inductive Segment
  /-- Text outside of braces. -/
  | plain (text : List Char)
  /-- Text between an outermost pair of braces, without them. -/
  | braced (inner : List Char)
  deriving Repr, DecidableEq

namespace Segment

/-- The text that the segment was cut from. -/
def source : Segment → List Char
  | plain text => text
  | braced inner => '{' :: inner ++ ['}']

/-- A plain segment, unless it is empty. -/
def plain? (text : List Char) : List Segment :=
  if text.isEmpty then [] else [plain text]

/-- Cuts a text. Outside of braces `level` is `none`, inside it counts the inner braces that are
open; `read` holds the segment being read, last character first. The second part is the text
after an outermost brace that is never closed. -/
def splitFrom : (level : Option Nat) → (read : List Char) → List Char →
    List Segment × Option (List Char)
  | none, read, [] => (plain? read.reverse, none)
  | some _, read, [] => ([], some read.reverse)
  | none, read, c :: cs =>
    if c = '{' then
      let (segments, tail) := splitFrom (some 0) [] cs
      (plain? read.reverse ++ segments, tail)
    else splitFrom none (c :: read) cs
  | some n, read, c :: cs =>
    if c = '{' then splitFrom (some (n + 1)) (c :: read) cs
    else if c = '}' then
      match n with
      | 0 =>
        let (segments, tail) := splitFrom none [] cs
        (braced read.reverse :: segments, tail)
      | n + 1 => splitFrom (some n) (c :: read) cs
    else splitFrom (some n) (c :: read) cs

/-- The segments of a text, and what follows an outermost brace that is never closed. -/
def split (s : List Char) : List Segment × Option (List Char) :=
  splitFrom none [] s

end Segment

/-- The regex of a pattern that is to match the whole of a text: the pattern is put into a group
between the start and the end of the text. -/
def anchored? (pattern : List Char) : Option Regex :=
  Regex.parse? (['^', '(', '?', ':'] ++ pattern ++ [')', '$'])

/-- A condition on the value of a placeholder. -/
structure Constraint where
  /-- The pattern as written. -/
  source : String
  /-- The regex for the whole of a value. -/
  regex : Regex
  deriving Repr, DecidableEq

/-- A named place in a template. -/
structure Placeholder where
  /-- The name. -/
  name : String
  /-- The condition on values, if any. -/
  constraint : Option Constraint
  deriving Repr, DecidableEq

/-- Whether a character may begin a name. -/
def isNameStart (c : Char) : Bool :=
  c.isAlphanum || c == '_'

/-- Whether a text is a name: an ASCII letter, digit or underscore, and then dots and dashes too. -/
def isName : List Char → Bool
  | [] => false
  | c :: cs => isNameStart c && cs.all fun d => isNameStart d || d == '-' || d == '.'

/-- Splits a text at its first colon. -/
def splitColon (s : List Char) : List Char × Option (List Char) :=
  match s.dropWhile (· ≠ ':') with
  | [] => (s, none)
  | _ :: rest => (s.takeWhile (· ≠ ':'), some rest)

namespace Placeholder

/-- Reads the text between the braces of a placeholder: a name, and after a colon a constraint
that is not empty. Blanks around either are dropped. -/
def ofBraced (pattern : String) (inner : List Char) : Except PatternError Placeholder :=
  let (before, after) := splitColon (trim inner)
  let name := (before.reverse.dropWhile (· = ' ')).reverse
  if !isName name || after == some [] then
    .error (.invalidVariable pattern (String.ofList (Segment.braced inner).source))
  else
    match after with
    | none => .ok ⟨String.ofList name, none⟩
    | some source =>
      match anchored? (trim source) with
      | some regex => .ok ⟨String.ofList name, some ⟨String.ofList (trim source), regex⟩⟩
      | none => .error (.invalidConstraint (String.ofList name))

/-- The placeholder in its written form. -/
def text (p : Placeholder) : String :=
  match p.constraint with
  | none => "\x7b" ++ p.name ++ "\x7d"
  | some c => "\x7b" ++ p.name ++ ":" ++ c.source ++ "\x7d"

/-- Whether a value meets the constraint, if there is one. -/
def accepts (p : Placeholder) (value : String) : Bool :=
  match p.constraint with
  | none => true
  | some c => c.regex.isMatch value.toList

end Placeholder

/-- A piece of a template. -/
inductive Chunk
  /-- Text that stands for itself. -/
  | literal (text : String)
  /-- A place for a value. -/
  | placeholder (p : Placeholder)
  deriving Repr, DecidableEq

namespace Chunk

/-- The chunk of a segment. -/
def ofSegment (pattern : String) : Segment → Except PatternError Chunk
  | .plain text => .ok (.literal (String.ofList text))
  | .braced inner => (Placeholder.ofBraced pattern inner).map placeholder

/-- The chunks of segments in order, or the first error. -/
def ofSegments (pattern : String) : List Segment → Except PatternError (List Chunk)
  | [] => .ok []
  | s :: rest => do
    let c ← ofSegment pattern s
    let cs ← ofSegments pattern rest
    pure (c :: cs)

/-- The length of a text in UTF-8. -/
def byteLength (s : List Char) : Nat :=
  s.foldl (fun n c => n + c.utf8Size) 0

/-- The chunks of a text. A bad placeholder is reported before a brace that is never closed. -/
def ofText (pattern : String) : Except PatternError (List Chunk) := do
  let (segments, tail) := Segment.split pattern.toList
  let chunks ← ofSegments pattern segments
  match tail with
  | none => pure chunks
  | some tail =>
    .error (.unterminated pattern (byteLength pattern.toList - byteLength tail - 1))

end Chunk

end Parley
