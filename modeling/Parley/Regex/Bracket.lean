import Parley.Regex.Escape

/-!
# Bracketed classes

The text between brackets is a union of items: characters, ranges, escapes, named ASCII classes
and nested brackets. Two unions may be joined by the set operations `&&`, `--` and `~~`, which
have one precedence and group to the left.

## Main definitions

- `SetOp` — the set operations
- `Bracket` — what has been read of a bracketed class: the innermost union and all that is open
- `Bracket.step` — reads one item, operator or bracket
- `readBracket` — reads a whole class, with its depth of nesting

## Design notes

The reader keeps the open brackets on a list and not on a call stack, so that it is a plain
iteration of one step and each step says all that it depends on.
-/

namespace Parley

open Parley.Text

/-- A set operation between two unions. -/
inductive SetOp
  | inter
  | diff
  | symmDiff
  deriving Repr, DecidableEq

/-- A class with the depth of its nesting. -/
structure Nested where
  /-- The class. -/
  chars : CharClass
  /-- How deep it nests; a plain item has depth zero. -/
  depth : Nat

/-- The union of items in order: nothing, one item as it is, or one level more than the items. -/
def Nested.union (items : List Nested) : Nested :=
  match items with
  | [] => ⟨.none, 0⟩
  | [k] => k
  | k :: rest =>
    ⟨rest.foldl (fun u i => .union u i.chars) k.chars,
      1 + (k :: rest).foldl (fun d i => max d i.depth) 0⟩

/-- An enclosing construct that waits for the innermost union to be complete. -/
inductive OpenBracket
  /-- A bracket, whether it is complemented, and the items read before it, last first. -/
  | bracket (negated : Bool) (outer : List Nested)
  /-- An operator and its left side. -/
  | operator (op : SetOp) (left : Nested)

/-- What has been read of a bracketed class. -/
structure Bracket where
  /-- The items of the innermost union, last first. -/
  items : List Nested
  /-- The enclosing constructs, innermost first. -/
  outer : List OpenBracket
  /-- The text that is left. -/
  rest : List Char

/-- The named classes of ASCII. -/
def asciiClass? (name : String) : Option CharClass :=
  match name with
  | "alnum" => some (.ofRanges [('0', '9'), ('A', 'Z'), ('a', 'z')])
  | "alpha" => some (.ofRanges [('A', 'Z'), ('a', 'z')])
  | "ascii" => some (.ofRanges [('\x00', '\x7f')])
  | "blank" => some (.ofRanges [('\t', '\t'), (' ', ' ')])
  | "cntrl" => some (.ofRanges [('\x00', '\x1f'), ('\x7f', '\x7f')])
  | "digit" => some (.ofRanges [('0', '9')])
  | "graph" => some (.ofRanges [('!', '~')])
  | "lower" => some (.ofRanges [('a', 'z')])
  | "print" => some (.ofRanges [(' ', '~')])
  | "punct" => some (.ofRanges [('!', '/'), (':', '@'), ('[', '\x60'), ('\x7b', '~')])
  | "space" => some asciiBlanks
  | "upper" => some (.ofRanges [('A', 'Z')])
  | "word" => some asciiWord
  | "xdigit" => some (.ofRanges [('0', '9'), ('A', 'F'), ('a', 'f')])
  | _ => none

/-- A named class of ASCII, such as `[:alpha:]`, at the start of the text. Text that is not one
is read otherwise, so this reader has an outcome apart for it. -/
def readAsciiClass? (s : List Char) : Option ((Bool × CharClass) × List Char) :=
  match s with
  | '[' :: ':' :: body =>
    let (negated, body) := match body with
      | '^' :: body => (true, body)
      | body => (false, body)
    let name := body.takeWhile (· ≠ ':')
    match body.dropWhile (· ≠ ':') with
    | ':' :: ']' :: rest =>
      (asciiClass? (String.ofList name)).map fun k => ((negated, k), rest)
    | _ => none
  | _ => none

/-- The character that a range may end at: literal, and within ASCII where classes are. -/
def Escape.literal? (f : Flags) : Escape → Option Char
  | .literal c _ => if f.unicode ∨ c.toNat ≤ 0x7F then some c else none
  | _ => none

/-- The class of a single item. -/
def Escape.item? (f : Flags) : Escape → Option CharClass
  | .chars k => some k
  | e => (e.literal? f).map .single

/-- A character, plain or after a backslash. -/
def readClassChar (f : Flags) : List Char → Option (Escape × List Char)
  | [] => none
  | '\\' :: rest => readEscape f rest
  | c :: rest => some (.literal c false, rest)

/-- The character after a dash, over what the mode skips; a number sign is skipped once. -/
def peekPast (f : Flags) (s : List Char) : Option Char :=
  if f.verbose then
    match s.dropWhile isBlank with
    | '#' :: rest => (rest.dropWhile isBlank).head? <|> s.head?
    | c :: _ => some c
    | [] => s.head?
  else s.head?

/-- One item: a character or class, or a range if a dash follows that is neither the last
character of the class nor the start of an operator. -/
def readClassItem (f : Flags) (s : List Char) : Option (CharClass × List Char) := do
  let (first, rest) ← readClassChar f s
  match f.skip rest with
  | [] => none
  | '-' :: after =>
    let ahead := peekPast f after
    if ahead = some ']' ∨ ahead = some '-' then
      let k ← first.item? f
      pure (k, '-' :: after)
    else
      let after ← f.next? ('-' :: after)
      let (last, rest) ← readClassChar f after
      let lo ← first.literal? f
      let hi ← last.literal? f
      if lo ≤ hi then pure (.range lo hi, rest) else none
  | rest =>
    let k ← first.item? f
    pure (k, rest)

/-- Dashes at the start of a class stand for themselves. -/
def readLeadingDashes (f : Flags) : Nat → List Nested → List Char →
    Option (List Nested × List Char)
  | fuel + 1, items, '-' :: rest => do
    let rest ← f.next? ('-' :: rest)
    readLeadingDashes f fuel (⟨.single '-', 0⟩ :: items) rest
  | _, items, s => some (items, s)

/-- The start of a bracketed class, at its bracket: whether it is complemented, and the leading
dashes or closing bracket that stand for themselves. -/
def readOpening (f : Flags) (s : List Char) : Option (Bool × List Nested × List Char) := do
  let s ← f.next? s
  let (negated, s) ← match s with
    | '^' :: rest => (f.next? ('^' :: rest)).map fun s => (true, s)
    | s => some (false, s)
  let (items, s) ← readLeadingDashes f s.length [] s
  match items, s with
  | [], ']' :: rest => do
    let s ← f.next? (']' :: rest)
    pure (negated, [⟨.single ']', 0⟩], s)
  | _, _ => pure (negated, items, s)

namespace SetOp

/-- The operation on two classes, each folded first if letters match in either case. -/
def apply (op : SetOp) (f : Flags) (left right : Nested) : Option Nested := do
  let a ← f.finish false left.chars
  let b ← f.finish false right.chars
  let depth := 1 + max left.depth right.depth
  match op with
  | .inter => pure ⟨.inter a b, depth⟩
  | .diff => pure ⟨.diff a b, depth⟩
  | .symmDiff => pure ⟨.symmDiff a b, depth⟩

end SetOp

namespace Bracket

/-- The innermost union as the right side of the operator that waits for it, if one does. -/
def operand (f : Flags) (b : Bracket) : Option (Nested × List OpenBracket) :=
  let union := Nested.union b.items.reverse
  match b.outer with
  | .operator op left :: outer => (op.apply f left union).map fun k => (k, outer)
  | outer => some (union, outer)

/-- Reads one item, operator or bracket: either there is more to read, or the outermost bracket
was closed. -/
def step (f : Flags) (b : Bracket) : Option (Bracket ⊕ Nested × List Char) :=
  match f.skip b.rest with
  | [] => none
  | '[' :: rest =>
    match readAsciiClass? ('[' :: rest) with
    | some ((negated, k), rest) => do
      let k ← f.finish negated k
      pure (.inl { b with items := ⟨k, 0⟩ :: b.items, rest })
    | none => do
      let (negated, items, rest) ← readOpening f ('[' :: rest)
      pure (.inl ⟨items, .bracket negated b.items :: b.outer, rest⟩)
  | ']' :: rest => do
    let (k, outer) ← operand f b
    match outer with
    | .bracket negated items :: outer =>
      let chars ← f.finish negated k.chars
      let closed : Nested := ⟨chars, k.depth + 1⟩
      match outer with
      | [] => pure (.inr (closed, rest))
      | outer => pure (.inl ⟨closed :: items, outer, rest⟩)
    | _ => none
  | '&' :: '&' :: rest => do
    let (k, outer) ← operand f b
    pure (.inl ⟨[], .operator .inter k :: outer, rest⟩)
  | '-' :: '-' :: rest => do
    let (k, outer) ← operand f b
    pure (.inl ⟨[], .operator .diff k :: outer, rest⟩)
  | '~' :: '~' :: rest => do
    let (k, outer) ← operand f b
    pure (.inl ⟨[], .operator .symmDiff k :: outer, rest⟩)
  | rest => do
    let (k, rest) ← readClassItem f rest
    pure (.inl { b with items := ⟨k, 0⟩ :: b.items, rest })

/-- Takes steps until the outermost bracket is closed. -/
def run (f : Flags) : Nat → Bracket → Option (Nested × List Char)
  | 0, _ => none
  | fuel + 1, b =>
    match step f b with
    | none => none
    | some (.inr done) => some done
    | some (.inl b) => run f fuel b

end Bracket

/-- Reads a class at its opening bracket. Every step consumes a character, so the length of the
text bounds their number. -/
def readBracket (f : Flags) (s : List Char) : Option (Nested × List Char) := do
  let (negated, items, rest) ← readOpening f s
  Bracket.run f s.length ⟨items, [.bracket negated []], rest⟩

end Parley
