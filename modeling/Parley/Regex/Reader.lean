import Parley.Regex.Bracket
import Parley.Regex.Footprint

/-!
# Reading patterns

A pattern is read from left to right, one construct at a time. Groups that are still open are kept
on a list, each with the branches read before it, so the reader is a plain iteration of one step.

## Main definitions

- `Item`, `Branches` — what stands in a branch, and the branches read since the opening parenthesis
- `OpenGroup` — an opening parenthesis that waits for its closing one
- `Reader` — what has been read of a pattern
- `Reader.step` — reads one construct
- `Regex.parse?` — the tree of a pattern, if the text is one

## Design notes

A flag group such as `(?i)` is an item of its branch: it matches nothing, and a repetition may
not follow it. Flags that it sets hold to the end of the enclosing group, over bars.
-/

namespace Parley

open Parley.Text Parley.Unicode

/-- An item of a branch: a tree with the depth of its nesting, or a setting of flags. -/
inductive Item
  | tree (r : Regex) (depth : Nat)
  | flags
  deriving Repr, DecidableEq

namespace Item

/-- The tree that an item matches as. -/
def regex : Item → Regex
  | .tree r _ => r
  | .flags => .empty

/-- How deep the item nests. -/
def depth : Item → Nat
  | .tree _ d => d
  | .flags => 0

end Item

/-- The concatenation of items: one level deeper than they are, unless there is at most one. -/
def concatItems (items : List Item) : Regex × Nat :=
  match items with
  | [] => (.empty, 0)
  | [i] => (i.regex, i.depth)
  | items => (.cats (items.map Item.regex), 1 + items.foldl (fun d i => max d i.depth) 0)

/-- The choice between branches: one level deeper than they are, unless there is only one. -/
def chooseBranches (branches : List (Regex × Nat)) : Regex × Nat :=
  match branches with
  | [] => (.empty, 0)
  | [b] => b
  | bs => (.alts (bs.map Prod.fst), 1 + bs.foldl (fun d b => max d b.2) 0)

/-- The branches read at one level of grouping. -/
structure Branches where
  /-- The complete branches, last first. -/
  done : List (Regex × Nat) := []
  /-- The items of the branch being read, last first. -/
  items : List Item := []

/-- All branches with the one being read, as a choice. -/
def Branches.close (b : Branches) : Regex × Nat :=
  chooseBranches (concatItems b.items.reverse :: b.done).reverse

/-- A group that waits for its closing parenthesis. -/
structure OpenGroup where
  /-- Its index, if it captures. -/
  index : Option Nat
  /-- The flags in force around it. -/
  flags : Flags
  /-- The branches around it. -/
  outer : Branches

/-- What has been read of a pattern. -/
structure Reader where
  /-- The flags in force. -/
  flags : Flags := {}
  /-- The innermost open group's branches. -/
  inner : Branches := {}
  /-- The open groups, innermost first. -/
  groups : List OpenGroup := []
  /-- The number of capturing groups opened so far. -/
  captures : Nat := 0
  /-- The names of the capturing groups opened so far. -/
  names : List (List Char) := []
  /-- The text that is left. -/
  rest : List Char

namespace Reader

/-- Adds an item to the branch being read. -/
def push (p : Reader) (i : Item) (rest : List Char) : Reader :=
  { p with inner := { p.inner with items := i :: p.inner.items }, rest }

/-- Repeats the last item of the branch; there must be one, and it must be a tree. -/
def repeatLast (p : Reader) (greedy : Bool) (lo : Nat) (hi : Option Nat) (rest : List Char) :
    Option Reader :=
  match p.inner.items with
  | .tree r d :: items =>
    let i := Item.tree (.repeated (greedy != p.flags.lazy) lo hi r) (d + 1)
    some { p with inner := { p.inner with items := i :: items }, rest }
  | _ => none

/-- Reads the question mark that makes a repetition lazy. -/
def greedyMark : List Char → Bool × List Char
  | '?' :: rest => (false, rest)
  | rest => (true, rest)

/-- Reads a repetition given by one character, after it. -/
def simpleRepeat (p : Reader) (lo : Nat) (hi : Option Nat) (rest : List Char) : Option Reader :=
  let (greedy, rest) := greedyMark rest
  p.repeatLast greedy lo hi rest

/-- Reads the bounds of a counted repetition after its brace: a number, a number and a comma, or
two numbers around a comma, of which the second is not smaller. -/
def readBounds (f : Flags) (s : List Char) : Option ((Nat × Option Nat) × List Char) := do
  let s ← f.next? ('{' :: s)
  let (lo, s) ← readCount f s
  match s with
  | ',' :: rest =>
    let s ← f.next? (',' :: rest)
    match s with
    | '}' :: rest => pure ((lo, none), rest)
    | s =>
      let (hi, s) ← readCount f s
      match s with
      | '}' :: rest => if lo ≤ hi then pure ((lo, some hi), rest) else none
      | _ => none
  | '}' :: rest => pure ((lo, some lo), rest)
  | _ => none

/-- Reads a counted repetition, after its opening brace. -/
def countedRepeat (p : Reader) (s : List Char) : Option Reader := do
  let ((lo, hi), rest) ← readBounds p.flags s
  let (greedy, rest) := greedyMark (p.flags.skip rest)
  p.repeatLast greedy lo hi rest

/-- Reads flags up to the colon or parenthesis after them. No flag may be given twice, there is at
most one dash, and a flag must follow it. Gives the flags in force and whether none was given. -/
def readFlags : Flags → List Char → List Char → Option ((Flags × Bool) × List Char)
  | _, _, [] => none
  | f, seen, c :: cs =>
    if c = ':' ∨ c = ')' then
      if seen.head? = some '-' then none else some ((f, seen.isEmpty), c :: cs)
    else if seen.contains c then none
    else if c = '-' then readFlags f (c :: seen) cs
    else
      match f.set? c (!seen.contains '-') with
      | some f => readFlags f (c :: seen) cs
      | none => none

/-- Whether a character may stand in the name of a group. -/
def isNameChar (first : Bool) (c : Char) : Bool :=
  if first then c == '_' || alphabeticTable.contains c
  else c == '_' || c == '.' || c == '[' || c == ']' || alphanumericTable.contains c

/-- Reads the name of a group up to its angle bracket. -/
def readName (s : List Char) : Option (List Char × List Char) :=
  let name := s.takeWhile (· ≠ '>')
  match name, s.dropWhile (· ≠ '>') with
  | c :: cs, _ :: rest =>
    if isNameChar true c && cs.all (isNameChar false) then some (name, rest) else none
  | _, _ => none

/-- Opens a group, with the flags in force inside it. -/
def openGroup (p : Reader) (index : Option Nat) (inside : Flags) (rest : List Char) : Reader :=
  { p with
    flags := inside
    inner := {}
    groups := ⟨index, p.flags, p.inner⟩ :: p.groups
    captures := p.captures + (if index.isSome then 1 else 0)
    rest }

/-- Opens a capturing group with a name that no other group has. -/
def openNamed (p : Reader) (s : List Char) : Option Reader := do
  let (name, rest) ← readName s
  if p.names.contains name then none
  else
    let p := p.openGroup (some (p.captures + 1)) p.flags rest
    pure { p with names := name :: p.names }

/-- Reads the start of a group after its parenthesis. Conditions on the text ahead or behind are
not part of the language. -/
def startGroup (p : Reader) (s : List Char) : Option Reader :=
  match p.flags.skip s with
  | '?' :: '=' :: _ | '?' :: '!' :: _ | '?' :: '<' :: '=' :: _ | '?' :: '<' :: '!' :: _ => none
  | '?' :: 'P' :: '<' :: rest => p.openNamed rest
  | '?' :: '<' :: rest => p.openNamed rest
  | '?' :: rest => do
    let ((f, noFlags), rest) ← readFlags p.flags [] rest
    match rest with
    | ')' :: rest => if noFlags then none else pure { p.push .flags rest with flags := f }
    | ':' :: rest => pure (p.openGroup none f rest)
    | _ => none
  | rest => some (p.openGroup (some (p.captures + 1)) p.flags rest)

/-- Closes the innermost group, if one is open. -/
def endGroup (p : Reader) (rest : List Char) : Option Reader :=
  match p.groups with
  | [] => none
  | g :: groups =>
    let (r, d) := p.inner.close
    let r := match g.index with
      | some i => Regex.group i r
      | none => r
    some ({ p with flags := g.flags, inner := g.outer, groups }.push (.tree r (d + 1)) rest)

/-- Begins the next branch. -/
def nextBranch (p : Reader) (rest : List Char) : Reader :=
  { p with inner := ⟨concatItems p.inner.items.reverse :: p.inner.done, []⟩, rest }

/-- The tree of a literal character. Outside of the classes of all scripts a character may not be
given as a byte beyond ASCII. -/
def literal? (f : Flags) (c : Char) (byte : Bool) : Option Regex :=
  if f.unicode then
    some (.chars (if f.caseless ∧ caseVariants c ≠ [c] then .anyCase (.single c) else .single c))
  else if byte ∧ c.toNat > 0x7F then none
  else some (.chars (if f.caseless ∧ c.isAlpha then .anyAsciiCase (.single c) else .single c))

/-- The tree of a dot: all characters, or all that do not end a line. -/
def dot? (f : Flags) : Option Regex :=
  if !f.unicode then none
  else if f.dotAll then some (.chars (.compl .none))
  else if f.carriage then some (.chars (.compl (.union (.single '\r') (.single '\n'))))
  else some (.chars (.compl (.single '\n')))

/-- The assertion of a caret. -/
def caret (f : Flags) : Assertion :=
  if f.multiline then (if f.carriage then .anyLineStart else .lineStart) else .textStart

/-- The assertion of a dollar sign. -/
def dollar (f : Flags) : Assertion :=
  if f.multiline then (if f.carriage then .anyLineEnd else .lineEnd) else .textEnd

/-- Reads a backslash sequence, after the backslash. -/
def escape (p : Reader) (s : List Char) : Option Reader := do
  let (e, rest) ← readEscape p.flags s
  match e with
  | .literal c byte =>
    let r ← literal? p.flags c byte
    pure (p.push (.tree r 0) rest)
  | .chars k => pure (p.push (.tree (.chars k) 0) rest)
  | .look a => pure (p.push (.tree (.look a) 0) rest)

/-- Reads one construct, which starts with the character `c`. -/
def step (p : Reader) (c : Char) (rest : List Char) : Option Reader :=
  match c with
  | '(' => p.startGroup rest
  | ')' => p.endGroup rest
  | '|' => some (p.nextBranch rest)
  | '[' => (readBracket p.flags (c :: rest)).map fun (k, rest) =>
      p.push (.tree (.chars k.chars) k.depth) rest
  | '?' => p.simpleRepeat 0 (some 1) rest
  | '*' => p.simpleRepeat 0 none rest
  | '+' => p.simpleRepeat 1 none rest
  | '{' => p.countedRepeat rest
  | '\\' => p.escape rest
  | '.' => (dot? p.flags).map fun r => p.push (.tree r 0) rest
  | '^' => some (p.push (.tree (.look (caret p.flags)) 0) rest)
  | '$' => some (p.push (.tree (.look (dollar p.flags)) 0) rest)
  | c => (literal? p.flags c false).map fun r => p.push (.tree r 0) rest

/-- Reads constructs until the text ends. -/
def run : Nat → Reader → Option Reader
  | 0, p => if (p.flags.skip p.rest).isEmpty then some p else none
  | fuel + 1, p =>
    match p.flags.skip p.rest with
    | [] => some p
    | c :: rest =>
      match p.step c rest with
      | some p => run fuel p
      | none => none

end Reader

namespace Regex

/-- How deep a pattern may nest. -/
def depthLimit : Nat :=
  250

/-- The tree of a pattern. All groups must be closed, and neither the depth of nesting nor the
memory that its automata take may exceed its limit. Every construct consumes a character, so the
length of the text bounds their number. -/
def parse? (s : List Char) : Option Regex := do
  let p ← Reader.run s.length { rest := s }
  let (r, d) := p.inner.close
  if p.groups.isEmpty ∧ d ≤ depthLimit ∧ r.footprint ≤ footprintLimit then pure r else none

end Regex

end Parley
