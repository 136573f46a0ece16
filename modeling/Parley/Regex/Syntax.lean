import Parley.Text.Blank
import Parley.Unicode.CaseFold
import Parley.Unicode.Classes
import Parley.Unicode.Property

/-!
# Regular expressions as trees

A pattern denotes a tree over character classes, assertions, groups and counted repetitions.
Capturing groups carry their index; group zero is the whole match and is not in the tree.

## Main definitions

- `CharClass` — a set of characters, built from ranges and properties by set operations
- `CharClass.contains` — membership
- `Assertion` — a condition on the characters around a position
- `Assertion.holds` — when the condition is met
- `Regex` — the tree
- `Regex.nullable` — whether a tree can match without consuming a character
- `Regex.lastGroup` — the greatest index of a capturing group

## Design notes

Classes stay symbolic: no operation computes ranges, and membership of a character is decided by
recursion on the class. Case-insensitive matching is a set operation too, so that the order of
folding and negation in a bracketed class is visible in its tree.
-/

namespace Parley

open Parley.Unicode

/-- A set of characters. -/
inductive CharClass
  /-- No character. -/
  | none
  /-- The characters from `lo` to `hi`, both included. -/
  | range (lo hi : Char)
  /-- White space. -/
  | blank
  /-- Decimal digits of any script. -/
  | digit
  /-- Word characters of any script. -/
  | word
  /-- The characters with a property. -/
  | property (p : Property)
  /-- The characters of either class. -/
  | union (a b : CharClass)
  /-- The characters of both classes. -/
  | inter (a b : CharClass)
  /-- The characters of the first class that are not in the second. -/
  | diff (a b : CharClass)
  /-- The characters in exactly one of the classes. -/
  | symmDiff (a b : CharClass)
  /-- The characters that are not in the class. -/
  | compl (a : CharClass)
  /-- The characters that differ from one in the class at most in case. -/
  | anyCase (a : CharClass)
  /-- The characters that differ from one in the class at most in the case of an ASCII letter. -/
  | anyAsciiCase (a : CharClass)
  deriving Repr, DecidableEq, Hashable

namespace CharClass

/-- The class of a single character. -/
def single (c : Char) : CharClass :=
  range c c

/-- The class of the characters in one of the ranges. -/
def ofRanges (rs : List (Char × Char)) : CharClass :=
  match rs.map fun r => range r.1 r.2 with
  | [] => none
  | a :: rest => rest.foldl union a

/-- The other case of an ASCII letter; other characters are kept. -/
def swapAsciiCase (c : Char) : Char :=
  if c.isUpper then c.toLower else if c.isLower then c.toUpper else c

/-- Whether a character is in the class. -/
def contains : CharClass → Char → Bool
  | none, _ => false
  | range lo hi, c => lo ≤ c && c ≤ hi
  | blank, c => Text.isBlank c
  | digit, c => digitTable.contains c
  | word, c => wordTable.contains c
  | property p, c => p.contains c
  | union a b, c => a.contains c || b.contains c
  | inter a b, c => a.contains c && b.contains c
  | diff a b, c => a.contains c && !b.contains c
  | symmDiff a b, c => a.contains c != b.contains c
  | compl a, c => !a.contains c
  | anyCase a, c => (caseVariants c).any fun d => a.contains d
  | anyAsciiCase a, c => a.contains c || a.contains (swapAsciiCase c)

end CharClass

/-- Which characters make up words: those of all scripts or those of ASCII. -/
inductive WordKind
  | unicode
  | ascii
  deriving Repr, DecidableEq, Hashable

/-- Whether a neighbour of a position is a word character; the ends of the text are not. -/
def WordKind.isWord (k : WordKind) (c : Option Char) : Bool :=
  match k, c with
  | _, none => false
  | .unicode, some c => wordTable.contains c
  | .ascii, some c => c.isAlphanum || c == '_'

/-- A condition on the characters before and after a position. -/
inductive Assertion
  | textStart
  | textEnd
  | lineStart
  | lineEnd
  /-- The start of a line, where a carriage return, a line feed or both end a line. -/
  | anyLineStart
  /-- The end of a line, where a carriage return, a line feed or both end a line. -/
  | anyLineEnd
  | wordBoundary (k : WordKind)
  | noWordBoundary (k : WordKind)
  | wordStart (k : WordKind)
  | wordEnd (k : WordKind)
  /-- No word character before the position. -/
  | wordStartHalf (k : WordKind)
  /-- No word character after the position. -/
  | wordEndHalf (k : WordKind)
  deriving Repr, DecidableEq, Hashable

/-- Whether the assertion holds between the two characters; `none` is the end of the text. -/
def Assertion.holds (a : Assertion) (before after : Option Char) : Bool :=
  match a with
  | .textStart => before.isNone
  | .textEnd => after.isNone
  | .lineStart => before.isNone || before == some '\n'
  | .lineEnd => after.isNone || after == some '\n'
  | .anyLineStart =>
    before.isNone || before == some '\n' || (before == some '\r' && after != some '\n')
  | .anyLineEnd =>
    after.isNone || after == some '\r' || (after == some '\n' && before != some '\r')
  | .wordBoundary k => k.isWord before != k.isWord after
  | .noWordBoundary k => k.isWord before == k.isWord after
  | .wordStart k => !k.isWord before && k.isWord after
  | .wordEnd k => k.isWord before && !k.isWord after
  | .wordStartHalf k => !k.isWord before
  | .wordEndHalf k => !k.isWord after

/-- A regular expression. -/
inductive Regex
  /-- Matches the empty text. -/
  | empty
  /-- Matches one character of the class. -/
  | chars (k : CharClass)
  /-- Matches the empty text where the assertion holds. -/
  | look (a : Assertion)
  /-- Matches `r` and then `s`. -/
  | cat (r s : Regex)
  /-- Matches `r`, or else `s`. -/
  | alt (r s : Regex)
  /-- Matches `r` and records where, under the index of the group. -/
  | group (index : Nat) (r : Regex)
  /-- Matches `r` at least `lo` and at most `hi` times: as often as possible if greedy, else as
  rarely as possible. -/
  | rep (greedy : Bool) (lo : Nat) (hi : Option Nat) (r : Regex)
  deriving Repr, DecidableEq, Hashable

namespace Regex

/-- The regex that matches one given character. -/
def char (c : Char) : Regex :=
  chars (.single c)

/-- Whether the tree can match without consuming a character. -/
def nullable : Regex → Bool
  | empty | look _ => true
  | chars _ => false
  | cat r s => r.nullable && s.nullable
  | alt r s => r.nullable || s.nullable
  | group _ r => r.nullable
  | rep _ lo _ r => lo == 0 || r.nullable

/-- Whether the tree holds no character class, so that it consumes nothing. -/
def consumesNothing : Regex → Bool
  | empty | look _ => true
  | chars _ => false
  | cat r s | alt r s => r.consumesNothing && s.consumesNothing
  | group _ r => r.consumesNothing
  | rep _ _ hi r => hi == some 0 || r.consumesNothing

/-- The greatest index of a capturing group in the tree, zero if there is none. -/
def lastGroup : Regex → Nat
  | empty | chars _ | look _ => 0
  | cat r s | alt r s => max r.lastGroup s.lastGroup
  | group i r => max i r.lastGroup
  | rep _ _ _ r => r.lastGroup

/-- A repetition in simplest form: none at all is the empty text, groups inside included; once is
the tree itself; and a tree that consumes nothing is repeated at most once. -/
def repeated (greedy : Bool) (lo : Nat) (hi : Option Nat) (r : Regex) : Regex :=
  let lo := if r.consumesNothing then min lo 1 else lo
  let hi := if r.consumesNothing then some (min (hi.getD 1) 1) else hi
  if hi = some 0 then empty else if lo = 1 ∧ hi = some 1 then r else rep greedy lo hi r

/-- The concatenation of the trees in order. -/
def cats : List Regex → Regex
  | [] => empty
  | [r] => r
  | r :: rest => cat r (cats rest)

/-- The choice between the trees, earlier ones preferred. -/
def alts : List Regex → Regex
  | [] => empty
  | [r] => r
  | r :: rest => alt r (alts rest)

end Regex

end Parley
