/-!
# Tables of code points

A property of characters is given as a table of code point ranges. The ranges are ascending and
disjoint, so a look-up may stop at the first range that begins beyond the character.

## Main definitions

- `RangeTable` — ascending, disjoint ranges of code points
- `RangeTable.contains` — whether a character is in the table
- `RangeTable.ofText` — reads a table from its written form, one word for each range
- `RangeTable.union`, `RangeTable.compl`, `RangeTable.inter` — set operations
- `NamedText` — a written table under all of its names
-/

namespace Parley.Unicode

/-- A set of code points, as ascending and disjoint ranges with both ends included. -/
structure RangeTable where
  /-- The ranges, lowest first. -/
  ranges : List (Nat × Nat)
  deriving Repr, DecidableEq

namespace RangeTable

/-- Whether `n` lies in one of the ranges; ranges that begin beyond `n` are not looked at. -/
def containsCode : List (Nat × Nat) → Nat → Bool
  | [], _ => false
  | (lo, hi) :: rest, n =>
    if n < lo then false else if n ≤ hi then true else containsCode rest n

/-- Whether the character is in the table. -/
def contains (t : RangeTable) (c : Char) : Bool :=
  containsCode t.ranges c.toNat

/-- The value of a hexadecimal digit. -/
def hexDigit? (c : Char) : Option Nat :=
  if '0' ≤ c ∧ c ≤ '9' then some (c.toNat - '0'.toNat)
  else if 'A' ≤ c ∧ c ≤ 'F' then some (c.toNat - 'A'.toNat + 10)
  else none

/-- A word of a written table that is still being read: the number before the dash, if the dash
has been passed, and the digits after it. -/
structure Partial where
  /-- The lower end, once a dash has been read. -/
  low : Option Nat := none
  /-- The number being read. -/
  number : Option Nat := none

/-- Closes the word being read and adds its range. -/
def Partial.close (p : Partial) (done : List (Nat × Nat)) : List (Nat × Nat) :=
  match p.number with
  | some n => (p.low.getD n, n) :: done
  | none => done

/-- Reads the words of a written table; `done` holds the ranges already read, last first. -/
def scan : List Char → Partial → List (Nat × Nat) → List (Nat × Nat)
  | [], p, done => (p.close done).reverse
  | c :: cs, p, done =>
    match hexDigit? c with
    | some d => scan cs { p with number := some (p.number.getD 0 * 16 + d) } done
    | none =>
      if c = '-' then scan cs ⟨p.number, none⟩ done
      else scan cs {} (p.close done)

/-- Reads a table from words such as `41-5A` or `AA`, hexadecimal and separated by blanks. -/
def ofText (s : String) : RangeTable :=
  ⟨scan s.toList {} []⟩

/-- The greatest code point. -/
def maxCode : Nat :=
  0x10FFFF

/-- The ranges without the code points between `0xD800` and `0xDFFF`, which are no characters. A
range that goes over all of them is kept as it is. -/
def dropSurrogates (rs : List (Nat × Nat)) : List (Nat × Nat) :=
  rs.filterMap fun (lo, hi) =>
    let lo := if 0xD800 ≤ lo ∧ lo ≤ 0xDFFF then 0xE000 else lo
    let hi := if 0xD800 ≤ hi ∧ hi ≤ 0xDFFF then 0xD7FF else hi
    if lo ≤ hi then some (lo, hi) else none

/-- Joins ranges that overlap or touch, from the range between `lo` and `hi` on; the others begin
no earlier, in ascending order. -/
def joinFrom (lo hi : Nat) : List (Nat × Nat) → List (Nat × Nat)
  | [] => [(lo, hi)]
  | (a, b) :: rest =>
    if a ≤ hi + 1 then joinFrom lo (max hi b) rest else (lo, hi) :: joinFrom a b rest

/-- The table of the characters in any of the ranges. -/
def ofRanges (rs : List (Nat × Nat)) : RangeTable :=
  match (dropSurrogates rs).mergeSort fun r s => r.1 ≤ s.1 with
  | [] => ⟨[]⟩
  | (lo, hi) :: rest => ⟨joinFrom lo hi rest⟩

/-- The characters that are in one of the tables. -/
def unions (ts : List RangeTable) : RangeTable :=
  ofRanges (ts.flatMap ranges)

/-- The characters of either table. -/
def union (s t : RangeTable) : RangeTable :=
  ofRanges (s.ranges ++ t.ranges)

/-- The gaps between the ranges, from the code point `next` on. -/
def gapsFrom (next : Nat) : List (Nat × Nat) → List (Nat × Nat)
  | [] => if next ≤ maxCode then [(next, maxCode)] else []
  | (lo, hi) :: rest =>
    if next < lo then (next, lo - 1) :: gapsFrom (hi + 1) rest else gapsFrom (hi + 1) rest

/-- The characters that are not in the table. -/
def compl (t : RangeTable) : RangeTable :=
  ⟨dropSurrogates (gapsFrom 0 t.ranges)⟩

/-- The characters of both tables. -/
def inter (s t : RangeTable) : RangeTable :=
  (s.compl.union t.compl).compl

end RangeTable

/-- The written table of a property, under all names of the property. -/
structure NamedText where
  /-- The names, in loose matching form. -/
  names : List String
  /-- The ranges, as `RangeTable.ofText` reads them. -/
  text : String

end Parley.Unicode
