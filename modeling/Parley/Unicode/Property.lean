import Parley.Unicode.Age
import Parley.Unicode.Break
import Parley.Unicode.Category
import Parley.Unicode.Script
import Parley.Unicode.ScriptExtension
import Parley.Unicode.Trait
import Std.Data.HashMap

/-!
# Named properties

A pattern may name a class of characters by a property: a binary property such as `Alphabetic`, a
general category such as `Lu`, a script such as `Greek`, an age, or a class of breaks. Names are
matched loosely.

## Main definitions

- `Property` — a property that exists, so that membership is total
- `Property.named?` — the property of a single name: a binary property, a category or a script
- `Property.valued?` — the property written as a name and a value, as in `sc=Greek`
- `Property.contains` — the characters that have the property

## Design notes

All tables are kept under one key each: the letter of their family, a colon, and the first of the
property's names. A family decides which tables a name may denote, so `sc` alone is the currency
category while `sc=` selects a script.
-/

namespace Parley.Unicode

/-- The families of properties. -/
inductive Family
  | trait
  | category
  | script
  | scriptExtension
  | age
  | graphemeBreak
  | wordBreak
  | sentenceBreak
  deriving Repr, DecidableEq, Hashable

/-- A property, by its family and the first of its names. -/
structure Property where
  /-- The family that the name belongs to. -/
  family : Family
  /-- The name, in loose matching form. -/
  name : String
  deriving Repr, DecidableEq, Hashable

namespace Family

/-- The names of a family's properties, each with the written tables that make it up. -/
def texts : Family → List NamedText
  | .trait => traitTexts
  | .category => categoryTexts
  | .script => scriptTexts
  | .scriptExtension => scriptExtensionTexts
  | .age => ageTexts
  | .graphemeBreak => graphemeBreakTexts
  | .wordBreak => wordBreakTexts
  | .sentenceBreak => sentenceBreakTexts

/-- The letter that stands before the names of a family in keys. -/
def letter : Family → String
  | .trait => "t"
  | .category => "c"
  | .script => "s"
  | .scriptExtension => "x"
  | .age => "a"
  | .graphemeBreak => "g"
  | .wordBreak => "w"
  | .sentenceBreak => "b"

/-- The families that a value can be asked of. -/
def valued : List Family :=
  [.category, .script, .scriptExtension, .age, .graphemeBreak, .wordBreak, .sentenceBreak]

/-- The names of a family in patterns, in loose matching form. -/
def names : Family → List String
  | .trait => []
  | .category => ["gc", "generalcategory"]
  | .script => ["sc", "script"]
  | .scriptExtension => ["scx", "scriptextensions"]
  | .age => ["age"]
  | .graphemeBreak => ["gcb", "graphemeclusterbreak"]
  | .wordBreak => ["wb", "wordbreak"]
  | .sentenceBreak => ["sb", "sentencebreak"]

end Family

/-- The categories made up of others: their names and the two-letter categories in them. -/
def categoryGroups : List (List String × List String) := [
  (["c", "other"], ["cc", "cf", "cn", "co"]),
  (["l", "letter"], ["ll", "lm", "lo", "lt", "lu"]),
  (["lc", "casedletter"], ["ll", "lt", "lu"]),
  (["m", "mark", "combiningmark"], ["mc", "me", "mn"]),
  (["n", "number"], ["nd", "nl", "no"]),
  (["p", "punctuation", "punct"], ["pc", "pd", "pe", "pf", "pi", "po", "ps"]),
  (["s", "symbol"], ["sc", "sk", "sm", "so"]),
  (["z", "separator"], ["zl", "zp", "zs"]),
  (["assigned"],
    ["cc", "cf", "co", "ll", "lm", "lo", "lt", "lu", "mc", "me", "mn", "nd", "nl", "no", "pc",
      "pd", "pe", "pf", "pi", "po", "ps", "sc", "sk", "sm", "so", "zl", "zp", "zs"])]

/-- The key of a name within a family. -/
def tableKey (f : Family) (name : String) : String :=
  f.letter ++ ":" ++ name

/-- Puts in tables under the names of each. -/
def insertTables (f : Family) (tables : Std.HashMap String RangeTable) :
    List (List String × RangeTable) → Std.HashMap String RangeTable
  | [] => tables
  | (names, table) :: rest =>
    insertTables f (names.foldl (fun tables n => tables.insert (tableKey f n) table) tables) rest

/-- The tables of a family as they are written. -/
def Family.written (f : Family) : List (List String × RangeTable) :=
  f.texts.map fun t => (t.names, RangeTable.ofText t.text)

/-- Tables to each of which those before it are added. -/
def cumulative (before : RangeTable) :
    List (List String × RangeTable) → List (List String × RangeTable)
  | [] => []
  | (names, table) :: rest =>
    let all := RangeTable.unions [before, table]
    (names, all) :: cumulative all rest

/-- The tables of a family. A code point of one age is also of all later ones. -/
def Family.tables : Family → List (List String × RangeTable)
  | .age => cumulative ⟨[]⟩ (Family.written .age)
  | f => f.written

/-- The tables of the written properties of all families, under every name. -/
def writtenTables : Std.HashMap String RangeTable :=
  (Family.trait :: Family.valued).foldl (fun tables f => insertTables f tables f.tables) ∅

/-- All tables: the written ones, the categories made up of others, and the whole and the ASCII
range. -/
def propertyTables : Std.HashMap String RangeTable :=
  let grouped := insertTables .category writtenTables (categoryGroups.map fun (names, parts) =>
    (names, RangeTable.unions (parts.filterMap fun n => writtenTables[tableKey .category n]?)))
  (grouped.insert (tableKey .category "any") ⟨[(0, 0x10FFFF)]⟩).insert
    (tableKey .category "ascii") ⟨[(0, 0x7F)]⟩

/-- The loose matching form of a name: lower case, without blanks, underscores, dashes and
characters outside ASCII, and without a leading `is`. -/
def looseName (s : List Char) : String :=
  let body := match s with
    | i :: t :: rest => if (i = 'i' ∨ i = 'I') ∧ (t = 's' ∨ t = 'S') then rest else s
    | _ => s
  let kept := (body.filter fun c => c ≠ ' ' ∧ c ≠ '_' ∧ c ≠ '-' ∧ c.toNat ≤ 0x7F).map Char.toLower
  if kept = ['c'] ∧ body.length < s.length then "isc" else String.ofList kept

namespace Property

/-- The property of a family under a loose name, if there is one. -/
def find? (f : Family) (name : String) : Option Property :=
  if propertyTables.contains (tableKey f name) then some ⟨f, name⟩ else none

/-- The property that a name alone denotes. Three short names are categories although binary or
other properties share them. -/
def named? (s : List Char) : Option Property :=
  let name := looseName s
  let asTrait := if name = "cf" ∨ name = "sc" ∨ name = "lc" then none else find? .trait name
  asTrait <|> find? .category name <|> find? .script name

/-- The property that a name and a value denote. -/
def valued? (property value : List Char) : Option Property :=
  let name := looseName property
  (Family.valued.find? fun f => f.names.contains name).bind fun f => find? f (looseName value)

/-- Whether a character has the property. -/
def contains (p : Property) (c : Char) : Bool :=
  match propertyTables[tableKey p.family p.name]? with
  | some table => table.contains c
  | none => false

end Property

end Parley.Unicode
