import Parley.Regex.Syntax
import Parley.Text.ByteRange
import Parley.Text.Utf8

/-!
# The memory that a pattern takes

A pattern stands for two automata over bytes: one reads a text forwards and records groups, the
other reads it backwards. A pattern whose automata would be too large is refused, so the number
of their states is worked out from the tree, without building them.

## Main definitions

- `CharClass.table` — the code points of a class
- `Plan` — a tree in the form that its automata are built from
- `Plan.ofRegex` — the plan of a tree
- `Plan.extent` — the memory that the states of a plan take
- `Regex.footprint` — the memory of the larger automaton

## Design notes

A plan joins neighbouring characters to one literal, and a choice between single characters to one
class; where all branches of a choice begin alike, the common part stands before the choice. A
state takes `stateCost` bytes. A state that leads on by several ranges of bytes takes `edgeCost`
more for each, and one that leads on by several ways without a byte takes `branchCost` for each.
-/

namespace Parley

open Parley.Text Parley.Unicode

-- ════════════════════════════════════════════════════════════════════════
-- Classes as tables
-- ════════════════════════════════════════════════════════════════════════

/-- The table of a property; a name without a table has no characters. -/
def Unicode.Property.table (p : Property) : RangeTable :=
  propertyTables[tableKey p.family p.name]?.getD ⟨[]⟩

namespace CharClass

/-- The ASCII letters among the characters of a table, each in its other case. -/
def swappedLetters (t : RangeTable) : List (Nat × Nat) :=
  (t.ranges.filterMap (overlap? (0x41, 0x5A))).map (fun (lo, hi) => (lo + 0x20, hi + 0x20)) ++
    (t.ranges.filterMap (overlap? (0x61, 0x7A))).map fun (lo, hi) => (lo - 0x20, hi - 0x20)

/-- The code points of a class. -/
def table : CharClass → RangeTable
  | none => ⟨[]⟩
  | range lo hi => .ofRanges [(lo.toNat, hi.toNat)]
  | blank => Property.table ⟨.trait, "whitespace"⟩
  | digit => digitTable
  | word => wordTable
  | property p => p.table
  | union a b => a.table.union b.table
  | inter a b => a.table.inter b.table
  | diff a b => a.table.inter b.table.compl
  | symmDiff a b => (a.table.union b.table).inter (a.table.inter b.table).compl
  | compl a => a.table.compl
  | anyCase a => a.table.caseClosure
  | anyAsciiCase a => .ofRanges (a.table.ranges ++ swappedLetters a.table)

end CharClass

-- ════════════════════════════════════════════════════════════════════════
-- Plans
-- ════════════════════════════════════════════════════════════════════════

/-- A tree in the form that its automata are built from. -/
inductive Plan
  | empty
  /-- Some characters in a row, at least one. -/
  | literal (s : List Char)
  /-- One character in the ranges. -/
  | chars (ranges : List (Nat × Nat))
  | look (a : Assertion)
  | rep (greedy : Bool) (lo : Nat) (hi : Option Nat) (p : Plan)
  | group (index : Nat) (p : Plan)
  | cat (p q : Plan)
  | alt (p q : Plan)
  deriving DecidableEq

namespace Plan

/-- The plan of one character in a table; a single one is a literal. -/
def ofTable (t : RangeTable) : Plan :=
  match t.ranges with
  | [(lo, hi)] => if lo = hi then literal [Char.ofNat lo] else chars [(lo, hi)]
  | rs => chars rs

/-- The plans that a plan matches one after the other. -/
def items : Plan → List Plan
  | empty => []
  | cat p q => p.items ++ q.items
  | p => [p]

/-- Joins neighbouring literals. -/
def joinLiterals : List Plan → List Plan
  | [] => []
  | literal s :: rest =>
    match joinLiterals rest with
    | literal t :: more => literal (s ++ t) :: more
    | more => literal s :: more
  | p :: rest => p :: joinLiterals rest

/-- The plans in a row, without regard to their form. -/
def inRow : List Plan → Plan
  | [] => empty
  | [p] => p
  | p :: rest => cat p (inRow rest)

/-- Matches the plans one after the other. -/
def sequence (ps : List Plan) : Plan :=
  inRow (joinLiterals (ps.flatMap items))

/-- The plans as the branches of a choice, without regard to their form. -/
def asBranches : List Plan → Plan
  | [] => chars []
  | [p] => p
  | p :: rest => alt p (asBranches rest)

/-- The ranges of a class. -/
def ranges? : Plan → Option (List (Nat × Nat))
  | chars rs => some rs
  | _ => none

/-- The character of a literal that has only one. -/
def singleton? : Plan → Option (Nat × Nat)
  | literal [c] => some (c.toNat, c.toNat)
  | _ => none

/-- The one class that a choice between single characters, or one between classes, amounts to. -/
def oneClass? (ps : List Plan) : Option Plan :=
  (ps.mapM singleton? <|> (ps.mapM ranges?).map List.flatten).map fun rs => ofTable (.ofRanges rs)

/-- The plans at the start of both lists. -/
def commonStart : List Plan → List Plan → List Plan
  | p :: ps, q :: qs => if p = q then p :: commonStart ps qs else []
  | _, _ => []

/-- The items of a plan that is a row of at least two. -/
def row? (p : Plan) : Option (List Plan) :=
  match p.items with
  | p :: q :: rest => some (p :: q :: rest)
  | _ => none

/-- The items with which all branches begin, and what is left of each branch. Every branch must be
a row, and all must begin with at least one common item. -/
def liftStart? (ps : List Plan) : Option (List Plan × List Plan) := do
  match ← ps.mapM row? with
  | first :: second :: rest =>
    let start := (second :: rest).foldl commonStart first
    if start.isEmpty then none
    else pure (start, (first :: second :: rest).map fun r => sequence (r.drop start.length))
  | _ => none

/-- The branches of a choice. -/
def branches : Plan → List Plan
  | alt p q => p.branches ++ q.branches
  | p => [p]

/-- A choice in its simplest form. Each round takes a common start off the branches, and `fuel`
bounds their number. -/
def choiceWithin : Nat → List Plan → Plan
  | 0, ps => asBranches ps
  | fuel + 1, ps =>
    let bs := ps.flatMap branches
    if bs.length ≤ 1 then asBranches bs
    else
      match oneClass? bs with
      | some p => p
      | none =>
        match liftStart? bs with
        | some (start, rest) => sequence (start ++ [choiceWithin fuel rest])
        | none => asBranches bs

/-- A choice between plans. A round takes an item off every branch, so the number of items of the
first branch bounds the rounds. -/
def choice (ps : List Plan) : Plan :=
  choiceWithin (ps.foldl (fun n p => n + p.items.length) 1) ps

/-- The plan of a tree, and the plans of its branches if it is a choice. -/
def withBranches : Regex → Plan × List Plan
  | .empty => (empty, [empty])
  | .chars k => let p := ofTable k.table; (p, [p])
  | .look a => (look a, [look a])
  | .cat r s => let p := sequence [(withBranches r).1, (withBranches s).1]; (p, [p])
  | .alt r s => let ps := (withBranches r).2 ++ (withBranches s).2; (choice ps, ps)
  | .group i r => let p := group i (withBranches r).1; (p, [p])
  | .rep greedy lo hi r => let p := rep greedy lo hi (withBranches r).1; (p, [p])

/-- The plan of a tree. -/
def ofRegex (r : Regex) : Plan :=
  (withBranches r).1

-- ════════════════════════════════════════════════════════════════════════
-- States
-- ════════════════════════════════════════════════════════════════════════

/-- The bytes that a state takes. -/
def stateCost : Nat := 32

/-- The bytes for each range of bytes by which a state leads on. -/
def edgeCost : Nat := 8

/-- The bytes for each way on that needs no byte. -/
def branchCost : Nat := 4

/-- A state that leads on by as many ranges of bytes. -/
def edgeStates (count : Nat) : Nat :=
  stateCost + edgeCost * count

/-- A state that leads on by as many ways without a byte. -/
def branchState (count : Nat) : Nat :=
  stateCost + branchCost * count

/-- The lists by their first elements, neighbours with equal ones together; a list without
elements is left out. -/
def byHead {α : Type} [DecidableEq α] : List (List α) → List (α × List (List α))
  | [] => []
  | [] :: rest => byHead rest
  | (a :: as) :: rest =>
    match byHead rest with
    | (b, bs) :: more => if a = b then (a, as :: bs) :: more else (a, [as]) :: (b, bs) :: more
    | [] => [(a, [as])]

/-- The number of different starts that lists of at most `depth` elements have. -/
def startCount {α : Type} [DecidableEq α] : Nat → List (List α) → Nat
  | 0, _ => 0
  | depth + 1, ss =>
    (byHead ss).foldl (fun n (_, tails) => n + 1 + startCount depth tails) 0

/-- The states that follow sequences of bytes: each with its ways on, and a state that is known
already is used again. State zero is the end. -/
abbrev Nodes := List (List (ByteRange × Nat))

/-- The number of the state from which the sequences lead to the end, with all states known by
then. -/
def internNode : Nat → List (List ByteRange) → Nodes → Nat × Nodes
  | 0, _, nodes => (0, nodes)
  | depth + 1, ss, nodes =>
    if ss.all List.isEmpty then (0, nodes)
    else
      let (edges, nodes) := (byHead ss).foldl
        (fun (edges, nodes) (b, tails) =>
          let (target, nodes) := internNode depth tails nodes
          ((b, target) :: edges, nodes)) ([], nodes)
      match nodes.idxOf? edges with
      | some i => (nodes.length - i, nodes)
      | none => (nodes.length + 1, edges :: nodes)

/-- The most bytes that a character is written with. -/
def longestCharacter : Nat := 4

/-- The states of a class. Forwards, equal ends of its sequences of bytes share their states;
backwards, each sequence is a way of its own, and only what precedes its last bytes is shared. -/
def classStates (backward : Bool) (ranges : List (Nat × Nat)) : Nat :=
  if ranges.all (·.2 < 0x80) then stateCost + edgeStates ranges.length
  else
    let ss := ranges.flatMap byteSequences
    if backward then
      stateCost + branchState ss.length + stateCost * startCount longestCharacter ss
    else
      (internNode longestCharacter ss []).2.foldl (fun n edges => n + edgeStates edges.length)
        stateCost

/-- The bytes that lead on from a place in a set of literals, each with the rests of its literals.
A literal that ends at the place closes the group of those before it. -/
structure Fork where
  /-- The closed groups, last first. -/
  closed : List (List (UInt8 × List (List UInt8))) := []
  /-- The group that is open. -/
  current : List (UInt8 × List (List UInt8)) := []

namespace Fork

/-- Adds the rest of a literal under its first byte. -/
def insert (b : UInt8) (rest : List UInt8) :
    List (UInt8 × List (List UInt8)) → List (UInt8 × List (List UInt8))
  | [] => [(b, [rest])]
  | (a, rests) :: more =>
    if a = b then (a, rests ++ [rest]) :: more else (a, rests) :: insert b rest more

/-- Whether no byte leads on. -/
def isLeaf (f : Fork) : Bool :=
  f.current.isEmpty && f.closed.all List.isEmpty

/-- Adds a literal from the place on. -/
def add (f : Fork) : List UInt8 → Fork
  | [] => if f.isLeaf && !f.closed.isEmpty then f else ⟨f.current :: f.closed, []⟩
  | b :: rest => { f with current := insert b rest f.current }

/-- The groups that are not empty. -/
def groups (f : Fork) : List (List (UInt8 × List (List UInt8))) :=
  (f.current :: f.closed).filter (!·.isEmpty)

end Fork

/-- The states of a set of literals below a place. The literals share what they begin with, as far
as that keeps the order of preference. -/
def literalStates : Nat → List (List UInt8) → Nat
  | 0, _ => 0
  | depth + 1, ss =>
    let f := ss.foldl Fork.add {}
    if f.isLeaf then 0
    else
      f.groups.foldl
        (fun n g =>
          (if g.length = 1 then stateCost else edgeStates g.length) +
            g.foldl (fun n (_, rests) => n + literalStates depth rests) n)
        (branchState (f.groups.length + f.closed.length))

/-- The bytes of a literal. -/
def literal? : Plan → Option (List UInt8)
  | literal s => some (encode s)
  | _ => none

/-- The states of a choice between literals only, if there are two or more. -/
def literalChoice? (backward : Bool) (ps : List Plan) : Option Nat := do
  let ss ← ps.mapM literal?
  if ss.length ≤ 1 then none
  else
    let ss := if backward then ss.map List.reverse else ss
    pure (stateCost + literalStates (ss.foldl (fun n s => max n s.length) 0 + 1) ss)

/-- The least number of bytes that a plan matches; `none` if it matches nothing. -/
def minLength : Plan → Option Nat
  | empty | look _ => some 0
  | literal s => some (encode s).length
  | chars rs => rs.head?.map fun _ => 1
  | rep _ lo _ p => p.minLength.map (lo * ·)
  | group _ p => p.minLength
  | cat p q => do pure ((← p.minLength) + (← q.minLength))
  | alt p q => do pure (min (← p.minLength) (← q.minLength))

/-- The states of a repetition whose body takes `body` bytes; `consumes` tells that the body
always matches a character. -/
def repeatStates (lo : Nat) (hi : Option Nat) (consumes : Bool) (body : Nat) : Nat :=
  match hi with
  | none =>
    if lo = 0 then
      if consumes then branchState 2 + body else 2 * branchState 2 + stateCost + body
    else lo * body + branchState 2
  | some hi =>
    if lo = hi then lo * body
    else if lo = 0 ∧ hi = 1 then branchState 2 + stateCost + body
    else
      (if lo = 0 then stateCost else lo * body) + stateCost + (hi - lo) * (branchState 2 + body)

/-- The memory of a plan's states. -/
structure Extent where
  /-- The bytes that the states take. -/
  total : Nat
  /-- The bytes that the states take as the last branches of a longer choice. -/
  branches : Nat

/-- An extent that is one branch of a choice. -/
def Extent.single (total : Nat) : Extent :=
  ⟨total, total + branchCost⟩

/-- The memory of a plan's states. Groups are recorded forwards only. -/
def extent (backward : Bool) : Plan → Extent
  | empty | look _ => .single stateCost
  | literal s => .single (stateCost * (encode s).length)
  | chars rs => .single (classStates backward rs)
  | rep _ lo hi p =>
    .single (repeatStates lo hi (p.minLength.any (0 < ·)) (p.extent backward).total)
  | group _ p =>
    .single ((p.extent backward).total + if backward then 0 else 2 * stateCost)
  | cat p q => .single ((p.extent backward).total + (q.extent backward).total)
  | alt p q =>
    let sum := (p.extent backward).total + branchCost + (q.extent backward).branches
    ⟨(literalChoice? backward (alt p q).branches).getD (2 * stateCost + sum), sum⟩

/-- The memory of the automaton of a plan: that of its states, of the place where it begins, of
the whole match as a group, and of the place where it ends. -/
def automaton (backward : Bool) (p : Plan) : Nat :=
  stateCost + ((group 0 p).extent backward).total + stateCost

end Plan

namespace Regex

/-- The memory that the larger automaton of a tree takes. -/
def footprint (r : Regex) : Nat :=
  let p := Plan.ofRegex r
  max (p.automaton false) (p.automaton true)

/-- The most memory that an automaton may take. -/
def footprintLimit : Nat :=
  10 * 1024 * 1024

end Regex

end Parley
