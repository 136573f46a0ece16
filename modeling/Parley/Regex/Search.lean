import Parley.Regex.Syntax
import Std.Data.HashSet

/-!
# Leftmost-first search

The text is read once from left to right, with a list of threads in order of preference. A thread
is what remains to be matched, with the positions recorded so far. Between two characters the
threads are advanced as far as they get without consuming one; of two threads with the same
remainder the preferred one alone is kept.

## Main definitions

- `Frame` — a piece of what remains to be matched
- `Waiting` — a thread that needs a character, or has nothing left to match
- `advance` — a tree's waiting threads at a position, in order of preference
- `resume` — the same for a list of frames
- `Regex.search` — the groups of the preferred match, if there is a match
- `Regex.isMatch` — whether there is a match

## Design notes

`advance` recurses on the tree and takes the rest of the work as a continuation, so it needs no
bound on its steps. That an unbounded repetition ends is due to the remainders already seen at
this position: a body that consumed nothing comes back to a remainder that is on the list.
-/

namespace Parley

/-- A piece of what remains to be matched. -/
inductive Frame
  /-- A tree. -/
  | tree (r : Regex)
  /-- The end of a capturing group. -/
  | close (index : Nat)
  /-- The place between two rounds of an unbounded repetition. -/
  | round (greedy : Bool) (r : Regex)
  deriving Repr, DecidableEq, Hashable

/-- The recorded positions: the start and the end of group `i` are at `2 * i` and `2 * i + 1`. -/
abbrev Slots := List (Option Nat)

/-- A thread that has got as far as it can without a character. -/
structure Waiting where
  /-- The class of the character needed; `none` if nothing is left to match. -/
  needs : Option CharClass
  /-- What remains after the character. -/
  frames : List Frame
  /-- The positions recorded so far. -/
  slots : Slots
  deriving Repr

/-- The remainders that threads had at the current position. -/
abbrev Seen := Std.HashSet (List Frame)

/-- A position of the text: the characters around it and how many are before it. -/
structure Place where
  /-- The character before the position. -/
  before : Option Char
  /-- The character after the position. -/
  after : Option Char
  /-- The number of characters before the position. -/
  index : Nat

/-- The rest of a thread's work at a position. -/
abbrev Advance := Slots → Seen → List Waiting × Seen

namespace Advance

/-- Goes on only if no thread had this remainder at the position. -/
def once (key : List Frame) (go : Advance) : Advance := fun slots seen =>
  if seen.contains key then ([], seen) else go slots (seen.insert key)

/-- Goes on in two ways, the first preferred. -/
def orElse (first second : Advance) : Advance := fun slots seen =>
  let (a, seen) := first slots seen
  let (b, seen) := second slots seen
  (a ++ b, seen)

/-- Goes on in two ways, the first preferred if greedy and the second if lazy. -/
def choose (greedy : Bool) (more stop : Advance) : Advance :=
  if greedy then orElse more stop else orElse stop more

/-- Records the position in a slot and goes on. -/
def record (slot : Nat) (p : Place) (go : Advance) : Advance := fun slots seen =>
  go (slots.set slot (some p.index)) seen

end Advance

/-- Up to `extra` further rounds of a repetition; `body` advances one round before the rest. -/
def advanceUpTo (greedy : Bool) (r : Regex) (k : List Frame)
    (body : List Frame → Advance → Advance) (next : Advance) : Nat → Advance
  | 0 => .once (.tree (.rep greedy 0 (some 0) r) :: k) next
  | extra + 1 =>
    .once (.tree (.rep greedy 0 (some (extra + 1)) r) :: k)
      (.choose greedy
        (body (.tree (.rep greedy 0 (some extra) r) :: k)
          (advanceUpTo greedy r k body next extra))
        next)

/-- The rounds of an unbounded repetition, from the place between two of them. -/
def advanceRounds (greedy : Bool) (r : Regex) (k : List Frame)
    (body : List Frame → Advance → Advance) (next : Advance) : Advance :=
  .once (.round greedy r :: k)
    (.choose greedy (body (.round greedy r :: k) fun _ seen => ([], seen)) next)

/-- A repetition without an upper bound: the required rounds, and then as many as there are. -/
def advanceAtLeast (greedy : Bool) (r : Regex) (k : List Frame)
    (body : List Frame → Advance → Advance) (next : Advance) : Nat → Advance
  | 0 =>
    .once (.tree (.rep greedy 0 none r) :: k)
      (if r.nullable then
        .choose greedy
          (body (.round greedy r :: k) (advanceRounds greedy r k body next)) next
      else advanceRounds greedy r k body next)
  | 1 =>
    .once (.tree (.rep greedy 1 none r) :: k)
      (body (.round greedy r :: k) (advanceRounds greedy r k body next))
  | lo + 2 =>
    .once (.tree (.rep greedy (lo + 2) none r) :: k)
      (body (.tree (.rep greedy (lo + 1) none r) :: k)
        (advanceAtLeast greedy r k body next (lo + 1)))

/-- A repetition with an upper bound: the required rounds, and then up to `extra` more. -/
def advanceBetween (greedy : Bool) (r : Regex) (k : List Frame)
    (body : List Frame → Advance → Advance) (next : Advance) (extra : Nat) : Nat → Advance
  | 0 => advanceUpTo greedy r k body next extra
  | lo + 1 =>
    .once (.tree (.rep greedy (lo + 1) (some (lo + 1 + extra)) r) :: k)
      (body (.tree (.rep greedy lo (some (lo + extra)) r) :: k)
        (advanceBetween greedy r k body next extra lo))

/-- The waiting threads of a tree that is followed by the frames `k`; `next` advances those. -/
def advance (p : Place) : Regex → List Frame → Advance → Advance
  | .empty, k, next => .once (.tree .empty :: k) next
  | .chars c, k, _ => .once (.tree (.chars c) :: k) fun slots seen => ([⟨some c, k, slots⟩], seen)
  | .look a, k, next =>
    .once (.tree (.look a) :: k) fun slots seen =>
      if a.holds p.before p.after then next slots seen else ([], seen)
  | .cat r s, k, next =>
    .once (.tree (.cat r s) :: k) (advance p r (.tree s :: k) (advance p s k next))
  | .alt r s, k, next =>
    .once (.tree (.alt r s) :: k) (.orElse (advance p r k next) (advance p s k next))
  | .group i r, k, next =>
    .once (.tree (.group i r) :: k)
      (.record (2 * i) p
        (advance p r (.close i :: k)
          (.once (.close i :: k) (.record (2 * i + 1) p next))))
  | .rep greedy lo none r, k, next =>
    advanceAtLeast greedy r k (fun k' next' => advance p r k' next') next lo
  | .rep greedy lo (some hi) r, k, next =>
    advanceBetween greedy r k (fun k' next' => advance p r k' next') next (hi - lo) lo

/-- The waiting threads of a list of frames. -/
def resume (p : Place) : List Frame → Advance
  | [] => .once [] fun slots seen => ([⟨none, [], slots⟩], seen)
  | .tree r :: k => advance p r k (resume p k)
  | .close i :: k => .once (.close i :: k) (.record (2 * i + 1) p (resume p k))
  | .round greedy r :: k =>
    advanceRounds greedy r k (fun k' next' => advance p r k' next') (resume p k)

/-- A thread between two characters, before it is advanced. -/
structure Thread where
  /-- What remains to be matched. -/
  frames : List Frame
  /-- The positions recorded so far. -/
  slots : Slots
  deriving Repr

/-- The waiting threads of a list of threads, in order of preference. -/
def advanceAll (p : Place) : List Thread → Seen → List Waiting
  | [], _ => []
  | t :: ts, seen =>
    let (ws, seen) := resume p t.frames t.slots seen
    ws ++ advanceAll p ts seen

/-- The threads preferred over the first finished one, and the positions that one recorded. -/
def splitFinished : List Waiting → List (CharClass × Thread) × Option Slots
  | [] => ([], none)
  | w :: ws =>
    match w.needs with
    | none => ([], some w.slots)
    | some k =>
      let (live, won) := splitFinished ws
      ((k, ⟨w.frames, w.slots⟩) :: live, won)

/-- The threads that the next character lets go on. -/
def consume (c : Char) (live : List (CharClass × Thread)) : List Thread :=
  live.filterMap fun (k, t) => if k.contains c then some t else none

namespace Regex

/-- The positions before anything is recorded but the start of the match. -/
def startSlots (r : Regex) (index : Nat) : Slots :=
  some index :: List.replicate (2 * r.lastGroup + 1) none

/-- Runs the threads over the text that is left. A new thread starts at every position until a
match is found; `best` holds the preferred match so far. -/
def searchFrom (r : Regex) (before : Option Char) (index : Nat) (threads : List Thread)
    (best : Option Slots) (text : List Char) : Option Slots :=
  let fresh : List Thread :=
    if best.isNone then [⟨[.tree r, .close 0], r.startSlots index⟩] else []
  let place : Place := ⟨before, text.head?, index⟩
  let (live, won) := splitFinished (advanceAll place (threads ++ fresh) ∅)
  let best := won <|> best
  match text with
  | [] => best
  | c :: cs =>
    if live.isEmpty && best.isSome then best
    else searchFrom r (some c) (index + 1) (consume c live) best cs

/-- The recorded positions of the preferred match, if there is a match. -/
def searchSlots (r : Regex) (text : List Char) : Option Slots :=
  searchFrom r none 0 [] none text

/-- The part of the text that a group matched, if it took part in the match. -/
def groupText (text : List Char) (slots : Slots) (index : Nat) : Option (List Char) :=
  match slots[2 * index]?, slots[2 * index + 1]? with
  | some (some start), some (some stop) => some ((text.drop start).take (stop - start))
  | _, _ => none

/-- The texts of all groups of the preferred match, the whole match first, if there is a match. -/
def search (r : Regex) (text : List Char) : Option (List (Option (List Char))) :=
  (r.searchSlots text).map fun slots =>
    (List.range (r.lastGroup + 1)).map (groupText text slots)

/-- Whether the regex matches anywhere in the text. -/
def isMatch (r : Regex) (text : List Char) : Bool :=
  (r.searchSlots text).isSome

end Regex

end Parley
