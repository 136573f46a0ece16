import Mathlib.Data.List.Basic
import Parley.Regex.Search

/-!
# What a thread can do

A thread's frames tell all that it can do at a position: the ways in which it goes on without a
character, the slot that it records when it does, and the character that it waits for. From these
single steps a thread's whole run over a text is put together, without any search.

## Main definitions

- `Cursor` — a position of a text, with the text that is left
- `Frames.ways`, `Thread.branches` — what a thread goes on as, in order of preference
- `Thread.waiting` — the thread as it waits for a character, or ends
- `Frames.canonical` — the frames under which the search remembers a thread
- `Accepts` — a run that ends, with the positions it recorded
- `Hopeless` — frames from which no run ends

## Main results

- `Accepts.change_slots` — whether a run ends does not depend on what was recorded before
- `Thread.branches_frames` — what a thread goes on as depends on its canonical frames only
-/

namespace Parley

/-- A position of a text, with the text that is left. -/
structure Cursor where
  /-- The character before the position. -/
  before : Option Char
  /-- The number of characters before the position. -/
  index : Nat
  /-- The text after the position. -/
  rest : List Char

namespace Cursor

/-- The start of a text. -/
def start (text : List Char) : Cursor :=
  ⟨none, 0, text⟩

/-- What the search knows of the position. -/
def place (m : Cursor) : Place :=
  ⟨m.before, m.rest.head?, m.index⟩

/-- The position after a text that stands here. -/
def skip (m : Cursor) (w : List Char) : Cursor :=
  ⟨w.getLast? <|> m.before, m.index + w.length, m.rest.drop w.length⟩

@[simp]
theorem skip_nil (m : Cursor) : m.skip [] = m := by
  simp [skip]

@[simp]
theorem skip_index (m : Cursor) (w : List Char) : (m.skip w).index = m.index + w.length :=
  rfl

@[simp]
theorem skip_rest (m : Cursor) (w : List Char) : (m.skip w).rest = m.rest.drop w.length :=
  rfl

theorem skip_append (m : Cursor) (v w : List Char) : m.skip (v ++ w) = (m.skip v).skip w := by
  simp [skip, List.getLast?_append, List.drop_drop, Nat.add_assoc, Option.or_assoc]

end Cursor

/-- What remains to be matched. -/
abbrev Frames := List Frame

namespace Frames

/-- One more round or none, in order of preference. -/
def choice (greedy : Bool) (more stop : Frames) : List Frames :=
  if greedy then [more, stop] else [stop, more]

/-- The ways in which a thread goes on at a place without a character. -/
def ways (p : Place) : Frames → List Frames
  | [] => []
  | .tree .empty :: k => [k]
  | .tree (.chars _) :: _ => []
  | .tree (.look a) :: k => if a.holds p.before p.after then [k] else []
  | .tree (.cat r s) :: k => [.tree r :: .tree s :: k]
  | .tree (.alt r s) :: k => [.tree r :: k, .tree s :: k]
  | .tree (.group i r) :: k => [.tree r :: .close i :: k]
  | .tree (.rep greedy 0 none r) :: k =>
    if r.nullable then choice greedy (.tree r :: .round greedy r :: k) k
    else [.round greedy r :: k]
  | .tree (.rep greedy 1 none r) :: k => [.tree r :: .round greedy r :: k]
  | .tree (.rep greedy (lo + 2) none r) :: k =>
    [.tree r :: .tree (.rep greedy (lo + 1) none r) :: k]
  | .tree (.rep _ 0 (some 0) _) :: k => [k]
  | .tree (.rep greedy 0 (some (hi + 1)) r) :: k =>
    choice greedy (.tree r :: .tree (.rep greedy 0 (some hi) r) :: k) k
  | .tree (.rep greedy (lo + 1) (some hi) r) :: k =>
    [.tree r :: .tree (.rep greedy lo (some (lo + (hi - (lo + 1)))) r) :: k]
  | .close _ :: k => [k]
  | .round greedy r :: k => choice greedy (.tree r :: .round greedy r :: k) k

/-- The slot that is recorded on the way. -/
def mark? : Frames → Option Nat
  | .tree (.group i _) :: _ => some (2 * i)
  | .close i :: _ => some (2 * i + 1)
  | _ => none

/-- The class of the character that is needed now, with what remains after it. -/
def need? : Frames → Option (Option CharClass × Frames)
  | [] => some (none, [])
  | .tree (.chars c) :: k => some (some c, k)
  | _ => none

/-- The frames with bounds of a repetition that fit together: a thread is remembered so. -/
def canonical : Frames → Frames
  | .tree (.rep greedy lo (some hi) r) :: k =>
    .tree (.rep greedy lo (some (lo + (hi - lo))) r) :: k
  | k => k

theorem canonical_canonical (k : Frames) : canonical (canonical k) = canonical k := by
  match k with
  | .tree (.rep greedy lo (some hi) r) :: k =>
    have hextra : lo + (lo + (hi - lo) - lo) = lo + (hi - lo) := by omega
    rw [canonical, canonical, hextra]
  | [] | .close _ :: _ | .round _ _ :: _ | .tree .empty :: _ | .tree (.chars _) :: _
  | .tree (.look _) :: _ | .tree (.cat _ _) :: _ | .tree (.alt _ _) :: _
  | .tree (.group _ _) :: _ | .tree (.rep _ _ none _) :: _ => rfl

theorem ways_canonical (p : Place) (k : Frames) : ways p (canonical k) = ways p k := by
  match k with
  | .tree (.rep greedy 0 (some hi) r) :: k =>
    rw [canonical, Nat.zero_add, Nat.sub_zero]
  | .tree (.rep greedy (lo + 1) (some hi) r) :: k =>
    rw [canonical, ways, ways]
    have hextra : lo + 1 + (hi - (lo + 1)) - (lo + 1) = hi - (lo + 1) := by omega
    rw [hextra]
  | [] | .close _ :: _ | .round _ _ :: _ | .tree .empty :: _ | .tree (.chars _) :: _
  | .tree (.look _) :: _ | .tree (.cat _ _) :: _ | .tree (.alt _ _) :: _
  | .tree (.group _ _) :: _ | .tree (.rep _ _ none _) :: _ => rfl

theorem need?_canonical (k : Frames) : need? (canonical k) = need? k := by
  match k with
  | .tree (.rep _ _ (some _) _) :: _
  | [] | .close _ :: _ | .round _ _ :: _ | .tree .empty :: _ | .tree (.chars _) :: _
  | .tree (.look _) :: _ | .tree (.cat _ _) :: _ | .tree (.alt _ _) :: _
  | .tree (.group _ _) :: _ | .tree (.rep _ _ none _) :: _ => rfl

/-- Remainders that the search does not tell apart go on in the same ways. -/
theorem ways_congr {k k' : Frames} (h : canonical k = canonical k') (p : Place) :
    ways p k = ways p k' := by
  rw [← ways_canonical, h, ways_canonical]

/-- Remainders that the search does not tell apart wait for the same. -/
theorem need?_congr {k k' : Frames} (h : canonical k = canonical k') : need? k = need? k' := by
  rw [← need?_canonical, h, need?_canonical]

/-- Frames that wait are told by what they wait for. -/
theorem need?_eq_some {k : Frames} {x : Option CharClass × Frames} (h : need? k = some x) :
    (k = [] ∧ x = (none, [])) ∨ ∃ c k', k = .tree (.chars c) :: k' ∧ x = (some c, k') := by
  match k with
  | [] =>
    cases h
    exact .inl ⟨rfl, rfl⟩
  | .tree (.chars c) :: k' =>
    cases h
    exact .inr ⟨c, k', rfl, rfl⟩
  | .close _ :: _ | .round _ _ :: _ | .tree .empty :: _
  | .tree (.look _) :: _ | .tree (.cat _ _) :: _ | .tree (.alt _ _) :: _
  | .tree (.group _ _) :: _ | .tree (.rep _ _ _ _) :: _ => cases h

/-- Frames that wait for the same are the same. -/
theorem eq_of_need? {k k' : Frames} {x : Option CharClass × Frames} (h : need? k = some x)
    (h' : need? k' = some x) : k = k' := by
  obtain ⟨rfl, rfl⟩ | ⟨c, k, rfl, rfl⟩ := need?_eq_some h <;>
    obtain ⟨rfl, hx⟩ | ⟨c', k', rfl, hx⟩ := need?_eq_some h' <;> cases hx <;> rfl

/-- Frames that wait do not go on without a character. -/
theorem ways_of_need? {k : Frames} {x : Option CharClass × Frames} (h : need? k = some x)
    (p : Place) : ways p k = [] := by
  obtain ⟨rfl, -⟩ | ⟨c, k', rfl, -⟩ := need?_eq_some h <;> rfl

end Frames

namespace Thread

/-- The slots after what is recorded at a place. -/
def mark (p : Place) (t : Thread) : Slots :=
  match Frames.mark? t.frames with
  | some i => t.slots.set i (some p.index)
  | none => t.slots

/-- What a thread goes on as at a place without a character, in order of preference. -/
def branches (p : Place) (t : Thread) : List Thread :=
  (Frames.ways p t.frames).map fun k => ⟨k, t.mark p⟩

/-- The thread as it waits, if it has got as far as it can without a character. -/
def waiting (t : Thread) : List Waiting :=
  (Frames.need? t.frames).toList.map fun x => ⟨x.1, x.2, t.slots⟩

theorem waiting_of_need? {t : Thread} {need : Option CharClass} {rest : Frames}
    (h : Frames.need? t.frames = some (need, rest)) : t.waiting = [⟨need, rest, t.slots⟩] := by
  rw [waiting, h]
  rfl

/-- Threads with one remainder, as the search sees it, go on in the same ways. -/
theorem branches_frames {t u : Thread} (h : Frames.canonical t.frames = Frames.canonical u.frames)
    (p : Place) :
    (t.branches p).map Thread.frames = (u.branches p).map Thread.frames := by
  simp [branches, Frames.ways_congr h]

/-- What one thread goes on as, the other goes on as too, up to what was recorded. -/
theorem exists_branch {t u b : Thread} {p : Place}
    (h : Frames.canonical t.frames = Frames.canonical u.frames) (hb : b ∈ t.branches p) :
    ∃ b' ∈ u.branches p, b'.frames = b.frames := by
  refine List.mem_map.mp ?_
  rw [← branches_frames h]
  exact List.mem_map_of_mem hb

end Thread

/-- A thread has a run over some of the text that is left which ends with nothing to match, and
with these positions recorded. -/
inductive Accepts : Cursor → Thread → Slots → Prop
  | finish {m : Cursor} {slots : Slots} : Accepts m ⟨[], slots⟩ slots
  | branch {m : Cursor} {t b : Thread} {slots : Slots} (hb : b ∈ t.branches m.place)
      (h : Accepts m b slots) : Accepts m t slots
  | take {m : Cursor} {c : Char} {cs : List Char} {k : CharClass} {frames : Frames}
      {before slots : Slots} (hrest : m.rest = c :: cs) (hc : k.contains c)
      (h : Accepts (m.skip [c]) ⟨frames, before⟩ slots) :
      Accepts m ⟨.tree (.chars k) :: frames, before⟩ slots

/-- No run from these frames ends. -/
def Hopeless (m : Cursor) (k : Frames) : Prop :=
  ∀ before slots, ¬Accepts m ⟨k, before⟩ slots

/-- Whether a run ends depends on the remainder alone, as the search sees it, and not on what was
recorded before. -/
theorem Accepts.change_slots {m : Cursor} {t u : Thread} {slots : Slots} (h : Accepts m t slots)
    (hframes : Frames.canonical t.frames = Frames.canonical u.frames) :
    ∃ slots', Accepts m u slots' := by
  induction h generalizing u with
  | finish =>
    obtain ⟨frames, before⟩ := u
    have hneed := Frames.need?_congr hframes
    obtain rfl : [] = frames := Frames.eq_of_need? rfl hneed.symm
    exact ⟨before, .finish⟩
  | @branch m t b slots hb h ih =>
    obtain ⟨b', hb', hframes'⟩ := Thread.exists_branch hframes hb
    obtain ⟨slots', h'⟩ := ih (u := b') (by rw [hframes'])
    exact ⟨slots', .branch hb' h'⟩
  | @take m c cs k frames before slots hrest hc h ih =>
    obtain ⟨frames', before'⟩ := u
    have hneed := Frames.need?_congr hframes
    obtain rfl : .tree (.chars k) :: frames = frames' := Frames.eq_of_need? rfl hneed.symm
    obtain ⟨slots', h'⟩ := ih (u := ⟨frames, before'⟩) rfl
    exact ⟨slots', .take hrest hc h'⟩

theorem Hopeless.not_accepts {m : Cursor} {t : Thread} {slots : Slots} (h : Hopeless m t.frames) :
    ¬Accepts m t slots :=
  h t.slots slots

/-- Remainders that the search does not tell apart are hopeless together. -/
theorem Hopeless.congr {m : Cursor} {k k' : Frames} (h : Hopeless m k)
    (hframes : Frames.canonical k = Frames.canonical k') : Hopeless m k' := by
  intro before slots haccepts
  obtain ⟨slots', h'⟩ := haccepts.change_slots (u := ⟨k, before⟩) hframes.symm
  exact h before slots' h'

/-- What a hopeless thread goes on as is hopeless. -/
theorem Hopeless.of_branch {m : Cursor} {t b : Thread} (h : Hopeless m t.frames)
    (hb : b ∈ t.branches m.place) : Hopeless m b.frames := by
  intro before slots haccepts
  obtain ⟨slots', h'⟩ := haccepts.change_slots (u := b) rfl
  exact h.not_accepts (.branch hb h')

end Parley
