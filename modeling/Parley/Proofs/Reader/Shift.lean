import Parley.Proofs.Reader.Construct

/-!
# Groups with other numbers

Within a larger pattern a pattern has the groups that it has alone, but they are numbered after the
groups that are opened before it. Everything that is read is the same up to these numbers.

## Main definitions

- `Regex.shift` — a tree with the numbers of its groups raised
- `Branches.shift`, `OpenGroup.shift` — the same for what has been read of a pattern

## Main results

- `Branches.shift_close` — the choice between branches
- `Branches.shift_apply` — constructs are put to branches
-/

namespace Parley

namespace Regex

/-- The tree with the numbers of its groups raised by `k`. -/
def shift (k : Nat) : Regex → Regex
  | empty => empty
  | chars c => chars c
  | look a => look a
  | cat r s => cat (r.shift k) (s.shift k)
  | alt r s => alt (r.shift k) (s.shift k)
  | group i r => group (k + i) (r.shift k)
  | rep greedy lo hi r => rep greedy lo hi (r.shift k)

variable (k : Nat)

@[simp]
theorem shift_zero (r : Regex) : r.shift 0 = r := by
  induction r with
  | empty | chars | look => rfl
  | cat r s ihr ihs | alt r s ihr ihs => rw [shift, ihr, ihs]
  | group i r ih => rw [shift, ih, Nat.zero_add]
  | rep greedy lo hi r ih => rw [shift, ih]

/-- Without groups there is nothing to number. -/
theorem shift_of_groupFree {r : Regex} (h : r.groupFree) : r.shift k = r := by
  induction r with
  | empty | chars | look => rfl
  | cat r s ihr ihs | alt r s ihr ihs =>
    obtain ⟨hr, hs⟩ := Bool.and_eq_true_iff.mp h
    rw [shift, ihr hr, ihs hs]
  | group => cases h
  | rep greedy lo hi r ih => rw [shift, ih h]

@[simp]
theorem consumesNothing_shift (r : Regex) : (r.shift k).consumesNothing = r.consumesNothing := by
  induction r with
  | empty | chars | look => rfl
  | cat r s ihr ihs | alt r s ihr ihs => rw [shift, consumesNothing, consumesNothing, ihr, ihs]
  | group i r ih => exact ih
  | rep greedy lo hi r ih => rw [shift, consumesNothing, consumesNothing, ih]

/-- Numbers are raised by no more. -/
theorem lastGroup_shift_le (r : Regex) : (r.shift k).lastGroup ≤ k + r.lastGroup := by
  induction r with
  | empty | chars | look => exact Nat.zero_le _
  | cat r s ihr ihs | alt r s ihr ihs =>
    rw [shift, lastGroup, lastGroup]
    omega
  | group i r ih =>
    rw [shift, lastGroup, lastGroup]
    omega
  | rep greedy lo hi r ih => exact ih

theorem shift_repeated (greedy : Bool) (lo : Nat) (hi : Option Nat) (r : Regex) :
    (repeated greedy lo hi r).shift k = repeated greedy lo hi (r.shift k) := by
  simp only [repeated, consumesNothing_shift]
  generalize (if r.consumesNothing then min lo 1 else lo) = lo'
  generalize (if r.consumesNothing then some (min (hi.getD 1) 1) else hi) = hi'
  split
  · rfl
  split
  · rfl
  · rfl

theorem shift_cats (rs : List Regex) : (cats rs).shift k = cats (rs.map (shift k)) := by
  induction rs with
  | nil => rfl
  | cons r rest ih =>
    cases rest with
    | nil => rfl
    | cons s rest => exact congrArg (cat (r.shift k)) ih

theorem shift_alts (rs : List Regex) : (alts rs).shift k = alts (rs.map (shift k)) := by
  induction rs with
  | nil => rfl
  | cons r rest ih =>
    cases rest with
    | nil => rfl
    | cons s rest => exact congrArg (alt (r.shift k)) ih

end Regex

/-- The item with the numbers of its groups raised by `k`. -/
def Item.shift (k : Nat) : Item → Item
  | tree r depth => tree (r.shift k) depth
  | flags => flags

/-- The branches with the numbers of their groups raised by `k`. -/
def Branches.shift (k : Nat) (b : Branches) : Branches :=
  ⟨b.done.map (Prod.map (Regex.shift k) id), b.items.map (Item.shift k)⟩

/-- The open group with its number, and those of the groups around it, raised by `k`. -/
def OpenGroup.shift (k : Nat) (g : OpenGroup) : OpenGroup :=
  ⟨g.index.map (k + ·), g.flags, g.outer.shift k⟩

section Shift

variable (k : Nat)

@[simp]
theorem Item.shift_zero (i : Item) : i.shift 0 = i := by
  cases i with
  | tree r depth => rw [shift, Regex.shift_zero]
  | flags => rfl

@[simp]
theorem Branches.shift_zero (b : Branches) : b.shift 0 = b := by
  have hdone : (Prod.map (Regex.shift 0) id : Regex × Nat → Regex × Nat) = id := by
    funext x
    exact Prod.ext (Regex.shift_zero x.1) rfl
  have hitems : Item.shift 0 = id := funext Item.shift_zero
  rw [shift, hdone, hitems, List.map_id, List.map_id]

theorem Item.regex_shift (i : Item) : (i.shift k).regex = i.regex.shift k := by
  cases i <;> rfl

theorem Item.depth_shift (i : Item) : (i.shift k).depth = i.depth := by
  cases i <;> rfl

theorem shift_concatItems (items : List Item) :
    concatItems (items.map (Item.shift k)) = Prod.map (Regex.shift k) id (concatItems items) := by
  match items with
  | [] => rfl
  | [i] => exact Prod.ext (i.regex_shift k) (i.depth_shift k)
  | i :: j :: items =>
    have hregex : (Item.regex ∘ Item.shift k) = Regex.shift k ∘ Item.regex :=
      funext fun i => i.regex_shift k
    refine Prod.ext ?_ ?_
    · rw [concatItems_fst, Prod.map_fst, concatItems_fst, Regex.shift_cats, List.map_map,
        List.map_map, hregex]
    · simp [concatItems, List.foldl_map, Item.depth_shift]

theorem shift_chooseBranches (bs : List (Regex × Nat)) :
    chooseBranches (bs.map (Prod.map (Regex.shift k) id)) =
      Prod.map (Regex.shift k) id (chooseBranches bs) := by
  match bs with
  | [] | [_] => rfl
  | b :: c :: bs =>
    refine Prod.ext ?_ ?_
    · rw [chooseBranches_fst, Prod.map_fst, chooseBranches_fst, Regex.shift_alts, List.map_map,
        List.map_map]
      rfl
    · simp [chooseBranches, List.foldl_map]

/-- All branches as a choice. -/
theorem Branches.shift_close (b : Branches) :
    (b.shift k).close = Prod.map (Regex.shift k) id b.close := by
  rw [close, close, ← shift_chooseBranches, List.map_reverse, List.map_cons, ← shift_concatItems,
    List.map_reverse]
  rfl

/-- Constructs other than groups are put to branches in the same way. -/
theorem Branches.shift_apply {x : Construct} (b : Branches)
    (hx : ∀ r depth, x = .piece r depth → r.groupFree) :
    (b.shift k).apply x = (b.apply x).map (Branches.shift k) := by
  cases x with
  | piece r depth =>
    have hr := Regex.shift_of_groupFree k (hx r depth rfl)
    simp [apply, shift, Item.shift, hr]
  | repeats greedy lo hi =>
    obtain ⟨done, items⟩ := b
    cases items with
    | nil => rfl
    | cons i items =>
      cases i with
      | tree r depth => simp [apply, shift, Item.shift, Regex.shift_repeated]
      | flags => rfl
  | bar => simp [apply, shift, ← shift_concatItems]

end Shift

end Parley
