import Parley.Proofs.Regex.Search

/-!
# The spans of a tree

What a tree matches is told by recursion on it, without frames or threads: from which positions of
a text to which, and with which positions recorded. The runs of threads are these spans.

## Main definitions

- `Reading` — a position of a text with the positions recorded so far
- `Regex.Spans` — a tree matches from one reading to another
- `Frames.Completes` — the same for a list of frames
- `Regex.MatchesWhole` — a tree on its own matches the whole of a text

## Main results

- `continues` — after a span of a tree, a run of what follows is a run from the tree on
- `completes_of_accepts`, `accepts_of_completes` — the runs of a thread are the spans of its frames
- `hopeless_of_not_completes` — frames without a span are hopeless
-/

namespace Parley

/-- A position of a text with the positions recorded so far. -/
structure Reading extends Cursor where
  /-- The positions recorded so far. -/
  slots : Slots

namespace Reading

/-- The reading after a text that stands here. -/
def skip (m : Reading) (w : List Char) : Reading :=
  ⟨m.toCursor.skip w, m.slots⟩

/-- Records the position in a slot. -/
def record (m : Reading) (slot : Nat) : Reading :=
  ⟨m.toCursor, m.slots.set slot (some m.index)⟩

@[simp]
theorem skip_toCursor (m : Reading) (w : List Char) : (m.skip w).toCursor = m.toCursor.skip w :=
  rfl

@[simp]
theorem skip_slots (m : Reading) (w : List Char) : (m.skip w).slots = m.slots :=
  rfl

@[simp]
theorem skip_nil (m : Reading) : m.skip [] = m := by
  rw [skip, Cursor.skip_nil]

theorem skip_append (m : Reading) (v w : List Char) : m.skip (v ++ w) = (m.skip v).skip w := by
  rw [skip, Cursor.skip_append]
  rfl

end Reading

/-- So many steps one after the other. -/
def Times (step : Reading → Reading → Prop) : Nat → Reading → Reading → Prop
  | 0, m, n => n = m
  | count + 1, m, n => ∃ mid, step m mid ∧ Times step count mid n

namespace Regex

/-- The tree matches from one reading to another. An upper bound below the lower one counts as the
lower one. -/
def Spans : Regex → Reading → Reading → Prop
  | empty, m, n => n = m
  | chars k, m, n => ∃ c cs, m.rest = c :: cs ∧ k.contains c ∧ n = m.skip [c]
  | look a, m, n => a.holds m.before m.rest.head? ∧ n = m
  | cat r s, m, n => ∃ mid, r.Spans m mid ∧ s.Spans mid n
  | alt r s, m, n => r.Spans m n ∨ s.Spans m n
  | group i r, m, n => ∃ mid, r.Spans (m.record (2 * i)) mid ∧ n = mid.record (2 * i + 1)
  | rep _ lo hi r, m, n => ∃ count, lo ≤ count ∧ (∀ h, hi = some h → count ≤ max lo h) ∧
      Times r.Spans count m n

/-- The tree, taken on its own, matches the whole of a text. -/
def MatchesWhole (r : Regex) (w : List Char) : Prop :=
  ∃ n, r.Spans ⟨.start w, r.startSlots 0⟩ n ∧ n.rest = []

end Regex

namespace Frames

/-- The frames match from one reading to another. -/
def Completes : Frames → Reading → Reading → Prop
  | [], m, n => n = m
  | .tree r :: k, m, n => ∃ mid, r.Spans m mid ∧ Completes k mid n
  | .close i :: k, m, n => Completes k (m.record (2 * i + 1)) n
  | .round _ r :: k, m, n => ∃ count mid, Times r.Spans count m mid ∧ Completes k mid n

end Frames

-- ════════════════════════════════════════════════════════════════════════
-- Runs and spans
-- ════════════════════════════════════════════════════════════════════════

section Adequacy

open Frames

variable {m n : Reading} {k : Frames}

theorem mem_choice {greedy : Bool} {more stop x : Frames} :
    x ∈ choice greedy more stop ↔ x = more ∨ x = stop := by
  cases greedy <;> simp [choice, or_comm]

/-- One more round before the rounds that follow. -/
theorem completes_of_more {greedy : Bool} {r : Regex}
    (h : Completes (.tree r :: .round greedy r :: k) m n) :
    Completes (.round greedy r :: k) m n := by
  obtain ⟨mid, hspan, count, last, htimes, hk⟩ := h
  exact ⟨count + 1, last, ⟨mid, hspan, htimes⟩, hk⟩

/-- What a thread goes on as matches no more than the thread. -/
theorem completes_of_way {way : Frames} (hway : way ∈ ways m.place k)
    (h : Completes way ⟨m.toCursor, Thread.mark m.place ⟨k, m.slots⟩⟩ n) : Completes k m n := by
  match k with
  | .tree .empty :: k =>
    obtain rfl := List.mem_singleton.mp hway
    exact ⟨m, rfl, h⟩
  | .tree (.look a) :: k =>
    simp only [ways] at hway
    split at hway
    · next hholds =>
      obtain rfl := List.mem_singleton.mp hway
      exact ⟨m, ⟨hholds, rfl⟩, h⟩
    · cases hway
  | .tree (.cat r s) :: k =>
    obtain rfl := List.mem_singleton.mp hway
    obtain ⟨mid, hr, last, hs, h⟩ := h
    exact ⟨last, ⟨mid, hr, hs⟩, h⟩
  | .tree (.alt r s) :: k =>
    simp only [ways, List.mem_cons, List.not_mem_nil, or_false] at hway
    obtain rfl | rfl := hway
    · obtain ⟨mid, hr, h⟩ := h
      exact ⟨mid, .inl hr, h⟩
    · obtain ⟨mid, hs, h⟩ := h
      exact ⟨mid, .inr hs, h⟩
  | .tree (.group i r) :: k =>
    obtain rfl := List.mem_singleton.mp hway
    obtain ⟨mid, hr, h⟩ := h
    exact ⟨mid.record (2 * i + 1), ⟨mid, hr, rfl⟩, h⟩
  | .close i :: k =>
    obtain rfl := List.mem_singleton.mp hway
    exact h
  | .round greedy r :: k =>
    obtain rfl | rfl := mem_choice.mp hway
    · exact completes_of_more h
    · exact ⟨0, m, rfl, h⟩
  | .tree (.rep greedy 0 none r) :: k =>
    have hround : Completes (.round greedy r :: k) m n := by
      simp only [ways] at hway
      split at hway
      · obtain rfl | rfl := mem_choice.mp hway
        · exact completes_of_more h
        · exact ⟨0, m, rfl, h⟩
      · obtain rfl := List.mem_singleton.mp hway
        exact h
    obtain ⟨count, last, htimes, hk⟩ := hround
    exact ⟨last, ⟨count, Nat.zero_le _, by simp, htimes⟩, hk⟩
  | .tree (.rep greedy 1 none r) :: k =>
    obtain rfl := List.mem_singleton.mp hway
    obtain ⟨mid, hspan, count, last, htimes, hk⟩ := h
    exact ⟨last, ⟨count + 1, by omega, by simp, mid, hspan, htimes⟩, hk⟩
  | .tree (.rep greedy (lo + 2) none r) :: k =>
    obtain rfl := List.mem_singleton.mp hway
    obtain ⟨mid, hspan, last, ⟨count, hlo, -, htimes⟩, hk⟩ := h
    exact ⟨last, ⟨count + 1, by omega, by simp, mid, hspan, htimes⟩, hk⟩
  | .tree (.rep greedy 0 (some 0) r) :: k =>
    obtain rfl := List.mem_singleton.mp hway
    exact ⟨m, ⟨0, Nat.zero_le _, by simp, rfl⟩, h⟩
  | .tree (.rep greedy 0 (some (hi + 1)) r) :: k =>
    obtain rfl | rfl := mem_choice.mp hway
    · obtain ⟨mid, hspan, last, ⟨count, -, hhi, htimes⟩, hk⟩ := h
      have hcount := hhi hi rfl
      refine ⟨last, ⟨count + 1, Nat.zero_le _, fun h hh => ?_, mid, hspan, htimes⟩, hk⟩
      cases hh
      omega
    · exact ⟨m, ⟨0, Nat.zero_le _, fun _ _ => Nat.zero_le _, rfl⟩, h⟩
  | .tree (.rep greedy (lo + 1) (some hi) r) :: k =>
    rw [ways] at hway
    obtain rfl := List.mem_singleton.mp hway
    obtain ⟨mid, hspan, last, ⟨count, hlo, hhi, htimes⟩, hk⟩ := h
    have hcount := hhi _ rfl
    refine ⟨last, ⟨count + 1, by omega, fun h hh => ?_, mid, hspan, htimes⟩, hk⟩
    cases hh
    omega

/-- A run of a thread is a span of its frames. -/
theorem completes_of_accepts {p : Cursor} {t : Thread} {slots : Slots} (h : Accepts p t slots) :
    ∃ n, Completes t.frames ⟨p, t.slots⟩ n ∧ n.slots = slots := by
  induction h with
  | @finish p slots => exact ⟨⟨p, slots⟩, rfl, rfl⟩
  | @branch p t b slots hb _ ih =>
    obtain ⟨way, hway, rfl⟩ := List.mem_map.mp hb
    obtain ⟨n, h, hslots⟩ := ih
    exact ⟨n, completes_of_way (m := ⟨p, t.slots⟩) hway h, hslots⟩
  | @take p c cs cls k before slots hrest hc _ ih =>
    obtain ⟨n, h, hslots⟩ := ih
    exact ⟨n, ⟨Reading.skip ⟨p, before⟩ [c], ⟨c, cs, hrest, hc, rfl⟩, h⟩, hslots⟩

/-- A thread goes on as one of its ways. -/
theorem accepts_of_way (way : Frames) {slots : Slots} (hway : way ∈ ways m.place k)
    (h : Accepts m.toCursor ⟨way, Thread.mark m.place ⟨k, m.slots⟩⟩ slots) :
    Accepts m.toCursor ⟨k, m.slots⟩ slots :=
  .branch (List.mem_map.mpr ⟨way, hway, rfl⟩) h

/-- What follows a tree is matched after a span of the tree. -/
def Continues (r : Regex) : Prop :=
  ∀ (m mid : Reading) (k : Frames) (slots : Slots), r.Spans m mid →
    Accepts mid.toCursor ⟨k, mid.slots⟩ slots → Accepts m.toCursor ⟨.tree r :: k, m.slots⟩ slots

/-- Any number of rounds. -/
theorem accepts_round {r : Regex} (hr : Continues r) {greedy : Bool} {count : Nat}
    {mid : Reading} {slots : Slots} (htimes : Times r.Spans count m mid)
    (h : Accepts mid.toCursor ⟨k, mid.slots⟩ slots) :
    Accepts m.toCursor ⟨.round greedy r :: k, m.slots⟩ slots := by
  induction count generalizing m with
  | zero =>
    obtain rfl := htimes
    exact accepts_of_way _ (mem_choice.mpr (.inr rfl)) h
  | succ count ih =>
    obtain ⟨next, hspan, htimes⟩ := htimes
    exact accepts_of_way _ (mem_choice.mpr (.inl rfl)) (hr _ _ _ _ hspan (ih htimes))

/-- A repetition without an upper bound. -/
theorem accepts_atLeast {r : Regex} (hr : Continues r) {greedy : Bool} {lo count : Nat}
    {mid : Reading} {slots : Slots} (hlo : lo ≤ count) (htimes : Times r.Spans count m mid)
    (h : Accepts mid.toCursor ⟨k, mid.slots⟩ slots) :
    Accepts m.toCursor ⟨.tree (.rep greedy lo none r) :: k, m.slots⟩ slots := by
  induction lo using Nat.strongRecOn generalizing m count with
  | ind lo ih =>
    match lo, count, hlo, htimes with
    | 0, count, _, htimes =>
      by_cases hnullable : r.nullable
      · cases count with
        | zero =>
          obtain rfl := htimes
          refine accepts_of_way _ ?_ h
          rw [ways, if_pos hnullable]
          exact mem_choice.mpr (.inr rfl)
        | succ count =>
          obtain ⟨next, hspan, htimes⟩ := htimes
          refine accepts_of_way (.tree r :: .round greedy r :: k) ?_
            (hr _ _ _ _ hspan (accepts_round hr htimes h))
          rw [ways, if_pos hnullable]
          exact mem_choice.mpr (.inl rfl)
      · refine accepts_of_way (.round greedy r :: k) ?_ (accepts_round hr htimes h)
        rw [ways, if_neg hnullable]
        exact .head _
    | 1, count + 1, _, htimes =>
      obtain ⟨next, hspan, htimes⟩ := htimes
      exact accepts_of_way _ (.head _) (hr _ _ _ _ hspan (accepts_round hr htimes h))
    | lo + 2, count + 1, hlo, htimes =>
      obtain ⟨next, hspan, htimes⟩ := htimes
      exact accepts_of_way _ (.head _)
        (hr _ _ _ _ hspan (ih (lo + 1) (by omega) (by omega) htimes))

/-- A repetition with an upper bound. -/
theorem accepts_between {r : Regex} (hr : Continues r) {greedy : Bool} {lo hi count : Nat}
    {mid : Reading} {slots : Slots} (hlo : lo ≤ count) (hhi : count ≤ max lo hi)
    (htimes : Times r.Spans count m mid) (h : Accepts mid.toCursor ⟨k, mid.slots⟩ slots) :
    Accepts m.toCursor ⟨.tree (.rep greedy lo (some hi) r) :: k, m.slots⟩ slots := by
  induction count generalizing m lo hi with
  | zero =>
    obtain rfl := htimes
    obtain rfl : lo = 0 := by omega
    cases hi with
    | zero => exact accepts_of_way _ (.head _) h
    | succ hi => exact accepts_of_way _ (mem_choice.mpr (.inr rfl)) h
  | succ count ih =>
    obtain ⟨next, hspan, htimes⟩ := htimes
    cases lo with
    | zero =>
      obtain ⟨hi, rfl⟩ : ∃ h, hi = h + 1 := ⟨hi - 1, by omega⟩
      exact accepts_of_way _ (mem_choice.mpr (.inl rfl))
        (hr _ _ _ _ hspan (ih (by omega) (by omega) htimes))
    | succ lo =>
      refine accepts_of_way (.tree r ::
        .tree (.rep greedy lo (some (lo + (hi - (lo + 1)))) r) :: k) ?_
        (hr _ _ _ _ hspan (ih (by omega) (by omega) htimes))
      rw [ways]
      exact .head _

/-- After a span of a tree, a run of what follows is a run from the tree on. -/
theorem continues (r : Regex) : Continues r := by
  induction r with
  | empty =>
    rintro m _ k slots rfl h
    exact accepts_of_way _ (.head _) h
  | chars cls =>
    rintro m _ k slots ⟨c, cs, hrest, hc, rfl⟩ h
    exact .take hrest hc h
  | look a =>
    rintro m _ k slots ⟨hholds, rfl⟩ h
    refine accepts_of_way k ?_ h
    have hways : ways (Cursor.place _) (.tree (.look a) :: k) = [k] := if_pos hholds
    rw [hways]
    exact .head _
  | cat r s ihr ihs =>
    rintro m mid k slots ⟨inner, hr, hs⟩ h
    exact accepts_of_way _ (.head _) (ihr _ _ _ _ hr (ihs _ _ _ _ hs h))
  | alt r s ihr ihs =>
    rintro m mid k slots (hr | hs) h
    · exact accepts_of_way _ (.head _) (ihr _ _ _ _ hr h)
    · exact accepts_of_way _ (.tail _ (.head _)) (ihs _ _ _ _ hs h)
  | group i r ih =>
    rintro m _ k slots ⟨inner, hr, rfl⟩ h
    refine accepts_of_way (.tree r :: .close i :: k) (.head _)
      (ih (m.record (2 * i)) _ _ _ hr ?_)
    exact accepts_of_way k (.head _) h
  | rep greedy lo hi r ih =>
    rintro m mid k slots ⟨count, hlo, hhi, htimes⟩ h
    cases hi with
    | none => exact accepts_atLeast ih hlo htimes h
    | some hi => exact accepts_between ih hlo (hhi hi rfl) htimes h

/-- A span of the frames is a run of the thread. -/
theorem accepts_of_completes (h : Completes k m n) : Accepts m.toCursor ⟨k, m.slots⟩ n.slots := by
  induction k generalizing m with
  | nil =>
    obtain rfl := h
    exact .finish
  | cons f k ih =>
    cases f with
    | tree r =>
      obtain ⟨mid, hspan, h⟩ := h
      exact continues r _ _ _ _ hspan (ih h)
    | close i => exact accepts_of_way k (.head _) (ih (m := m.record (2 * i + 1)) h)
    | round greedy r =>
      obtain ⟨count, mid, htimes, h⟩ := h
      exact accepts_round (continues r) htimes (ih h)

/-- Frames are hopeless where they have no span. -/
theorem hopeless_of_not_completes {p : Cursor}
    (h : ∀ slots n, ¬Completes k ⟨p, slots⟩ n) : Hopeless p k := by
  intro before slots haccepts
  obtain ⟨n, hn, -⟩ := completes_of_accepts haccepts
  exact h before n hn

end Adequacy

end Parley
