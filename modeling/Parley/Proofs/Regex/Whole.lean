import Parley.Proofs.Regex.Span

/-!
# Matches of the whole of a text

A tree between the start and the end of the text matches what the tree alone matches as a whole. A
tree without assertions and groups does not see what is around the text that it matches, so that
its spans in a longer text are its matches of the parts.

## Main definitions

- `Regex.between` — a tree between the start and the end of the text
- `Regex.assertionFree`, `Regex.groupFree` — nothing in the tree depends on its surroundings

## Main results

- `Regex.isMatch_iff` — the search finds a match if and only if there is a span
- `Regex.searchSlots_between` — the match of a tree between the ends of the text
- `Regex.matchesWhole_iff` — what a tree matches on its own, it matches everywhere
-/

namespace Parley

namespace Regex

variable {r : Regex}

/-- The reading at the start of a match after some of the text. -/
def startReading (r : Regex) (text pre : List Char) : Reading :=
  ⟨(Cursor.start text).skip pre, r.startSlots pre.length⟩

/-- A run from the start of a match is a span. -/
theorem startsRun_iff {text : List Char} {slots : Slots} :
    r.StartsRun (.start text) slots ↔ ∃ pre post n, text = pre ++ post ∧
      r.Spans (r.startReading text pre) n ∧ slots = n.slots.set 1 (some n.index) := by
  have hindex : ∀ pre : List Char, ((Cursor.start text).skip pre).index = pre.length :=
    fun pre => Nat.zero_add _
  constructor
  · rintro ⟨pre, post, htext, haccepts⟩
    rw [hindex] at haccepts
    obtain ⟨_, ⟨n, hspan, rfl⟩, rfl⟩ := completes_of_accepts haccepts
    exact ⟨pre, post, n, htext, hspan, rfl⟩
  · rintro ⟨pre, post, n, htext, hspan, rfl⟩
    refine ⟨pre, post, htext, ?_⟩
    rw [hindex]
    exact accepts_of_completes (m := r.startReading text pre) (k := [.tree r, .close 0])
      ⟨n, hspan, rfl⟩

/-- The positions that the search gives are those of a span. -/
theorem searchSlots_eq_some {text : List Char} {slots : Slots}
    (h : r.searchSlots text = some slots) : ∃ pre post n, text = pre ++ post ∧
      r.Spans (r.startReading text pre) n ∧ slots = n.slots.set 1 (some n.index) :=
  startsRun_iff.mp (searchSlots_sound h)

/-- The search finds a match if and only if there is a span. -/
theorem isMatch_iff {text : List Char} :
    r.isMatch text ↔ ∃ pre post n, text = pre ++ post ∧ r.Spans (r.startReading text pre) n := by
  rw [isMatch]
  constructor
  · intro h
    obtain ⟨slots, hslots⟩ := Option.isSome_iff_exists.mp h
    obtain ⟨pre, post, n, htext, hspan, -⟩ := searchSlots_eq_some hslots
    exact ⟨pre, post, n, htext, hspan⟩
  · rintro ⟨pre, post, n, htext, hspan⟩
    cases hslots : r.searchSlots text with
    | some slots => rfl
    | none =>
      exact absurd (startsRun_iff.mpr ⟨pre, post, n, htext, hspan, rfl⟩)
        (searchSlots_complete hslots _)

/-- A tree between the start and the end of the text. -/
def between (r : Regex) : Regex :=
  cat (look .textStart) (cat r (look .textEnd))

theorem startSlots_between (r : Regex) (index : Nat) :
    r.between.startSlots index = r.startSlots index := by
  simp [startSlots, between, lastGroup]

/-- Only the start of the text has nothing before it. -/
theorem before_skip_isNone {text pre : List Char} :
    ((Cursor.start text).skip pre).before.isNone ↔ pre = [] := by
  simp [Cursor.skip, Cursor.start]

/-- A span between the ends of the text is a span of the whole of it. -/
theorem spans_between {text pre : List Char} {n : Reading} :
    r.between.Spans (r.between.startReading text pre) n ↔
      pre = [] ∧ r.Spans (r.startReading text []) n ∧ n.rest = [] := by
  have hstart : r.between.startReading text [] = r.startReading text [] := by
    rw [startReading, startSlots_between, startReading]
  constructor
  · rintro ⟨_, ⟨hbefore, rfl⟩, _, hspan, hafter, rfl⟩
    obtain rfl := before_skip_isNone.mp hbefore
    rw [hstart] at hspan
    exact ⟨rfl, hspan, by simpa [Assertion.holds] using hafter⟩
  · rintro ⟨rfl, hspan, hrest⟩
    rw [hstart]
    exact ⟨_, ⟨rfl, rfl⟩, n, hspan, by rw [hrest]; rfl, rfl⟩

/-- The match of a tree between the ends of the text is a span of the whole of it. -/
theorem searchSlots_between {text : List Char} {slots : Slots}
    (h : r.between.searchSlots text = some slots) :
    ∃ n, r.Spans (r.startReading text []) n ∧ n.rest = [] ∧
      slots = n.slots.set 1 (some n.index) := by
  obtain ⟨pre, post, n, -, hspan, hslots⟩ := searchSlots_eq_some h
  obtain ⟨-, hspan, hrest⟩ := spans_between.mp hspan
  exact ⟨n, hspan, hrest, hslots⟩

/-- There is a match between the ends of the text if and only if there is a span of the whole. -/
theorem isMatch_between {text : List Char} :
    r.between.isMatch text ↔ ∃ n, r.Spans (r.startReading text []) n ∧ n.rest = [] := by
  rw [isMatch_iff]
  constructor
  · rintro ⟨pre, post, n, -, hspan⟩
    exact ⟨n, (spans_between.mp hspan).2⟩
  · rintro ⟨n, hspan, hrest⟩
    exact ⟨[], text, n, rfl, spans_between.mpr ⟨rfl, hspan, hrest⟩⟩

/-- The tree has no assertion. -/
def assertionFree : Regex → Bool
  | empty | chars _ => true
  | look _ => false
  | cat r s | alt r s => r.assertionFree && s.assertionFree
  | group _ r | rep _ _ _ r => r.assertionFree

/-- The tree has no capturing group. -/
def groupFree : Regex → Bool
  | empty | chars _ | look _ => true
  | group _ _ => false
  | cat r s | alt r s => r.groupFree && s.groupFree
  | rep _ _ _ r => r.groupFree

theorem lastGroup_of_groupFree {r : Regex} (h : r.groupFree) : r.lastGroup = 0 := by
  induction r with
  | empty | chars | look => rfl
  | group => cases h
  | cat r s ihr ihs =>
    obtain ⟨hr, hs⟩ := Bool.and_eq_true_iff.mp h
    rw [lastGroup, ihr hr, ihs hs, Nat.max_self]
  | alt r s ihr ihs =>
    obtain ⟨hr, hs⟩ := Bool.and_eq_true_iff.mp h
    rw [lastGroup, ihr hr, ihs hs, Nat.max_self]
  | rep _ _ _ r ih => exact ih h

/-- A step over a text that is the same wherever the text stands. -/
def Carries (step : Reading → Reading → Prop) : Prop :=
  ∀ m n : Reading, step m n → ∃ w, m.rest = w ++ n.rest ∧ n = m.skip w ∧
    ∀ (m' : Reading) (rest : List Char), m'.rest = w ++ rest → step m' (m'.skip w)

/-- The text after the one that stands here. -/
theorem rest_skip {m : Reading} {w rest : List Char} (h : m.rest = w ++ rest) :
    (m.skip w).rest = rest := by
  rw [Reading.skip_toCursor, Cursor.skip_rest, h, List.drop_left]

/-- One step over a text after another. -/
theorem Carries.comp {step step' : Reading → Reading → Prop} (h : Carries step)
    (h' : Carries step') : Carries fun m n => ∃ mid, step m mid ∧ step' mid n := by
  rintro m n ⟨mid, hstep, hstep'⟩
  obtain ⟨v, hv, rfl, hsame⟩ := h _ _ hstep
  obtain ⟨w, hw, rfl, hsame'⟩ := h' _ _ hstep'
  refine ⟨v ++ w, by rw [hv, hw, List.append_assoc], (m.skip_append v w).symm, ?_⟩
  intro m' rest hrest
  rw [List.append_assoc] at hrest
  refine ⟨m'.skip v, hsame _ _ hrest, ?_⟩
  rw [m'.skip_append]
  exact hsame' _ _ (rest_skip hrest)

theorem Carries.times {step : Reading → Reading → Prop} (h : Carries step) (count : Nat) :
    Carries (Times step count) := by
  induction count with
  | zero =>
    rintro m _ rfl
    exact ⟨[], rfl, (Reading.skip_nil _).symm, fun m' _ _ => m'.skip_nil⟩
  | succ count ih => exact h.comp ih

/-- A tree without assertions and groups matches the same text wherever it stands. -/
theorem carries_spans (hassertion : r.assertionFree) (hgroup : r.groupFree) :
    Carries r.Spans := by
  induction r with
  | empty =>
    rintro m _ rfl
    exact ⟨[], rfl, (Reading.skip_nil _).symm, fun m' _ _ => m'.skip_nil⟩
  | chars k =>
    rintro m _ ⟨c, cs, hrest, hc, rfl⟩
    refine ⟨[c], by rw [rest_skip (w := [c]) hrest, hrest]; rfl, rfl, ?_⟩
    intro m' rest hrest'
    exact ⟨c, rest, hrest', hc, rfl⟩
  | look a => cases hassertion
  | cat r s ihr ihs =>
    simp only [assertionFree, groupFree, Bool.and_eq_true] at hassertion hgroup
    exact (ihr hassertion.1 hgroup.1).comp (ihs hassertion.2 hgroup.2)
  | alt r s ihr ihs =>
    simp only [assertionFree, groupFree, Bool.and_eq_true] at hassertion hgroup
    rintro m n (hr | hs)
    · obtain ⟨w, hw, hn, hsame⟩ := ihr hassertion.1 hgroup.1 _ _ hr
      exact ⟨w, hw, hn, fun m' _ h => .inl (hsame m' _ h)⟩
    · obtain ⟨w, hw, hn, hsame⟩ := ihs hassertion.2 hgroup.2 _ _ hs
      exact ⟨w, hw, hn, fun m' _ h => .inr (hsame m' _ h)⟩
  | group i r => cases hgroup
  | rep greedy lo hi r ih =>
    rintro m n ⟨count, hlo, hhi, htimes⟩
    obtain ⟨w, hw, hn, hsame⟩ := (ih hassertion hgroup).times count _ _ htimes
    exact ⟨w, hw, hn, fun m' _ h => ⟨count, hlo, hhi, hsame m' _ h⟩⟩

/-- What a tree without assertions and groups matches on its own, it matches everywhere. -/
theorem matchesWhole_iff (hassertion : r.assertionFree) (hgroup : r.groupFree) {m : Reading}
    {w rest : List Char} (hrest : m.rest = w ++ rest) :
    r.MatchesWhole w ↔ r.Spans m (m.skip w) := by
  constructor
  · rintro ⟨n, hspan, hn⟩
    obtain ⟨v, hv, -, hsame⟩ := carries_spans hassertion hgroup _ _ hspan
    obtain rfl : w = v := by rwa [hn, List.append_nil] at hv
    exact hsame m rest hrest
  · intro hspan
    obtain ⟨v, hv, -, hsame⟩ := carries_spans hassertion hgroup _ _ hspan
    rw [rest_skip hrest, hrest] at hv
    obtain rfl := List.append_cancel_right hv
    refine ⟨_, hsame ⟨.start w, r.startSlots 0⟩ [] (List.append_nil w).symm, ?_⟩
    exact rest_skip (m := ⟨.start w, r.startSlots 0⟩) (List.append_nil w).symm

/-- The spans of a tree without assertions and groups are over the texts that it matches. -/
theorem spans_iff (hassertion : r.assertionFree) (hgroup : r.groupFree) {m n : Reading} :
    r.Spans m n ↔ ∃ w, m.rest = w ++ n.rest ∧ n = m.skip w ∧ r.MatchesWhole w := by
  constructor
  · intro hspan
    obtain ⟨w, hw, rfl, -⟩ := carries_spans hassertion hgroup _ _ hspan
    exact ⟨w, hw, rfl, (matchesWhole_iff hassertion hgroup hw).mpr hspan⟩
  · rintro ⟨w, hw, rfl, hwhole⟩
    exact (matchesWhole_iff hassertion hgroup hw).mp hwhole

end Regex

end Parley
