import Parley.Proofs.Regex.Whole

/-!
# Spans of common trees

The spans of trees that patterns are mostly made of: characters in order, groups, and repetitions
of characters of a class.

## Main definitions

- `Reading.capture` — a text recorded as that of a group

## Main results

- `Regex.spans_cats_cons`, `Regex.spans_cats_chars` — the spans of trees in order
- `Regex.spans_group` — a group captures the texts that its tree matches on its own
- `Regex.matchesWhole_rep_chars` — a repetition of characters matches texts of them
-/

namespace Parley

namespace Reading

/-- A text that stands here, as the text of a group. -/
def capture (m : Reading) (group : Nat) (w : List Char) : Reading :=
  ((m.record (2 * group)).skip w).record (2 * group + 1)

@[simp]
theorem capture_toCursor (m : Reading) (group : Nat) (w : List Char) :
    (m.capture group w).toCursor = m.toCursor.skip w :=
  rfl

theorem capture_slots (m : Reading) (group : Nat) (w : List Char) :
    (m.capture group w).slots =
      (m.slots.set (2 * group) (some m.index)).set (2 * group + 1) (some (m.index + w.length)) :=
  rfl

end Reading

/-- A single character is the only one of its class. -/
theorem CharClass.contains_single {c d : Char} : (single c).contains d ↔ d = c := by
  rw [single, contains, Bool.and_eq_true, decide_eq_true_iff, decide_eq_true_iff]
  constructor
  · rintro ⟨hcd, hdc⟩
    exact Char.le_antisymm hdc hcd
  · rintro rfl
    exact ⟨Char.le_refl d, Char.le_refl d⟩

/-- All characters but one are in the other class. -/
theorem CharClass.contains_compl_single {c d : Char} : (compl (single c)).contains d ↔ d ≠ c := by
  rw [contains, Bool.not_eq_true', ← Bool.not_eq_true, contains_single]

namespace Regex

variable {r : Regex} {m n : Reading}

/-- The trees in order match one after the other. -/
theorem spans_cats_cons {rs : List Regex} :
    (cats (r :: rs)).Spans m n ↔ ∃ mid, r.Spans m mid ∧ (cats rs).Spans mid n := by
  cases rs with
  | nil => exact ⟨fun h => ⟨n, h, rfl⟩, fun ⟨_, h, heq⟩ => heq ▸ h⟩
  | cons s rs => exact Iff.rfl

/-- Characters in order match the text that they are. -/
theorem spans_cats_chars {text : List Char} {rs : List Regex} :
    (cats (text.map char ++ rs)).Spans m n ↔
      ∃ rest, m.rest = text ++ rest ∧ (cats rs).Spans (m.skip text) n := by
  induction text generalizing m with
  | nil => simp
  | cons c cs ih =>
    rw [List.map_cons, List.cons_append, spans_cats_cons]
    constructor
    · rintro ⟨_, ⟨d, ds, hrest, hd, rfl⟩, hspan⟩
      obtain rfl := CharClass.contains_single.mp hd
      obtain ⟨rest, hds, hspan⟩ := ih.mp hspan
      rw [rest_skip (w := [d]) hrest] at hds
      refine ⟨rest, by rw [hrest, hds]; rfl, ?_⟩
      rwa [← m.skip_append] at hspan
    · rintro ⟨rest, hrest, hspan⟩
      refine ⟨m.skip [c], ⟨c, cs ++ rest, hrest, CharClass.contains_single.mpr rfl, rfl⟩, ?_⟩
      refine ih.mpr ⟨rest, rest_skip (w := [c]) hrest, ?_⟩
      rwa [← m.skip_append]

/-- Characters in order match no other text. -/
theorem matchesWhole_chars {text w : List Char} :
    (cats (text.map char)).MatchesWhole w ↔ w = text := by
  rw [← List.append_nil (text.map char)]
  constructor
  · rintro ⟨n, hspan, hend⟩
    obtain ⟨rest, hrest, rfl⟩ := spans_cats_chars.mp hspan
    rw [rest_skip hrest] at hend
    rw [← List.append_nil text, ← hend]
    exact hrest
  · rintro rfl
    have hrest : (Reading.mk (.start w) ((cats (w.map char ++ [])).startSlots 0)).rest = w ++ [] :=
      (List.append_nil w).symm
    exact ⟨_, spans_cats_chars.mpr ⟨[], hrest, rfl⟩, rest_skip hrest⟩

/-- A group without assertions and groups inside captures the texts that it matches. -/
theorem spans_group (hassertion : r.assertionFree) (hgroup : r.groupFree) {i : Nat} :
    (group i r).Spans m n ↔
      ∃ w, m.rest = w ++ n.rest ∧ n = m.capture i w ∧ r.MatchesWhole w := by
  constructor
  · rintro ⟨_, hspan, rfl⟩
    obtain ⟨w, hrest, rfl, hwhole⟩ := (spans_iff hassertion hgroup).mp hspan
    exact ⟨w, hrest, rfl, hwhole⟩
  · rintro ⟨w, hrest, rfl, hwhole⟩
    exact ⟨(m.record (2 * i)).skip w,
      (spans_iff hassertion hgroup).mpr ⟨w, hrest, rfl, hwhole⟩, rfl⟩

/-- Characters of a class, so many of them. -/
theorem times_chars {k : CharClass} {count : Nat} :
    Times (chars k).Spans count m n ↔ ∃ w, w.length = count ∧ m.rest = w ++ n.rest ∧
      n = m.skip w ∧ ∀ c ∈ w, k.contains c := by
  induction count generalizing m with
  | zero =>
    constructor
    · rintro rfl
      exact ⟨[], rfl, rfl, n.skip_nil.symm, fun _ hc => nomatch hc⟩
    · rintro ⟨w, hw, -, rfl, -⟩
      obtain rfl := List.length_eq_zero_iff.mp hw
      exact m.skip_nil
  | succ count ih =>
    constructor
    · rintro ⟨_, ⟨c, cs, hrest, hc, rfl⟩, htimes⟩
      obtain ⟨w, hlength, hcs, rfl, hw⟩ := ih.mp htimes
      rw [rest_skip (w := [c]) hrest] at hcs
      refine ⟨c :: w, by rw [List.length_cons, hlength], by rw [hrest, hcs]; rfl,
        (m.skip_append [c] w).symm, ?_⟩
      intro d hd
      rcases List.mem_cons.mp hd with rfl | hd
      · exact hc
      · exact hw d hd
    · rintro ⟨w, hlength, hrest, hn, hw⟩
      obtain ⟨c, w, rfl⟩ := List.exists_cons_of_length_eq_add_one hlength
      have hnext : (m.skip [c]).rest = w ++ n.rest := rest_skip (w := [c]) hrest
      refine ⟨m.skip [c], ⟨c, _, hrest, hw c (.head _), rfl⟩, ih.mpr ⟨w, ?_, hnext, ?_, ?_⟩⟩
      · exact Nat.succ.inj hlength
      · rw [hn, ← m.skip_append]
        rfl
      · exact fun d hd => hw d (.tail _ hd)

/-- A repetition of characters of a class matches any text of them that is long enough. -/
theorem matchesWhole_rep_chars {greedy : Bool} {lo : Nat} {k : CharClass} {w : List Char} :
    (rep greedy lo none (chars k)).MatchesWhole w ↔ lo ≤ w.length ∧ ∀ c ∈ w, k.contains c := by
  constructor
  · rintro ⟨n, ⟨count, hlo, -, htimes⟩, hend⟩
    obtain ⟨v, rfl, hrest, -, hv⟩ := times_chars.mp htimes
    rw [hend, List.append_nil] at hrest
    obtain rfl : w = v := hrest
    exact ⟨hlo, hv⟩
  · rintro ⟨hlo, hw⟩
    let m : Reading := ⟨.start w, (rep greedy lo none (chars k)).startSlots 0⟩
    have hrest : m.rest = w ++ [] := (List.append_nil w).symm
    have hend : (m.skip w).rest = [] := rest_skip hrest
    have htimes : Times (chars k).Spans w.length m (m.skip w) :=
      times_chars.mpr ⟨w, rfl, by rw [hend]; exact hrest, rfl, hw⟩
    exact ⟨m.skip w, ⟨w.length, hlo, by simp, htimes⟩, hend⟩

end Regex

end Parley
