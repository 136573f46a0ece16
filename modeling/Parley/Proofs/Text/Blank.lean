import Parley.Text.Blank

/-!
# Words between blanks

## Main definitions

- `Separated` — what the words of a text are

## Main results

- `separated_iff` — the words of a text are found
- `Separated.isWord` — words hold no blanks
- `words_append_blank` — the words before a blank, and those after it
-/

namespace Parley.Text

/-- The words stand in the text in this order, with blanks between them and nothing else. -/
inductive Separated : List Char → List (List Char) → Prop
  | nil : Separated [] []
  | blank {c : Char} {s : List Char} {ws : List (List Char)} (hc : isBlank c = true)
      (later : Separated s ws) : Separated (c :: s) ws
  | word {w s : List Char} {ws : List (List Char)} (hne : w ≠ [])
      (hword : ∀ c ∈ w, isBlank c = false) (hend : ∀ c ∈ s.head?, isBlank c = true)
      (later : Separated s ws) : Separated (w ++ s) (w :: ws)

theorem Separated.isWord {s : List Char} {ws : List (List Char)} (h : Separated s ws) :
    ∀ w ∈ ws, w ≠ [] ∧ ∀ c ∈ w, isBlank c = false := by
  induction h with
  | nil => simp
  | blank hc later ih => exact ih
  | word hne hword hend later ih =>
    intro w hw
    rcases List.mem_cons.1 hw with rfl | hw
    · exact ⟨hne, hword⟩
    · exact ih w hw

theorem separated_wordsFrom (s word : List Char)
    (hword : ∀ c ∈ word, isBlank c = false) : Separated (word.reverse ++ s) (wordsFrom s word) := by
  induction s generalizing word with
  | nil =>
    cases word with
    | nil => exact .nil
    | cons c word =>
      exact .word (by simp) (fun d hd => hword d (List.mem_reverse.1 hd)) (by simp) .nil
  | cons c s ih =>
    by_cases hc : isBlank c = true
    · have hlater : Separated s (wordsFrom s []) := ih [] (by simp)
      rw [wordsFrom, if_pos hc]
      cases word with
      | nil => exact .blank hc hlater
      | cons d word =>
        refine .word (by simp) (fun d hd => hword d (List.mem_reverse.1 hd)) ?_ (.blank hc hlater)
        intro d hd
        obtain rfl := Option.some.inj hd
        exact hc
    · have hshift : word.reverse ++ c :: s = (c :: word).reverse ++ s := by simp
      rw [wordsFrom, if_neg hc, hshift]
      refine ih (c :: word) ?_
      intro d hd
      rcases List.mem_cons.1 hd with rfl | hd
      · simpa using hc
      · exact hword d hd

theorem wordsFrom_append {w : List Char} (hw : ∀ c ∈ w, isBlank c = false) (s word : List Char) :
    wordsFrom (w ++ s) word = wordsFrom s (w.reverse ++ word) := by
  induction w generalizing word with
  | nil => rfl
  | cons c w ih =>
    have hc : ¬ isBlank c = true := by simp [hw c List.mem_cons_self]
    rw [List.cons_append, wordsFrom, if_neg hc, ih (fun d hd => hw d (List.mem_cons_of_mem c hd))]
    simp

/-- The words of a text are the runs of characters between its blanks. -/
theorem separated_iff {s : List Char} {ws : List (List Char)} :
    Separated s ws ↔ words s = ws := by
  constructor
  · intro h
    induction h with
    | nil => rfl
    | blank hc later ih =>
      rw [words, wordsFrom, if_pos hc]
      exact ih
    | @word w s ws hne hword hend later ih =>
      have hfull : w.reverse.isEmpty = false := by simpa using hne
      rw [words, wordsFrom_append hword, List.append_nil]
      cases s with
      | nil =>
        rw [wordsFrom, hfull, if_neg Bool.false_ne_true, List.reverse_reverse, ← ih]
        rfl
      | cons c s =>
        have hc := hend c rfl
        rw [words, wordsFrom, if_pos hc] at ih
        rw [wordsFrom, if_pos hc, hfull, if_neg Bool.false_ne_true, List.reverse_reverse, ← ih]
        rfl
  · rintro rfl
    exact separated_wordsFrom s [] (by simp)

theorem separated_words (s : List Char) : Separated s (words s) :=
  separated_iff.2 rfl

theorem Separated.mem {s : List Char} {ws : List (List Char)} (h : Separated s ws) {w : List Char}
    (hw : w ∈ ws) {c : Char} (hc : c ∈ w) : c ∈ s := by
  induction h with
  | nil => cases hw
  | blank _ _ ih => exact List.mem_cons_of_mem _ (ih hw)
  | word _ _ _ _ ih =>
    rcases List.mem_cons.1 hw with rfl | hw
    · exact List.mem_append_left _ hc
    · exact List.mem_append_right _ (ih hw)

/-- A blank ends a word, so that the text after it has words of its own. -/
theorem Separated.append_blank {s t : List Char} {ws vs : List (List Char)} (h : Separated s ws)
    (h' : Separated t vs) {c : Char} (hc : isBlank c = true) :
    Separated (s ++ c :: t) (ws ++ vs) := by
  induction h with
  | nil => exact .blank hc h'
  | blank hd _ ih => exact .blank hd ih
  | @word w s ws hne hword hend later ih =>
    rw [List.append_assoc]
    refine .word hne hword ?_ ih
    cases s with
    | nil =>
      rintro d ⟨⟩
      exact hc
    | cons d s => exact hend

theorem words_append_blank (s t : List Char) {c : Char} (hc : isBlank c = true) :
    words (s ++ c :: t) = words s ++ words t :=
  separated_iff.1 ((separated_words s).append_blank (separated_words t) hc)

theorem words_cons_blank (s : List Char) {c : Char} (hc : isBlank c = true) :
    words (c :: s) = words s :=
  separated_iff.1 (.blank hc (separated_words s))

end Parley.Text
