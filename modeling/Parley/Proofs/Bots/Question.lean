import Parley.Proofs.Bots.Wording
import Parley.Proofs.Value.Conversion

/-!
# Questions to the arithmetic bot

Two numbers in decimal digits with a sign or words between them. A question reaches the handler of
its wording with its two numbers, unless there is an answer of its own for it, or it is stolen: the
minus sign of a negative second number is read as the sign of a difference by the handler of
differences, and it has its turn before those of sums and products.

## Main definitions

- `Spelling`, `question` — what a question may look like
- `Wording.special?` — the wordings in which two and two have an answer of their own
- `Wording.Stolen` — the wordings in which a negative second number misleads
- `Answered` — what comes of a question

## Main results

- `special_of_accepts`, `marked_of_accepts` — the handlers that do not accept a question
- `matchText_question`, `matchText_stolen` — what is captured from it
- `question_reaches_its_operation` — what comes of it
-/

namespace Parley.MathWiz

open Regex

variable {γ : Type}

-- ════════════════════════════════════════════════════════════════════════
-- Written numbers
-- ════════════════════════════════════════════════════════════════════════

/-- The digits of a number without its sign. -/
def magnitude (n : Int32) : List Char :=
  Nat.toDigits 10 n.toInt.natAbs

theorem toList_digits (n : Int32) :
    (digits n).toList = (if n.toInt < 0 then ['-'] else []) ++ magnitude n :=
  toList_toString n.toInt

theorem isDigit_of_mem_magnitude {n : Int32} {c : Char} (hc : c ∈ magnitude n) :
    c.isDigit = true :=
  isDigit_of_mem_toDigits hc

theorem magnitude_ne_nil (n : Int32) : magnitude n ≠ [] :=
  Nat.toDigits_ne_nil

theorem digits_ne_nil (n : Int32) : (digits n).toList ≠ [] := by
  rw [toList_digits]
  exact List.append_ne_nil_of_right_ne_nil _ (magnitude_ne_nil n)

theorem mem_digits {n : Int32} {c : Char} (hc : c ∈ (digits n).toList) :
    c.isDigit = true ∨ c = '-' ∧ n.toInt < 0 := by
  rw [toList_digits, List.mem_append] at hc
  rcases hc with hc | hc
  · split at hc
    · next hn => exact .inr ⟨List.mem_singleton.1 hc, hn⟩
    · cases hc
  · exact .inl (isDigit_of_mem_magnitude hc)

/-- Only the first character of a number can be something else than a digit. -/
theorem isDigit_of_mem_tail {n : Int32} {c : Char} (hc : c ∈ (digits n).toList.tail) :
    c.isDigit = true := by
  rw [toList_digits] at hc
  split at hc
  · exact isDigit_of_mem_magnitude hc
  · exact isDigit_of_mem_magnitude (List.mem_of_mem_tail hc)

theorem not_mem_digits {n : Int32} {c : Char} (hdigit : c.isDigit = false) (hminus : c ≠ '-') :
    c ∉ (digits n).toList := by
  intro hc
  rcases mem_digits hc with h | h
  · rw [hdigit] at h
    cases h
  · exact hminus h.1

theorem isBlank_of_mem_digits {n : Int32} {c : Char} (hc : c ∈ (digits n).toList) :
    Text.isBlank c = false := by
  rcases mem_digits hc with h | ⟨rfl, -⟩
  · exact Text.isBlank_of_isDigit h
  · decide

theorem convert_digits (n : Int32) : convert (some (digits n)) .int = .ok (.int n) :=
  (fromNumerals_int.ok_iff _ n).2 (isNumeralOf_toString n.toInt)

theorem digits_injective {a b : Int32} (h : (digits a).toList = (digits b).toList) : a = b := by
  have ha := convert_digits a
  rw [String.toList_inj.1 h, convert_digits b] at ha
  cases ha
  rfl

-- ════════════════════════════════════════════════════════════════════════
-- Questions
-- ════════════════════════════════════════════════════════════════════════

/-- The signs of questions. -/
inductive Sign
  | cross
  | star
  | plus
  | minus
  | slash
  deriving Repr, DecidableEq

namespace Sign

/-- The character that the sign is. -/
def char : Sign → Char
  | cross => 'x'
  | star => '*'
  | plus => '+'
  | minus => '-'
  | slash => '/'

/-- The operation that the sign stands for. -/
def operation : Sign → Operation
  | cross | star => .times
  | plus => .plus
  | minus => .minus
  | slash => .divided

theorem char_mem_signs (s : Sign) : s.char ∈ s.operation.signs := by
  cases s <;> decide

end Sign

/-- What stands between the numbers of a question: a sign, with a blank before it or not and one
after it or not, or words. -/
inductive Spelling
  | sign (s : Sign) (before after : Bool)
  | words (op : Operation)
  deriving Repr, DecidableEq

namespace Spelling

/-- The wording that the question is meant for. -/
def wording : Spelling → Wording
  | sign s _ _ => .sign s.operation
  | words op => .words op

/-- The text between the numbers. -/
def text : Spelling → String
  | sign s before after =>
    (if before then " " else "") ++ String.singleton s.char ++ (if after then " " else "")
  | words op => op.words

/-- The text between the numbers without a blank at its end. -/
def stem : Spelling → List Char
  | sign s before _ => Wording.blank before ++ [s.char]
  | words op => op.words.toList.dropLast

/-- Whether there is a blank at the end. -/
def spaced : Spelling → Bool
  | sign _ _ after => after
  | words _ => true

theorem toList_text (sp : Spelling) : sp.text.toList = sp.stem ++ Wording.blank sp.spaced := by
  cases sp with
  | sign s before after =>
    cases before <;> cases after <;> simp [text, stem, spaced, Wording.blank]
  | words op => cases op <;> decide +kernel

end Spelling

/-- The question about two numbers. -/
def question (a b : Int32) (sp : Spelling) : String :=
  "what is " ++ digits a ++ sp.text ++ digits b

theorem question_eq (a b : Int32) (sp : Spelling) :
    question a b sp =
      String.ofList (front ++ ((digits a).toList ++ (sp.text.toList ++ (digits b).toList))) := by
  have happend (w : String) : (w ++ digits a ++ sp.text ++ digits b).toList =
      w.toList ++ ((digits a).toList ++ (sp.text.toList ++ (digits b).toList)) := by
    simp only [String.toList_append, List.append_assoc]
  exact String.toList_inj.1 ((happend "what is ").trans String.toList_ofList.symm)

/-- The special case that the wording has if both numbers are two. -/
def Wording.special? : Wording → Option Special
  | .sign .times => some .product
  | .sign .plus => some .sum
  | _ => none

/-- The minus sign of the second number is taken for the sign of a difference. -/
def Wording.Stolen (w : Wording) (b : Int32) : Prop :=
  b.toInt < 0 ∧ w.operation ≠ .divided ∧ w ≠ .sign .minus

/-- Whether a character by which the operation of the wording can be told is in the text between
the numbers, or before the digits of the second one. -/
def Spelling.Marked (sp : Spelling) (negative : Bool) (w : Wording) : Bool :=
  w.marks.any fun c => sp.text.toList.contains c || (negative && c == '-')

/-- The first handler of an operation whose wording is marked. -/
def Wording.reached (w : Wording) (negative : Bool) : Wording :=
  if negative = true ∧ w.operation ≠ .divided ∧ w ≠ .sign .minus then .sign .minus else w

theorem find?_marked (sp : Spelling) (negative : Bool) :
    Wording.all.find? (sp.Marked negative) = some (sp.wording.reached negative) := by
  cases sp with
  | sign s before after =>
    cases s <;> cases before <;> cases after <;> cases negative <;> decide +kernel
  | words op => cases op <;> cases negative <;> decide +kernel

-- ════════════════════════════════════════════════════════════════════════
-- Handlers that do not accept a question
-- ════════════════════════════════════════════════════════════════════════

variable {a b : Int32} {sp : Spelling} {w : Wording} {x : Special}

theorem not_isDigit_of_mem_marks {c : Char} (hc : c ∈ w.marks) : c.isDigit = false := by
  have hall : (w.marks.all fun c => !c.isDigit) = true := by
    cases w with
    | sign op | words op => cases op <;> decide
  simpa using List.all_eq_true.1 hall c hc

/-- A handler of an operation accepts a question only if its wording is marked in it. -/
theorem marked_of_accepts (h : w.facetPattern.accepts (some (question a b sp)) = true) :
    sp.Marked (b.toInt < 0) w = true := by
  rw [question_eq] at h
  obtain ⟨c, hmark, hc⟩ := Wording.exists_mark_of_accepts h
  have hdigit := not_isDigit_of_mem_marks hmark
  rw [List.tail_append_of_ne_nil (digits_ne_nil a), List.mem_append, List.mem_append] at hc
  refine List.any_eq_true.2 ⟨c, hmark, ?_⟩
  rw [Bool.or_eq_true, List.contains_iff_mem, Bool.and_eq_true, decide_eq_true_eq, beq_iff_eq]
  rcases hc with hc | hc | hc
  · rw [isDigit_of_mem_tail hc] at hdigit
    cases hdigit
  · exact .inl hc
  · rcases mem_digits hc with h | ⟨rfl, hb⟩
    · rw [h] at hdigit
      cases hdigit
    · exact .inr ⟨hb, rfl⟩

theorem eq_blank_of_mem_blank {spaced : Bool} {c : Char} (hc : c ∈ Wording.blank spaced) :
    c = ' ' := by
  cases spaced with
  | false => cases hc
  | true => exact List.mem_singleton.1 hc

/-- The text between the numbers is more than blanks and digits. -/
theorem getLast?_stem (sp : Spelling) :
    ∃ c, sp.stem.getLast? = some c ∧ Text.isBlank c = false ∧ c.isDigit = false := by
  cases sp with
  | sign s before after =>
    refine ⟨s.char, by simp [Spelling.stem], ?_⟩
    cases s <;> decide
  | words op => cases op <;> exact ⟨_, rfl, by decide⟩

theorem operation_of_char_mem_signs {s : Sign} (h : s.char ∈ x.operation.signs) :
    s.operation = x.operation := by
  revert h
  cases x <;> cases s <;> decide

/-- A sign between the numbers of a special case is the sign of the question. -/
theorem eq_sign_of_mem_text {c : Char} (hc : c ∈ x.operation.signs) (hmem : c ∈ sp.text.toList) :
    ∃ s before after, sp = .sign s before after ∧ s.char = c ∧ s.operation = x.operation := by
  cases sp with
  | sign s before after =>
    have hblank : ∀ spaced, c ∉ Wording.blank spaced := fun spaced h =>
      (Operation.not_isDigit_of_mem_signs hc).2 (eq_blank_of_mem_blank h)
    obtain rfl : c = s.char := by
      simpa [Spelling.toList_text, Spelling.stem, hblank] using hmem
    exact ⟨s, before, after, rfl, rfl, operation_of_char_mem_signs hc⟩
  | words op =>
    have hall : (x.operation.signs.all fun c => !op.words.toList.contains c) = true := by
      cases x <;> cases op <;> decide
    have hnot : c ∉ op.words.toList := by simpa using List.all_eq_true.1 hall c hc
    exact absurd hmem hnot

/-- Blanks around a text without blanks do not change it. -/
theorem eq_of_blanks {v w : List Char} (hv : ' ' ∉ v) (hw : ' ' ∉ w)
    {before after before' after' : Bool}
    (h : Wording.blank before ++ (v ++ Wording.blank after) =
      Wording.blank before' ++ (w ++ Wording.blank after')) : v = w := by
  have hfilter : ∀ {t : List Char}, ' ' ∉ t → t.filter (· ≠ ' ') = t := fun ht =>
    List.filter_eq_self.2 fun c hc => decide_eq_true fun heq => ht (heq ▸ hc)
  have hnone : ∀ spaced, (Wording.blank spaced).filter (· ≠ ' ') = [] := fun spaced =>
    List.filter_eq_nil_iff.2 fun c hc => by simp [eq_blank_of_mem_blank hc]
  have h := congrArg (List.filter (· ≠ ' ')) h
  simpa only [List.filter_append, hnone, hfilter hv, hfilter hw, List.nil_append,
    List.append_nil] using h

theorem ne_minus_of_mem_signs {c : Char} (hc : c ∈ x.operation.signs) : c ≠ '-' := by
  have hall : (x.operation.signs.all fun c => c != '-') = true := by cases x <;> decide
  simpa using List.all_eq_true.1 hall c hc

theorem blank_not_mem_digits (n : Int32) : ' ' ∉ (digits n).toList :=
  not_mem_digits (by decide) (by decide)

/-- Two numbers around one sign are two and two if they are so written. -/
theorem eq_two_of_digits {before after before' after' : Bool} {c : Char} {remainder : List Char}
    (hdigit : c.isDigit = false) (hminus : c ≠ '-') (hblank : c ≠ ' ')
    (hremainder : IsRemainder remainder)
    (h : (digits a).toList ++ (Wording.blank before ++ ([c] ++ Wording.blank after) ++
        (digits b).toList) =
      '2' :: (Wording.blank before' ++ ([c] ++ Wording.blank after') ++ '2' :: remainder)) :
    a = 2 ∧ b = 2 := by
  have htwo : (digits 2).toList = ['2'] := by decide
  have hnot : ∀ spaced, c ∉ Wording.blank spaced := fun spaced hc =>
    hblank (eq_blank_of_mem_blank hc)
  have hnumber : ∀ n, c ∉ (digits n).toList := fun n => not_mem_digits hdigit hminus
  have hsplit : ((digits a).toList ++ Wording.blank before) ++ c ::
        (Wording.blank after ++ (digits b).toList) =
      ('2' :: Wording.blank before') ++ c :: (Wording.blank after' ++ '2' :: remainder) := by
    simpa using h
  obtain ⟨hfirst, -, hsecond⟩ := (List.append_cons_inj_of_notMem
    (by simp [hnot, hnumber]) (by simp [hnot, hnumber])).1 hsplit
  obtain rfl : remainder = [] := by
    refine hremainder.resolve_right ?_
    rintro ⟨line, rfl, -⟩
    have hslash : '/' ∈ Wording.blank after ++ (digits b).toList := by
      rw [hsecond]
      simp
    rcases List.mem_append.1 hslash with hslash | hslash
    · exact absurd (eq_blank_of_mem_blank hslash) (by decide)
    · exact not_mem_digits (by decide) (by decide) hslash
  have ha : Wording.blank false ++ ((digits a).toList ++ Wording.blank before) =
      Wording.blank false ++ ((digits 2).toList ++ Wording.blank before') := by
    rw [htwo]
    exact hfirst
  have hb : Wording.blank after ++ ((digits b).toList ++ Wording.blank false) =
      Wording.blank after' ++ ((digits 2).toList ++ Wording.blank false) := by
    rw [htwo]
    simpa [Wording.blank] using hsecond
  exact ⟨digits_injective (eq_of_blanks (blank_not_mem_digits a) (blank_not_mem_digits 2) ha),
    digits_injective (eq_of_blanks (blank_not_mem_digits b) (blank_not_mem_digits 2) hb)⟩

/-- A special handler accepts a question about two and two only. -/
theorem special_of_accepts (h : x.facetPattern.accepts (some (question a b sp)) = true) :
    a = 2 ∧ b = 2 ∧ sp.wording = .sign x.operation := by
  rw [question_eq] at h
  rcases Special.cases_of_accepts h with ⟨_, remainder, ⟨before', after', c, hc, rfl⟩,
    hremainder, hs⟩ | hall
  · obtain ⟨hdigit, hblank⟩ := Operation.not_isDigit_of_mem_signs hc
    have hminus := ne_minus_of_mem_signs hc
    -- the sign is not in the numbers
    have htext : c ∈ sp.text.toList := by
      have hmem : c ∈ (digits a).toList ++ (sp.text.toList ++ (digits b).toList) := by
        rw [hs]
        simp
      rcases List.mem_append.1 hmem with hmem | hmem
      · exact absurd hmem (not_mem_digits hdigit hminus)
      · exact (List.mem_append.1 hmem).resolve_right (not_mem_digits hdigit hminus)
    obtain ⟨s, before, after, rfl, rfl, hop⟩ := eq_sign_of_mem_text hc htext
    rw [Spelling.toList_text, Spelling.stem, Spelling.spaced, List.append_assoc _ [s.char]] at hs
    obtain ⟨rfl, rfl⟩ := eq_two_of_digits hdigit hminus hblank hremainder hs
    exact ⟨rfl, rfl, congrArg Wording.sign hop⟩
  · obtain ⟨c, hc, hblank, hdigit⟩ := getLast?_stem sp
    have hmem : c ∈ (digits a).toList ++ (sp.text.toList ++ (digits b).toList) := by
      rw [Spelling.toList_text]
      simp [List.mem_of_getLast? hc]
    rcases hall c hmem with rfl | rfl
    · cases hdigit
    · cases hblank

-- ════════════════════════════════════════════════════════════════════════
-- What is captured
-- ════════════════════════════════════════════════════════════════════════

theorem Wording.variableNames_template (w : Wording) : w.template.variableNames = ["a", "b"] :=
  rfl

theorem lastGroup_pairTree (w : Wording) : (Template.pairTree front w.trees).lastGroup = 3 := by
  cases w with
  | sign op | words op => cases op <;> decide +kernel

theorem head?_ne_blank {s : List Char} (hs : ' ' ∉ s) : s.head? ≠ some ' ' :=
  fun h => hs (List.mem_of_head? h)

theorem takes_text (sp : Spelling) {u : List Char} (hu : ' ' ∉ u) :
    Takes sp.wording.trees sp.text.toList u := by
  cases sp with
  | sign s before after =>
    rw [Spelling.toList_text, Spelling.stem, List.append_assoc]
    exact Wording.takes_sign s.char_mem_signs before after (head?_ne_blank hu)
  | words op => exact takes_chars _ u

/-- What stands between two numbers is not found within the first one. -/
theorem not_separates_of_digits {c after rest y : List Char}
    (ha : (digits a).toList = c ++ after) (hc : c ≠ []) (hafter : after ≠ [])
    (hy : w.Separates y) : ¬y <+: after ++ rest := by
  obtain ⟨d, t, rfl, hdigit⟩ := Wording.exists_cons hy
  obtain ⟨e, after, rfl⟩ := List.exists_cons_of_ne_nil hafter
  rw [List.cons_append, List.cons_prefix_cons]
  rintro ⟨rfl, -⟩
  have htail : d ∈ (digits a).toList.tail := by
    rw [ha, List.tail_append_of_ne_nil hc]
    exact List.mem_append_right _ List.mem_cons_self
  rw [isDigit_of_mem_tail htail] at hdigit
  cases hdigit

/-- The handler of the wording captures both numbers from a question. -/
theorem matchText_question (a b : Int32) (sp : Spelling) :
    sp.wording.template.matchText (question a b sp) =
      some ⟨[("a", digits a), ("b", digits b)], ""⟩ := by
  have hvalue : ∀ n, (digits n).toList ≠ [] ∧ '/' ∉ (digits n).toList := fun n =>
    ⟨digits_ne_nil n, not_mem_digits (by decide) (by decide)⟩
  have hmatch := Template.matchText_of_takes (t := sp.wording.template) (hvalue a) (hvalue b)
    sp.wording.reads_trees (takes_text sp (blank_not_mem_digits b))
    (fun c after ha hc hafter y hy => not_separates_of_digits ha hc hafter hy)
    rfl (lastGroup_pairTree sp.wording) sp.wording.variableNames_template
  rwa [String.ofList_toList, String.ofList_toList, ← question_eq] at hmatch

theorem mem_stem {c : Char} (hdivided : sp.wording.operation ≠ .divided)
    (hminus : sp.wording ≠ .sign .minus) (hc : c ∈ sp.stem) : c ≠ '/' ∧ c ≠ '-' := by
  have hall : (sp.stem.all fun c => c != '/' && c != '-') = true := by
    cases sp with
    | sign s before after =>
      cases s with
      | minus => exact absurd rfl hminus
      | slash => exact absurd rfl hdivided
      | cross | star | plus => cases before <;> cases after <;> decide
    | words op => cases op <;> decide
  simpa using List.all_eq_true.1 hall c hc

/-- The sign of a difference is not found before the sign of the second number. -/
theorem not_separates_of_stem (hdivided : sp.wording.operation ≠ .divided)
    (hminus : sp.wording ≠ .sign .minus) {c after rest y : List Char}
    (hv : (digits a).toList ++ sp.stem = c ++ after) (hc : c ≠ []) (hafter : after ≠ [])
    (hy : (Wording.sign .minus).Separates y) : ¬y <+: after ++ rest := by
  obtain ⟨before, after', d, hd, rfl⟩ := hy
  obtain rfl : d = '-' := List.mem_singleton.1 hd
  have hnone : '-' ∉ after := by
    intro hmem
    have htail : '-' ∈ ((digits a).toList ++ sp.stem).tail := by
      rw [hv, List.tail_append_of_ne_nil hc]
      exact List.mem_append_right _ hmem
    rw [List.tail_append_of_ne_nil (digits_ne_nil a)] at htail
    rcases List.mem_append.1 htail with h | h
    · exact absurd (isDigit_of_mem_tail h) (by decide)
    · exact (mem_stem hdivided hminus h).2 rfl
  obtain ⟨e, after, rfl⟩ := List.exists_cons_of_ne_nil hafter
  cases before with
  | false =>
    rw [List.cons_append]
    intro hprefix
    obtain ⟨rfl, -⟩ := List.cons_prefix_cons.1 hprefix
    exact hnone List.mem_cons_self
  | true =>
    rw [List.cons_append]
    intro hprefix
    obtain ⟨rfl, hrest⟩ := List.cons_prefix_cons.1 hprefix
    cases after with
    | nil =>
      -- the text would end in a blank
      obtain ⟨l, hl, hblank, -⟩ := getLast?_stem sp
      have hlast : ((digits a).toList ++ sp.stem).getLast? = some ' ' := by
        rw [hv]
        simp
      rw [List.getLast?_append, hl] at hlast
      obtain rfl : l = ' ' := Option.some.inj hlast
      cases hblank
    | cons f after =>
      have hsecond : '-' = f := (List.cons_prefix_cons.1 hrest).1
      exact hnone (hsecond ▸ List.mem_cons_of_mem _ List.mem_cons_self)

/-- The handler of differences captures all that stands before the sign of a negative number. -/
theorem matchText_stolen (h : sp.wording.Stolen b) :
    (Wording.sign .minus).template.matchText (question a b sp) =
      some ⟨[("a", digits a ++ String.ofList sp.stem), ("b", String.ofList (magnitude b))], ""⟩ := by
  obtain ⟨hb, hdivided, hminus⟩ := h
  have hmagnitude : ∀ c, c.isDigit = false → c ∉ magnitude b := fun c hc hmem => by
    rw [isDigit_of_mem_magnitude hmem] at hc
    cases hc
  have hv : (digits a).toList ++ sp.stem ≠ [] ∧ '/' ∉ (digits a).toList ++ sp.stem := by
    refine ⟨List.append_ne_nil_of_left_ne_nil (digits_ne_nil a) _, fun hmem => ?_⟩
    rcases List.mem_append.1 hmem with h | h
    · exact not_mem_digits (by decide) (by decide) h
    · exact (mem_stem hdivided hminus h).1 rfl
  have hsign : '-' ∈ Operation.minus.signs := List.mem_singleton.2 rfl
  have hmatch := Template.matchText_of_takes (t := (Wording.sign .minus).template) hv
    ⟨magnitude_ne_nil b, hmagnitude '/' (by decide)⟩ (Wording.sign .minus).reads_trees
    (Wording.takes_sign hsign sp.spaced false (head?_ne_blank (hmagnitude ' ' (by decide))))
    (fun c after hv hc hafter y hy => not_separates_of_stem hdivided hminus hv hc hafter hy)
    rfl (lastGroup_pairTree _) (Wording.variableNames_template _)
  have htext : (digits a).toList ++ (sp.text.toList ++ (digits b).toList) =
      (digits a).toList ++ sp.stem ++
        (Wording.blank sp.spaced ++ (['-'] ++ Wording.blank false) ++ magnitude b) := by
    rw [Spelling.toList_text, toList_digits b, if_pos hb]
    simp [Wording.blank]
  have hfirst : String.ofList ((digits a).toList ++ sp.stem) =
      digits a ++ String.ofList sp.stem := by
    rw [String.ofList_append, String.ofList_toList]
  rwa [← htext, ← question_eq, hfirst] at hmatch

-- ════════════════════════════════════════════════════════════════════════
-- Deliveries
-- ════════════════════════════════════════════════════════════════════════

/-- The handler of a special case. -/
def Special.handler (x : Special) : Handler γ :=
  x.registration.withPattern textFacet x.facetPattern false

/-- The handler of an operation. -/
def Wording.handler (w : Wording) : Handler γ :=
  w.registration.withPattern textFacet w.facetPattern false

theorem Wording.performs_handler (w : Wording) : w.Performs (w.handler : Handler γ) :=
  ⟨rfl, rfl, fun _ _ => rfl⟩

theorem built_sorted : Registration.built false (sorted : List (Registration γ)) =
    [Special.sum, Special.product].map Special.handler ++ Wording.all.map Wording.handler := by
  let built (r : Registration γ) : Option (Handler γ) := (r.build false).toOption
  have hspecial : built ∘ Special.registration = some ∘ Special.handler := by
    funext x
    have hbuild : (x.registration : Registration γ).build false = .ok x.handler :=
      Registration.build_withPattern rfl x.compile_pattern false
    exact congrArg Except.toOption hbuild
  have hwording : built ∘ Wording.registration = some ∘ Wording.handler := by
    funext w
    have hbuild : (w.registration : Registration γ).build false = .ok w.handler :=
      Registration.build_withPattern rfl w.compile_pattern false
    exact congrArg Except.toOption hbuild
  change List.filterMap built sorted = _
  rw [sorted, List.filterMap_append, List.filterMap_map, List.filterMap_map, hspecial, hwording,
    List.filterMap_eq_map, List.filterMap_eq_map]

variable {m : Message} {text : String}

/-- The candidates for a text are the special cases that accept it, and then the operations. -/
theorem candidates_of_text (htext : m.get? textFacet = some text) :
    selectCandidates m (group : Group γ).handlers =
      ([Special.sum, Special.product].filter fun x =>
        x.facetPattern.accepts (some text)).map Special.handler ++
      (Wording.all.filter fun w => w.facetPattern.accepts (some text)).map Wording.handler := by
  rw [candidates_eq, built_sorted, List.filter_append, List.filter_map, List.filter_map]
  simp only [Function.comp_def, Special.handler, Wording.handler,
    Registration.accepts_withPattern, htext]

theorem exists_candidates_of_find? {α : Type} {p : α → Bool} {l : List α} {y : α}
    (h : l.find? p = some y) : ∃ rest, l.filter p = y :: rest := by
  rw [← List.head?_filter] at h
  exact List.head?_eq_some_iff.1 h

/-- The first that meets a condition is the first that meets a stronger one, if it does. -/
theorem find?_of_imp {α : Type} {p q : α → Bool} {l : List α} {y : α}
    (himp : ∀ z, p z = true → q z = true) (hq : l.find? q = some y) (hp : p y = true) :
    l.find? p = some y := by
  obtain ⟨-, before, after, hl, hbefore⟩ := List.find?_eq_some_iff_append.1 hq
  refine List.find?_eq_some_iff_append.2 ⟨hp, before, after, hl, fun z hz => ?_⟩
  have hnot := hbefore z hz
  cases hpz : p z with
  | false => rfl
  | true =>
    rw [himp z hpz] at hnot
    cases hnot

theorem accepts_of_matchText {captured : TemplateMatch}
    (h : w.template.matchText text = some captured) :
    w.facetPattern.accepts (some text) = true := by
  rw [Wording.accepts_eq, ← Template.matchInput_isSome, Template.matchInput, Option.bind_some, h]
  rfl

/-- If no special case accepts a question, the first candidate is the first handler whose wording
is marked in it, provided that it accepts the question. -/
theorem exists_candidates_of_reached (htext : m.get? textFacet = some (question a b sp))
    (hspecial : ∀ x : Special, x.facetPattern.accepts (some (question a b sp)) = false)
    (haccepts : (sp.wording.reached (b.toInt < 0)).facetPattern.accepts
      (some (question a b sp)) = true) :
    ∃ rest, selectCandidates m (group : Group γ).handlers =
      (sp.wording.reached (b.toInt < 0)).handler :: rest := by
  have hfind := find?_of_imp (fun w => marked_of_accepts) (find?_marked sp (b.toInt < 0)) haccepts
  obtain ⟨rest, hrest⟩ := exists_candidates_of_find? hfind
  have hnone : [Special.sum, Special.product].filter
      (fun x => x.facetPattern.accepts (some (question a b sp))) = [] :=
    List.filter_eq_nil_iff.2 fun x _ => by simp [hspecial x]
  exact ⟨rest.map Wording.handler, by rw [candidates_of_text htext, hnone, hrest]; rfl⟩

theorem bindParameters_handler (htext : m.get? textFacet = some text) {first second : String}
    (hmatch : w.template.matchText text = some ⟨[("a", first), ("b", second)], ""⟩) :
    bindParameters m (w.handler : Handler γ) =
      match convert (some first) .int, convert (some second) .int with
      | .ok v, .ok v' => .ok ⟨[v, v']⟩
      | .ok _, .error e => .error e
      | .error e, _ => .error e := by
  have hcaptures : (w.handler : Handler γ).captures m textFacet =
      some ⟨[("a", first), ("b", second)], ""⟩ := by
    have hpattern : (w.handler : Handler γ).patterns.get? textFacet = some w.facetPattern := by
      change ((∅ : Table FacetPattern).insert textFacet w.facetPattern).get? textFacet = _
      rw [Table.get?_insert, if_pos rfl]
    rw [Handler.captures, hpattern, htext, Option.bind_some]
    exact hmatch
  rw [bindParameters_eq w.performs_handler, hcaptures]
  rfl

/-- The text before the sign of a negative number is no number. -/
theorem exists_convert_stem (a : Int32) (sp : Spelling) : ∃ reason,
    convert (some (digits a ++ String.ofList sp.stem)) .int =
      .error ⟨digits a ++ String.ofList sp.stem, .int, reason⟩ := by
  have htoList : (digits a ++ String.ofList sp.stem).toList = (digits a).toList ++ sp.stem := by
    rw [String.toList_append, String.toList_ofList]
  obtain ⟨l, hl, hblank, hdigit⟩ := getLast?_stem sp
  have hlast : ((digits a).toList ++ sp.stem).getLast? = some l := by
    rw [List.getLast?_append, hl]
    rfl
  have hfirst : ∀ c, ((digits a).toList ++ sp.stem).head? = some c → Text.isBlank c = false := by
    intro c hc
    rw [List.head?_append_of_ne_nil _ (digits_ne_nil a)] at hc
    exact isBlank_of_mem_digits (List.mem_of_head? hc)
  have htrim : Text.trim ((digits a).toList ++ sp.stem) = (digits a).toList ++ sp.stem := by
    refine Text.trim_eq_self hfirst fun c hc => ?_
    rw [hlast] at hc
    exact Option.some.inj hc ▸ hblank
  refine fromNumerals_int.refused _ fun n ⟨s, hs, hnumeral⟩ => ?_
  obtain ⟨c, hc, hc'⟩ := hnumeral.isDigit_getLast
  rw [← Text.trims_iff.1 hs, htoList, htrim, hlast] at hc
  rw [← Option.some.inj hc, hdigit] at hc'
  cases hc'

theorem accepts_special (hx : sp.wording.special? = some x) :
    x.facetPattern.accepts (some (question 2 2 sp)) = true := by
  have htwo : (digits 2).toList = ['2'] := by decide
  cases sp with
  | words op => cases op <;> cases hx
  | sign s before after =>
    have hsign : s.char ∈ x.operation.signs := by
      cases s with
      | minus | slash => cases hx
      | cross | star | plus =>
        cases hx
        decide
    have haccepts := Special.accepts_of_mem_signs hsign before after
    rwa [question_eq, htwo, Spelling.toList_text, Spelling.stem, Spelling.spaced,
      List.append_assoc _ [s.char]]

theorem special?_of_wording (h : sp.wording = .sign x.operation) :
    sp.wording.special? = some x := by
  rw [h]
  cases x <;> rfl

/-- The special case is the first candidate for a question about two and two. -/
theorem exists_candidates_of_special (htext : m.get? textFacet = some (question 2 2 sp))
    (hx : sp.wording.special? = some x) :
    ∃ rest, selectCandidates m (group : Group γ).handlers = x.handler :: rest := by
  let p (x : Special) : Bool := x.facetPattern.accepts (some (question 2 2 sp))
  have hfind : [Special.sum, Special.product].find? p = some x := by
    have haccepts : p x = true := accepts_special hx
    cases x with
    | sum => exact List.find?_cons_of_pos haccepts
    | product =>
      have hsum : ¬p .sum = true := by
        intro h
        have hother := special?_of_wording (special_of_accepts h).2.2
        rw [hx] at hother
        cases hother
      rw [List.find?_cons_of_neg hsum]
      exact List.find?_cons_of_pos haccepts
  obtain ⟨rest, hrest⟩ := exists_candidates_of_find? hfind
  refine ⟨rest.map Special.handler ++ (Wording.all.filter fun w =>
    w.facetPattern.accepts (some (question 2 2 sp))).map Wording.handler, ?_⟩
  rw [candidates_of_text htext]
  change List.map Special.handler ([Special.sum, Special.product].filter p) ++ _ = _
  rw [hrest]
  rfl

theorem not_accepts_special (hspecial : ¬(a = 2 ∧ b = 2 ∧ sp.wording.special?.isSome = true))
    (x : Special) : x.facetPattern.accepts (some (question a b sp)) = false := by
  rw [← Bool.not_eq_true]
  intro haccepts
  obtain ⟨ha, hb, hw⟩ := special_of_accepts haccepts
  exact hspecial ⟨ha, hb, by rw [special?_of_wording hw]; rfl⟩

/-- The handler of the wording is the first candidate, and its arguments are both numbers. -/
theorem bound_of_question (htext : m.get? textFacet = some (question a b sp))
    (hspecial : ¬(a = 2 ∧ b = 2 ∧ sp.wording.special?.isSome = true))
    (hown : ¬sp.wording.Stolen b) :
    (∃ rest, selectCandidates m (group : Group γ).handlers = sp.wording.handler :: rest) ∧
      bindParameters m (sp.wording.handler : Handler γ) = .ok ⟨[.int a, .int b]⟩ := by
  have hreached : sp.wording.reached (b.toInt < 0) = sp.wording :=
    if_neg fun h => hown ⟨of_decide_eq_true h.1, h.2⟩
  have hmatch := matchText_question a b sp
  have hfirst := exists_candidates_of_reached (γ := γ) htext (not_accepts_special hspecial)
    (by rw [hreached]; exact accepts_of_matchText hmatch)
  rw [hreached] at hfirst
  have hbind := bindParameters_handler (γ := γ) htext hmatch
  rw [convert_digits, convert_digits] at hbind
  exact ⟨hfirst, hbind⟩

/-- The handler of differences is the first candidate, and has no first number. -/
theorem bound_of_stolen (htext : m.get? textFacet = some (question a b sp))
    (hspecial : ¬(a = 2 ∧ b = 2 ∧ sp.wording.special?.isSome = true))
    (hstolen : sp.wording.Stolen b) :
    (∃ rest, selectCandidates m (group : Group γ).handlers =
      (Wording.sign .minus).handler :: rest) ∧
      ∃ reason, bindParameters m ((Wording.sign .minus).handler : Handler γ) =
        .error ⟨digits a ++ String.ofList sp.stem, .int, reason⟩ := by
  have hreached : sp.wording.reached (b.toInt < 0) = .sign .minus :=
    if_pos ⟨decide_eq_true hstolen.1, hstolen.2⟩
  have hmatch := matchText_stolen (a := a) hstolen
  have hfirst := exists_candidates_of_reached (γ := γ) htext (not_accepts_special hspecial)
    (by rw [hreached]; exact accepts_of_matchText hmatch)
  rw [hreached] at hfirst
  obtain ⟨reason, hreason⟩ := exists_convert_stem a sp
  have hbind := bindParameters_handler (γ := γ) htext hmatch
  rw [hreason] at hbind
  exact ⟨hfirst, reason, hbind⟩

/-- What comes of a question: the events of its delivery and the outcome. -/
inductive Answered (a b : Int32) (sp : Spelling) :
    List Event → Except String (Outcome γ) → Prop
  /-- The question is about two and two, and there is an answer of its own. -/
  | special {x : Special} (ha : a = 2) (hb : b = 2) (hx : sp.wording.special? = some x) :
      Answered a b sp [.before x.identity, .called x.identity ⟨[]⟩, .after x.identity]
        (.ok (.invoked [⟨x.identity, .ok (.text x.reply)⟩]))
  /-- The handler of differences takes the sign of the second number for its own, and what is
  before it is no number. -/
  | stolen {reason : String} (h : sp.wording.Stolen b) :
      Answered a b sp [.before "minus", .after "minus"]
        (.ok (.invoked [⟨"minus", .error (.conversion "minus"
          ⟨digits a ++ String.ofList sp.stem, .int, reason⟩)⟩]))
  /-- The handler of the wording answers about both numbers. -/
  | own {e : Ending γ} (hspecial : ¬(a = 2 ∧ b = 2 ∧ sp.wording.special?.isSome = true))
      (hown : ¬sp.wording.Stolen b) (h : sp.wording.operation.Ends a b e) :
      Answered a b sp
        [.before sp.wording.identity, .called sp.wording.identity ⟨[.int a, .int b]⟩,
          .after sp.wording.identity]
        (e.outcome sp.wording.identity)

section Deliveries

variable (d : Dispatcher γ) (hlets : ∀ h ∈ (group : Group γ).handlers, d.hook.refusal h = none)

include hlets

/-- The first candidate is not refused. -/
theorem refusal_of_candidates {h : Handler γ} {rest : List (Handler γ)}
    (hfirst : selectCandidates m (group : Group γ).handlers = h :: rest) :
    d.hook.refusal h = none := by
  have hmem : h ∈ selectCandidates m (group : Group γ).handlers := by
    rw [hfirst]
    exact List.mem_cons_self
  exact hlets h (mem_selectCandidates.1 hmem).1

theorem answered_special (htext : m.get? textFacet = some (question 2 2 sp))
    (hx : sp.wording.special? = some x) :
    Answered 2 2 sp (deliveryEvents (d.dispatch m group).events) (d.dispatch m group).result := by
  obtain ⟨rest, hfirst⟩ := exists_candidates_of_special (γ := γ) htext hx
  have hbind : bindParameters m (x.handler : Handler γ) = .ok ⟨[]⟩ := rfl
  obtain ⟨hevents, hresult⟩ := d.dispatch_of_bound rfl hfirst
    (refusal_of_candidates d hlets hfirst) hbind
  rw [hevents, hresult]
  exact .special rfl rfl hx

theorem answered_question (htext : m.get? textFacet = some (question a b sp)) :
    Answered a b sp (deliveryEvents (d.dispatch m group).events) (d.dispatch m group).result := by
  by_cases hspecial : a = 2 ∧ b = 2 ∧ sp.wording.special?.isSome = true
  · obtain ⟨rfl, rfl, hsome⟩ := hspecial
    obtain ⟨x, hx⟩ := Option.isSome_iff_exists.1 hsome
    exact answered_special d hlets htext hx
  · by_cases hstolen : sp.wording.Stolen b
    · obtain ⟨⟨rest, hfirst⟩, reason, hbind⟩ := bound_of_stolen (γ := γ) htext hspecial hstolen
      obtain ⟨hevents, hresult⟩ := d.dispatch_of_unbound rfl hfirst
        (refusal_of_candidates d hlets hfirst) hbind
      rw [hevents, hresult]
      exact .stolen hstolen
    · obtain ⟨⟨rest, hfirst⟩, hbind⟩ := bound_of_question (γ := γ) htext hspecial hstolen
      obtain ⟨hevents, hresult⟩ := d.dispatch_of_bound rfl hfirst
        (refusal_of_candidates d hlets hfirst) hbind
      obtain ⟨e, he⟩ := Operation.exists_ends (γ := γ) sp.wording.operation a b
      have haction : sp.wording.handler.action ⟨[.int a, .int b]⟩ = ⟨[], e⟩ :=
        (sp.wording.performs_handler.action a b).trans (Operation.answer_of_ends he)
      rw [hevents, hresult, haction]
      exact .own hspecial hstolen he

/-- A question reaches the handler of its wording, which is called with exactly its two numbers;
and the exact result is stated if it is a 32-bit number. There are two exceptions. Sums and products
of two and two have answers of their own. A question with a negative second number is stolen by the
handler of differences, unless it is about a quotient or is itself a difference with a minus sign;
then no handler is called. -/
theorem question_reaches_its_operation (htext : m.get? textFacet = some (question a b sp)) :
    Answered a b sp (deliveryEvents (d.dispatch m group).events) (d.dispatch m group).result ∧
      (¬(a = 2 ∧ b = 2 ∧ sp.wording.special?.isSome = true) → ¬sp.wording.Stolen b →
        ∀ n : Int32, sp.wording.operation.result? a b = some n.toInt →
          (d.dispatch m group).result = .ok (.invoked [⟨sp.wording.identity,
            .ok (.text (digits a ++ sp.wording.operation.words ++ digits b ++ " is " ++
              digits n))⟩])) := by
  have hanswered := answered_question d hlets htext
  refine ⟨hanswered, fun hspecial hown n hn => ?_⟩
  generalize (d.dispatch m group).result = result at hanswered
  generalize deliveryEvents (d.dispatch m group).events = events at hanswered
  cases hanswered with
  | special ha hb hx => exact absurd ⟨ha, hb, by rw [hx]; rfl⟩ hspecial
  | stolen h => exact absurd h hown
  | own _ _ h =>
    rw [h.unique (.stated hn)]
    rfl

end Deliveries

/-- A message with this text. -/
def asked (text : String) : Message :=
  Message.insert { channel := "chat" } textFacet text

theorem get?_asked (text : String) : (asked text).get? textFacet = some text := by
  rw [asked, Message.get?, Message.insert, Table.get?_insert, if_pos rfl]

/-- Nineteen minus minus four, with one of the blanks left out. -/
theorem difference_of_negative_is_answered :
    question 19 (-4) (.sign .minus true false) = "what is 19 --4" ∧
      (({} : Dispatcher Unit).dispatch (asked "what is 19 --4") group).result =
        .ok (.invoked [⟨"minus", .ok (.text "19 minus -4 is 23")⟩]) := by
  have hquestion : question 19 (-4) (.sign .minus true false) = "what is 19 --4" := by decide
  have hlets : ∀ h ∈ (group : Group Unit).handlers,
      ({} : Dispatcher Unit).hook.refusal h = none := fun _ _ => rfl
  have htext : (asked "what is 19 --4").get? textFacet =
      some (question 19 (-4) (.sign .minus true false)) := by
    rw [hquestion]
    exact get?_asked _
  have hown : ¬(Spelling.sign .minus true false).wording.Stolen (-4) := fun h => h.2.2 rfl
  have hsentence : digits 19 ++ Operation.minus.words ++ digits (-4) ++ " is " ++ digits 23 =
      "19 minus -4 is 23" := by decide
  refine ⟨hquestion, ?_⟩
  rw [← hsentence]
  exact (question_reaches_its_operation {} hlets htext).2 (by decide) hown 23 (by decide)

/-- Four times minus seven is taken for a difference, and there is no answer. -/
theorem negative_factor_is_stolen :
    question 4 (-7) (.sign .cross true true) = "what is 4 x -7" ∧
      Operation.times.result? 4 (-7) = some (-28) ∧
      let run := ({} : Dispatcher Unit).dispatch (asked "what is 4 x -7") group
      deliveryEvents run.events = [.before "minus", .after "minus"] ∧
        ∃ reason, run.result = .ok (.invoked
          [⟨"minus", .error (.conversion "minus" ⟨"4 x", .int, reason⟩)⟩]) := by
  have hquestion : question 4 (-7) (.sign .cross true true) = "what is 4 x -7" := by decide
  have htext : (asked "what is 4 x -7").get? textFacet =
      some (question 4 (-7) (.sign .cross true true)) := by
    rw [hquestion]
    exact get?_asked _
  have hstolen : (Spelling.sign .cross true true).wording.Stolen (-7) := by
    refine ⟨by decide, by decide, by decide⟩
  refine ⟨hquestion, by decide, ?_⟩
  intro run
  have hanswered := answered_question ({} : Dispatcher Unit) (fun _ _ => rfl) htext
  change Answered 4 (-7) _ (deliveryEvents run.events) run.result at hanswered
  generalize run.result = result at hanswered
  generalize deliveryEvents run.events = events at hanswered
  cases hanswered with
  | special ha => exact absurd ha (by decide)
  | own _ hown => exact absurd hstolen hown
  | @stolen reason _ =>
    exact ⟨rfl, reason, rfl⟩

end Parley.MathWiz
