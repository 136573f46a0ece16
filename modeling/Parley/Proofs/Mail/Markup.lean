import Mathlib.Data.List.Chain
import Parley.Mail.Markup
import Parley.Proofs.Text.Blank

/-!
# What markup says

A region of markup goes from an opening bracket to the next closing one. The words of markup are
those of its text with a blank in place of every region. So they can be found part by part: what
stands between two regions has its words whatever stands around.

## Main definitions

- `Shows` — the text of markup with a blank in place of every region
- `Closed` — markup in which every region has an end
- `Tidy` — a text with no blanks but single spaces between words

## Main results

- `existsUnique_shows` — markup has one such text
- `words_untagged` — the words outside of tags are those of this text
- `untagged_append` — markup after closed markup is read on its own
- `words_joinWords`, `tidy_joinWords` — words with spaces between them can be told apart
- `markup_is_read_by_regions` — what markup is read as
-/

namespace Parley.Mail

open Parley.Text

-- ════════════════════════════════════════════════════════════════════════
-- Regions
-- ════════════════════════════════════════════════════════════════════════

/-- The text of markup: each region from an opening bracket to the next closing one, or to the end
if there is none, is a blank, and the closing brackets outside of regions are left out. -/
inductive Shows : (markup text : List Char) → Prop
  /-- There is no region. -/
  | plain {s : List Char} (hs : '<' ∉ s) : Shows s (s.filter (· ≠ '>'))
  /-- The first region has no end. -/
  | unclosed {s inner : List Char} (hs : '<' ∉ s) (hinner : '>' ∉ inner) :
      Shows (s ++ '<' :: inner) (s.filter (· ≠ '>') ++ [' '])
  /-- The first region has an end. -/
  | region {s inner rest text : List Char} (hs : '<' ∉ s) (hinner : '>' ∉ inner)
      (later : Shows rest text) :
      Shows (s ++ '<' :: (inner ++ '>' :: rest)) (s.filter (· ≠ '>') ++ ' ' :: text)

/-- Every region of the markup has an end. -/
def Closed (markup : List Char) : Prop :=
  ∀ before after, markup = before ++ '<' :: after → '>' ∈ after

/-- What stands before the first mark, and what stands after it, can be told. -/
theorem split_unique {a : Char} {s s' x x' : List Char} (hs : a ∉ s) (hs' : a ∉ s')
    (h : s ++ a :: x = s' ++ a :: x') : s = s' ∧ x = x' := by
  induction s generalizing s' with
  | nil =>
    cases s' with
    | nil => exact ⟨rfl, (List.cons.inj h).2⟩
    | cons c s' => exact absurd (List.cons.inj h).1 (List.ne_of_not_mem_cons hs')
  | cons c s ih =>
    cases s' with
    | nil => exact absurd (List.cons.inj h).1.symm (List.ne_of_not_mem_cons hs)
    | cons d s' =>
      obtain ⟨rfl, htail⟩ := List.cons.inj h
      obtain ⟨rfl, hx⟩ :=
        ih (List.not_mem_of_not_mem_cons hs) (List.not_mem_of_not_mem_cons hs') htail
      exact ⟨rfl, hx⟩

/-- The regions of markup can be found in one way only. -/
theorem Shows.unique {markup text text' : List Char} (h : Shows markup text)
    (h' : Shows markup text') : text = text' := by
  induction h generalizing text' with
  | plain hs =>
    cases h' with
    | plain => rfl
    | unclosed | region => exact absurd (List.mem_append_right _ List.mem_cons_self) hs
  | @unclosed s inner hs hinner =>
    generalize hmarkup : s ++ '<' :: inner = markup at h'
    cases h' with
    | plain hs' =>
      rw [← hmarkup] at hs'
      exact absurd (List.mem_append_right _ List.mem_cons_self) hs'
    | unclosed hs' hinner' => rw [(split_unique hs hs' hmarkup).1]
    | region hs' hinner' =>
      obtain ⟨-, rfl⟩ := split_unique hs hs' hmarkup
      exact absurd (List.mem_append_right _ List.mem_cons_self) hinner
  | @region s inner rest text hs hinner later ih =>
    generalize hmarkup : s ++ '<' :: (inner ++ '>' :: rest) = markup at h'
    cases h' with
    | plain hs' =>
      rw [← hmarkup] at hs'
      exact absurd (List.mem_append_right _ List.mem_cons_self) hs'
    | unclosed hs' hinner' =>
      obtain ⟨-, rfl⟩ := split_unique hs hs' hmarkup
      exact absurd (List.mem_append_right _ List.mem_cons_self) hinner'
    | region hs' hinner' later' =>
      obtain ⟨rfl, hregion⟩ := split_unique hs hs' hmarkup
      obtain ⟨-, rfl⟩ := split_unique hinner hinner' hregion
      rw [ih later']

theorem exists_shows (markup : List Char) : ∃ text, Shows markup text := by
  by_cases hopen : '<' ∈ markup
  · obtain ⟨s, after, hmarkup, hs⟩ := List.eq_append_cons_of_mem hopen
    by_cases hclose : '>' ∈ after
    · obtain ⟨inner, rest, hafter, hinner⟩ := List.eq_append_cons_of_mem hclose
      have hshorter : rest.length < markup.length := by
        rw [hmarkup, hafter]
        simp only [List.length_append, List.length_cons]
        omega
      obtain ⟨text, later⟩ := exists_shows rest
      rw [hmarkup, hafter]
      exact ⟨_, .region hs hinner later⟩
    · rw [hmarkup]
      exact ⟨_, .unclosed hs hclose⟩
  · exact ⟨_, .plain hopen⟩
termination_by markup.length

theorem existsUnique_shows (markup : List Char) : ∃! text, Shows markup text :=
  existsUnique_of_exists_of_unique (exists_shows markup) fun _ _ h h' => h.unique h'

-- ════════════════════════════════════════════════════════════════════════
-- Reading through tags
-- ════════════════════════════════════════════════════════════════════════

/-- Before the first region, only closing brackets are left out. -/
theorem untagged_before {s : List Char} (hs : '<' ∉ s) (rest : List Char) :
    untagged false (s ++ rest) = s.filter (· ≠ '>') ++ untagged false rest := by
  induction s with
  | nil => rfl
  | cons c s ih =>
    obtain ⟨hc, hs⟩ : '<' ≠ c ∧ '<' ∉ s := by simpa using hs
    rw [List.cons_append, untagged, if_neg (Ne.symm hc), ih hs]
    by_cases hclose : c = '>'
    · simp [hclose]
    · simp [hclose]

/-- Up to its end, a region gives blanks at most, one for each bracket that is opened in it. -/
theorem words_untagged_inner {inner : List Char} (hinner : '>' ∉ inner) (rest : List Char) :
    words (untagged true (inner ++ rest)) = words (untagged true rest) := by
  induction inner with
  | nil => rfl
  | cons c inner ih =>
    obtain ⟨hc, hinner⟩ : '>' ≠ c ∧ '>' ∉ inner := by simpa using hinner
    rw [List.cons_append, untagged]
    by_cases hopen : c = '<'
    · rw [if_pos hopen, words_cons_blank _ (by decide), ih hinner]
    · rw [if_neg hopen, if_neg (Ne.symm hc), if_pos rfl, ih hinner]

/-- The words outside of tags are those of the text with blanks in place of the regions. -/
theorem words_untagged {markup text : List Char} (h : Shows markup text) :
    words (untagged false markup) = words text := by
  have hopen : isBlank ' ' = true := by decide
  induction h with
  | @plain s hs =>
    have hall := untagged_before hs []
    rw [List.append_nil] at hall
    rw [hall, untagged, List.append_nil]
  | @unclosed s inner hs hinner =>
    have hinner := words_untagged_inner hinner []
    rw [List.append_nil] at hinner
    rw [untagged_before hs, untagged, if_pos rfl, words_append_blank _ _ hopen,
      words_append_blank _ _ hopen, hinner, untagged]
  | @region s inner rest text hs hinner later ih =>
    rw [untagged_before hs, untagged, if_pos rfl, words_append_blank _ _ hopen,
      words_append_blank _ _ hopen, words_untagged_inner hinner, untagged, if_neg (by decide),
      if_pos rfl, ih]

theorem Closed.of_cons {c : Char} {s : List Char} (h : Closed (c :: s)) : Closed s :=
  fun before after heq => h (c :: before) after (by rw [heq, List.cons_append])

/-- Markup after closed markup is read on its own. -/
theorem untagged_append {s : List Char} (hclosed : Closed s) (rest : List Char) :
    untagged false (s ++ rest) = untagged false s ++ untagged false rest := by
  -- a region that is open before `s` must end in it
  suffices ∀ inTag : Bool, (inTag = true → '>' ∈ s) →
      untagged inTag (s ++ rest) = untagged inTag s ++ untagged false rest from
    this false nofun
  induction s with
  | nil =>
    intro inTag hends
    cases inTag with
    | false => rfl
    | true => cases hends rfl
  | cons c s ih =>
    intro inTag hends
    rw [List.cons_append, untagged, untagged]
    by_cases hopen : c = '<'
    · rw [if_pos hopen, if_pos hopen, List.cons_append,
        ih hclosed.of_cons true fun _ => hclosed [] s (by rw [hopen]; rfl)]
    · rw [if_neg hopen, if_neg hopen]
      by_cases hclose : c = '>'
      · rw [if_pos hclose, if_pos hclose, ih hclosed.of_cons false nofun]
      · rw [if_neg hclose, if_neg hclose]
        cases inTag with
        | false =>
          rw [if_neg Bool.false_ne_true, if_neg Bool.false_ne_true, List.cons_append,
            ih hclosed.of_cons false nofun]
        | true =>
          have hlater : '>' ∈ s := (List.mem_cons.1 (hends rfl)).resolve_left (Ne.symm hclose)
          rw [if_pos rfl, if_pos rfl, ih hclosed.of_cons true fun _ => hlater]

/-- Nothing of a bracket is left outside of tags. -/
theorem not_mem_untagged (inTag : Bool) (s : List Char) :
    '<' ∉ untagged inTag s ∧ '>' ∉ untagged inTag s := by
  induction s generalizing inTag with
  | nil => simp [untagged]
  | cons c s ih =>
    rw [untagged]
    split
    · simpa using ih true
    · next hopen =>
      split
      · exact ih false
      · next hclose =>
        split
        · exact ih true
        · simpa [Ne.symm hopen, Ne.symm hclose] using ih false

-- ════════════════════════════════════════════════════════════════════════
-- Words with spaces between them
-- ════════════════════════════════════════════════════════════════════════

/-- The text starts and ends with no blank, and its only blanks are single spaces. -/
structure Tidy (s : List Char) : Prop where
  /-- The text starts with no blank. -/
  first : ∀ c ∈ s.head?, isBlank c = false
  /-- The text ends in no blank. -/
  last : ∀ c ∈ s.getLast?, isBlank c = false
  /-- Every blank is a space. -/
  space : ∀ c ∈ s, isBlank c = true → c = ' '
  /-- No blank follows a blank. -/
  single : s.IsChain fun c d => isBlank c = true → isBlank d = false

/-- The words are not empty and hold no blanks. -/
def AreWords (ws : List (List Char)) : Prop :=
  ∀ w ∈ ws, w ≠ [] ∧ ∀ c ∈ w, isBlank c = false

theorem areWords_words (s : List Char) : AreWords (words s) :=
  (separated_words s).isWord

theorem joinWords_cons_cons (w v : List Char) (ws : List (List Char)) :
    joinWords (w :: v :: ws) = w ++ ' ' :: joinWords (v :: ws) := by
  rw [joinWords, List.intercalate_cons_cons, List.append_assoc]
  rfl

theorem joinWords_singleton (w : List Char) : joinWords [w] = w :=
  List.intercalate_singleton

theorem mem_joinWords {ws : List (List Char)} {c : Char} (hc : c ∈ joinWords ws) :
    c = ' ' ∨ ∃ w ∈ ws, c ∈ w := by
  induction ws with
  | nil => cases hc
  | cons w ws ih =>
    cases ws with
    | nil =>
      rw [joinWords_singleton] at hc
      exact .inr ⟨w, List.mem_singleton_self w, hc⟩
    | cons v ws =>
      rw [joinWords_cons_cons, List.mem_append, List.mem_cons] at hc
      rcases hc with hc | hc | hc
      · exact .inr ⟨w, List.mem_cons_self, hc⟩
      · exact .inl hc
      · exact (ih hc).imp_right fun ⟨w', hw', hc⟩ => ⟨w', List.mem_cons_of_mem _ hw', hc⟩

/-- Words with spaces between them are found again. -/
theorem words_joinWords {ws : List (List Char)} (h : AreWords ws) : words (joinWords ws) = ws := by
  rw [← separated_iff]
  induction ws with
  | nil => exact .nil
  | cons w ws ih =>
    obtain ⟨⟨hne, hword⟩, hlater⟩ := List.forall_mem_cons.1 h
    cases ws with
    | nil =>
      have hall : Separated (w ++ []) [w] := .word hne hword (by simp) .nil
      rw [List.append_nil] at hall
      rwa [joinWords_singleton]
    | cons v ws =>
      rw [joinWords_cons_cons]
      refine .word hne hword ?_ (.blank (by decide) (ih hlater))
      rintro c ⟨⟩
      decide

theorem joinWords_ne_nil {w : List Char} {ws : List (List Char)} (h : AreWords (w :: ws)) :
    joinWords (w :: ws) ≠ [] := by
  intro hnil
  have hwords := words_joinWords h
  rw [hnil] at hwords
  cases hwords

/-- A word has no blanks, so that it is a tidy text. -/
theorem tidy_word {w : List Char} (hw : ∀ c ∈ w, isBlank c = false) : Tidy w where
  first := fun c hc => hw c (List.mem_of_mem_head? hc)
  last := fun c hc => hw c (List.mem_of_mem_getLast? hc)
  space := fun c hc hblank => absurd (hw c hc) (by simp [hblank])
  single := by
    refine List.Pairwise.isChain (List.pairwise_of_forall_mem_list fun c hc d hd hblank => ?_)
    exact hw d hd

theorem tidy_joinWords {ws : List (List Char)} (h : AreWords ws) : Tidy (joinWords ws) := by
  induction ws with
  | nil => exact ⟨nofun, nofun, nofun, .nil⟩
  | cons w ws ih =>
    obtain ⟨⟨hne, hword⟩, hlater⟩ := List.forall_mem_cons.1 h
    have hw : Tidy w := tidy_word hword
    cases ws with
    | nil => rwa [joinWords_singleton]
    | cons v ws =>
      have ih := ih hlater
      rw [joinWords_cons_cons]
      refine ⟨fun c hc => ?_, fun c hc => ?_, fun c hc hblank => ?_, ?_⟩
      · rw [List.head?_append_of_ne_nil _ hne] at hc
        exact hw.first c hc
      · rw [List.getLast?_append_of_ne_nil _ (List.cons_ne_nil _ _),
          List.getLast?_cons_of_ne_nil (joinWords_ne_nil hlater)] at hc
        exact ih.last c hc
      · rw [List.mem_append, List.mem_cons] at hc
        rcases hc with hc | hc | hc
        · exact hw.space c hc hblank
        · exact hc
        · exact ih.space c hc hblank
      · refine List.isChain_append.2 ⟨hw.single, ?_, fun c hc d hd hblank => ?_⟩
        · exact List.isChain_cons.2 ⟨fun d hd _ => ih.first d hd, ih.single⟩
        · exact absurd (hw.last c hc) (by simp [hblank])

-- ════════════════════════════════════════════════════════════════════════
-- What markup is read as
-- ════════════════════════════════════════════════════════════════════════

theorem toList_stripHtml (s : String) :
    (stripHtml s).toList = joinWords (words (untagged false s.toList)) :=
  String.toList_ofList

theorem words_stripHtml (s : String) :
    words (stripHtml s).toList = words (untagged false s.toList) := by
  rw [toList_stripHtml, words_joinWords (areWords_words _)]

theorem not_mem_stripHtml (s : String) :
    '<' ∉ (stripHtml s).toList ∧ '>' ∉ (stripHtml s).toList := by
  obtain ⟨hopen, hclose⟩ := not_mem_untagged false s.toList
  have hmem : ∀ c ∈ (stripHtml s).toList, c = ' ' ∨ c ∈ untagged false s.toList := by
    intro c hc
    rw [toList_stripHtml] at hc
    refine (mem_joinWords hc).imp_right fun ⟨w, hw, hcw⟩ => ?_
    exact (separated_words _).mem hw hcw
  exact ⟨fun h => (hmem _ h).elim (by decide) hopen, fun h => (hmem _ h).elim (by decide) hclose⟩

/-- What has been stripped has nothing to be stripped. -/
theorem stripHtml_stripHtml (s : String) : stripHtml (stripHtml s) = stripHtml s := by
  obtain ⟨hopen, hclose⟩ := not_mem_stripHtml s
  have hsame : untagged false (stripHtml s).toList = (stripHtml s).toList := by
    have hall := untagged_before hopen []
    rw [List.append_nil, untagged, List.append_nil] at hall
    rw [hall, List.filter_eq_self]
    exact fun c hc => decide_eq_true fun heq => hclose (heq ▸ hc)
  rw [stripHtml, hsame, words_stripHtml, ← toList_stripHtml, String.ofList_toList]

/-- The words before a region, and those after it. -/
theorem words_region {a t : List Char} (hclosed : Closed a) (ht : '>' ∉ t) (b : List Char) :
    words (untagged false (a ++ '<' :: (t ++ '>' :: b))) =
      words (untagged false a) ++ words (untagged false b) := by
  rw [untagged_append hclosed, untagged, if_pos rfl, words_append_blank _ _ (by decide),
    words_untagged_inner ht, untagged, if_neg (by decide), if_pos rfl]

/-- Markup is read as the words of its text, with single spaces between them, where a blank stands
in place of every region. Nothing is left of brackets and of other blanks, so that reading the
words as markup changes nothing; and a region divides the words before it from those after it. -/
theorem markup_is_read_by_regions (markup : String) :
    (∃! x : List Char × List (List Char), Shows markup.toList x.1 ∧ Separated x.1 x.2) ∧
      (∀ text ws, Shows markup.toList text → Separated text ws →
        (stripHtml markup).toList = [' '].intercalate ws) ∧
      ('<' ∉ (stripHtml markup).toList ∧ '>' ∉ (stripHtml markup).toList) ∧
      Tidy (stripHtml markup).toList ∧
      stripHtml (stripHtml markup) = stripHtml markup ∧
      ∀ a t b : String, markup = a ++ "<" ++ t ++ ">" ++ b → Closed a.toList → '>' ∉ t.toList →
        (stripHtml markup).toList =
          [' '].intercalate (words (stripHtml a).toList ++ words (stripHtml b).toList) := by
  refine ⟨?_, ?_, not_mem_stripHtml markup, ?_, stripHtml_stripHtml markup, ?_⟩
  · obtain ⟨text, htext, hunique⟩ := existsUnique_shows markup.toList
    refine ⟨(text, words text), ⟨htext, separated_words text⟩, ?_⟩
    rintro ⟨text', ws⟩ ⟨htext', hws⟩
    obtain rfl := hunique text' htext'
    exact Prod.ext rfl (separated_iff.1 hws).symm
  · intro text ws htext hws
    rw [toList_stripHtml, words_untagged htext, separated_iff.1 hws]
    rfl
  · rw [toList_stripHtml]
    exact tidy_joinWords (areWords_words _)
  · rintro a t b rfl hclosed ht
    have hparts : (a ++ "<" ++ t ++ ">" ++ b).toList =
        a.toList ++ '<' :: (t.toList ++ '>' :: b.toList) := by
      simp
    rw [toList_stripHtml, hparts, words_region hclosed ht, words_stripHtml, words_stripHtml]
    rfl

end Parley.Mail
