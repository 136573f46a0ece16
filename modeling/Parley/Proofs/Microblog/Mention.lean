import Parley.Channel.Microblog
import Parley.Proofs.Text.Line

/-!
# Mentions at the start of a post

A post can be cut into the mentions at its start and the rest in one way only, since no blank is a
word character: a name ends where the blanks after it begin, and these end where the next mention
or the rest begins.

## Main definitions

- `IsMention` — a mention with blanks after it
- `Opens` — the mentions at the start of a text, and its rest

## Main results

- `wordTable_contains_blank` — no blank is a word character
- `afterMention?_eq_some_iff`, `afterMention?_eq_none_iff` — what follows the first mention
- `opens_iff` — the rest after all mentions, which is the text of a post
-/

namespace Parley

open Parley.Text Parley.Unicode

-- ════════════════════════════════════════════════════════════════════════
-- Blanks and word characters
-- ════════════════════════════════════════════════════════════════════════

/-- The code points of blanks and of the at sign. -/
def separatorCodes : List Nat :=
  [0x9, 0xA, 0xB, 0xC, 0xD, 0x20, 0x40, 0x85, 0xA0, 0x1680, 0x2000, 0x2001, 0x2002, 0x2003, 0x2004,
    0x2005, 0x2006, 0x2007, 0x2008, 0x2009, 0x200A, 0x2028, 0x2029, 0x202F, 0x205F, 0x3000]

theorem mem_separatorCodes {c : Char} (hc : isBlank c = true) : c.toNat ∈ separatorCodes := by
  simp only [isBlank, Bool.or_eq_true, Bool.and_eq_true, decide_eq_true_eq, beq_iff_eq] at hc
  simp only [separatorCodes, List.mem_cons, List.not_mem_nil, or_false]
  omega

set_option maxRecDepth 40000 in
/-- The table is read from its characters, so that no text has to be decoded. -/
theorem not_containsCode_of_mem {n : Nat} (hn : n ∈ separatorCodes) :
    RangeTable.containsCode wordTable.ranges n = false := by
  obtain ⟨text, htable, hall⟩ : ∃ text, wordTable = .ofText (String.ofList text) ∧
      separatorCodes.all (fun n => !RangeTable.containsCode (RangeTable.scan text {} []) n) = true :=
    ⟨_, rfl, by decide +kernel⟩
  rw [htable, RangeTable.ofText, String.toList_ofList]
  have hnot := List.all_eq_true.1 hall n hn
  rwa [Bool.not_eq_true'] at hnot

/-- No blank is a word character. -/
theorem wordTable_contains_blank {c : Char} (hc : isBlank c = true) :
    wordTable.contains c = false :=
  not_containsCode_of_mem (mem_separatorCodes hc)

theorem wordTable_contains_at : wordTable.contains '@' = false :=
  not_containsCode_of_mem (by decide)

-- ════════════════════════════════════════════════════════════════════════
-- The first mention
-- ════════════════════════════════════════════════════════════════════════

/-- An at sign, a name of one to fifteen word characters, and blanks. -/
inductive IsMention : List Char → Prop
  | intro {name blanks : List Char} (hlo : 1 ≤ name.length) (hhi : name.length ≤ 15)
      (hname : ∀ c ∈ name, wordTable.contains c = true) (hne : blanks ≠ [])
      (hblanks : ∀ c ∈ blanks, isBlank c = true) : IsMention ('@' :: (name ++ blanks))

/-- The text does not start with a blank. -/
def StartsPlain (s : List Char) : Prop :=
  ∀ c, s.head? = some c → isBlank c = false

/-- A mention ends where no blank follows, and the text after it is what is found. -/
theorem afterMention?_append {m rest : List Char} (hm : IsMention m) (hrest : StartsPlain rest) :
    afterMention? (m ++ rest) = some rest := by
  obtain @⟨name, blanks, hlo, hhi, hname, hne, hblanks⟩ := hm
  obtain ⟨d, blanks, rfl⟩ := List.exists_cons_of_ne_nil hne
  obtain ⟨hd, hblanks⟩ := List.forall_mem_cons.1 hblanks
  have hstop : ∀ c, (d :: (blanks ++ rest)).head? = some c → wordTable.contains c = false := by
    rintro c ⟨⟩
    exact wordTable_contains_blank hd
  have hdrop : (name ++ d :: (blanks ++ rest)).dropWhile wordTable.contains =
      d :: (blanks ++ rest) := dropWhile_append hname hstop
  have htake : (name ++ d :: (blanks ++ rest)).takeWhile wordTable.contains = name := by
    rw [List.takeWhile_append_of_pos hname, List.takeWhile_cons_of_neg, List.append_nil]
    simp [wordTable_contains_blank hd]
  have htext : '@' :: (name ++ d :: blanks) ++ rest = '@' :: (name ++ d :: (blanks ++ rest)) := by
    simp
  rw [htext, afterMention?, if_pos rfl]
  simp only [hdrop, htake, mentionLimit]
  rw [if_pos ⟨hlo, hhi, hd⟩, dropWhile_append hblanks hrest]

theorem exists_of_afterMention? {s rest : List Char} (h : afterMention? s = some rest) :
    ∃ m, IsMention m ∧ StartsPlain rest ∧ s = m ++ rest := by
  cases s with
  | nil => cases h
  | cons c cs =>
    rw [afterMention?] at h
    split at h
    · next hc =>
      simp only at h
      split at h
      · cases h
      · next d tail hd =>
        split at h
        · next hlimits =>
          obtain ⟨hlo, hhi, hblank⟩ := hlimits
          obtain rfl := Option.some.inj h
          have hname := List.takeWhile_append_dropWhile (p := wordTable.contains) (l := cs)
          have hblanks := List.takeWhile_append_dropWhile (p := isBlank) (l := tail)
          refine ⟨'@' :: (cs.takeWhile wordTable.contains ++ d :: tail.takeWhile isBlank),
            .intro hlo hhi (fun c hc => List.mem_takeWhile_imp hc) (List.cons_ne_nil _ _) ?_,
            fun c => head?_dropWhile, ?_⟩
          · exact List.forall_mem_cons.2 ⟨hblank, fun c hc => List.mem_takeWhile_imp hc⟩
          · rw [hc, List.cons_append, List.append_assoc, List.cons_append, hblanks, ← hd, hname]
        · cases h
    · cases h

/-- What follows the first mention and all blanks after it. -/
theorem afterMention?_eq_some_iff {s rest : List Char} :
    afterMention? s = some rest ↔ ∃ m, IsMention m ∧ StartsPlain rest ∧ s = m ++ rest := by
  constructor
  · exact exists_of_afterMention?
  · rintro ⟨m, hm, hrest, rfl⟩
    exact afterMention?_append hm hrest

/-- A mention takes as many blanks as there are. -/
theorem IsMention.exists_longest {m : List Char} (hm : IsMention m) (s : List Char) :
    ∃ m' rest, IsMention m' ∧ StartsPlain rest ∧ m ++ s = m' ++ rest := by
  obtain @⟨name, blanks, hlo, hhi, hname, hne, hblanks⟩ := hm
  refine ⟨'@' :: (name ++ (blanks ++ s.takeWhile isBlank)), s.dropWhile isBlank,
    .intro hlo hhi hname (List.append_ne_nil_of_left_ne_nil hne _) ?_, fun c => head?_dropWhile, ?_⟩
  · exact List.forall_mem_append.2 ⟨hblanks, fun c hc => List.mem_takeWhile_imp hc⟩
  · simp [List.takeWhile_append_dropWhile]

/-- There is nothing to skip if the text starts with no mention. -/
theorem afterMention?_eq_none_iff {s : List Char} :
    afterMention? s = none ↔ ¬∃ m, IsMention m ∧ m <+: s := by
  rw [← not_iff_not, not_not, ← ne_eq, Option.ne_none_iff_exists']
  constructor
  · rintro ⟨rest, h⟩
    obtain ⟨m, hm, -, rfl⟩ := exists_of_afterMention? h
    exact ⟨m, hm, List.prefix_append m rest⟩
  · rintro ⟨m, hm, s, rfl⟩
    obtain ⟨m', rest, hm', hrest, heq⟩ := hm.exists_longest s
    exact ⟨rest, afterMention?_eq_some_iff.2 ⟨m', hm', hrest, heq⟩⟩

-- ════════════════════════════════════════════════════════════════════════
-- All mentions
-- ════════════════════════════════════════════════════════════════════════

/-- The text is mentions in order, each with all blanks after it, and a rest that starts with
none. -/
inductive Opens : (text : List Char) → (mentions : List (List Char)) → (rest : List Char) → Prop
  /-- There is no mention. -/
  | rest {s : List Char} (hnone : ¬∃ m, IsMention m ∧ m <+: s) : Opens s [] s
  /-- There is a first mention. -/
  | mention {m s rest : List Char} {ms : List (List Char)} (hm : IsMention m)
      (hs : StartsPlain s) (later : Opens s ms rest) : Opens (m ++ s) (m :: ms) rest

namespace Opens

variable {s rest rest' : List Char} {ms ms' : List (List Char)}

theorem eq_append (h : Opens s ms rest) : s = ms.flatten ++ rest := by
  induction h with
  | rest => rfl
  | mention _ _ _ ih => rw [List.flatten_cons, List.append_assoc, ← ih]

/-- After the last mention no other one follows. -/
theorem not_prefix (h : Opens s ms rest) : ¬∃ m, IsMention m ∧ m <+: rest := by
  induction h with
  | rest hnone => exact hnone
  | mention _ _ _ ih => exact ih

/-- Mentions can be told from what follows in one way only. -/
theorem unique (h : Opens s ms rest) (h' : Opens s ms' rest') : ms = ms' ∧ rest = rest' := by
  induction h generalizing ms' with
  | rest hnone =>
    cases h' with
    | rest => exact ⟨rfl, rfl⟩
    | mention hm => exact absurd ⟨_, hm, List.prefix_append _ _⟩ hnone
  | @mention m s rest ms hm hs later ih =>
    generalize htext : m ++ s = text at h'
    cases h' with
    | rest hnone => exact absurd ⟨m, hm, ⟨s, htext⟩⟩ hnone
    | @mention m' s' _ ms' hm' hs' later' =>
      have hskip := afterMention?_append hm hs
      rw [htext, afterMention?_append hm' hs'] at hskip
      obtain rfl := Option.some.inj hskip
      obtain rfl := List.append_cancel_right htext
      obtain ⟨rfl, hrest⟩ := ih later'
      exact ⟨rfl, hrest⟩

end Opens

theorem exists_opens (s : List Char) : ∃ ms, Opens s ms (stripMentions s) := by
  rw [stripMentions]
  split
  · next rest h =>
    have : rest.length < s.length := length_afterMention?_lt h
    obtain ⟨m, hm, hrest, rfl⟩ := exists_of_afterMention? h
    obtain ⟨ms, later⟩ := exists_opens rest
    exact ⟨m :: ms, .mention hm hrest later⟩
  · next h => exact ⟨[], .rest (afterMention?_eq_none_iff.1 h)⟩
termination_by s.length

/-- What is left of a text are the characters after its last mention. -/
theorem opens_iff {s rest : List Char} : (∃ ms, Opens s ms rest) ↔ stripMentions s = rest := by
  constructor
  · rintro ⟨ms, h⟩
    obtain ⟨ms', h'⟩ := exists_opens s
    exact (h'.unique h).2
  · rintro rfl
    exact exists_opens s

theorem stripMentions_of_not_prefix {s : List Char} (h : ¬∃ m, IsMention m ∧ m <+: s) :
    stripMentions s = s :=
  opens_iff.1 ⟨[], .rest h⟩

theorem stripMentions_append {m s : List Char} (hm : IsMention m) (hs : StartsPlain s) :
    stripMentions (m ++ s) = stripMentions s := by
  obtain ⟨ms, h⟩ := exists_opens s
  exact opens_iff.1 ⟨m :: ms, .mention hm hs h⟩

theorem toList_normalizeText (s : String) : (normalizeText s).toList = stripMentions s.toList :=
  String.toList_ofList

end Parley
