import Mathlib.Data.List.Basic
import Parley.Regex.Escape

/-!
# Readers that stop at a parenthesis

A reader of patterns looks at the text ahead, and might read more where more text follows. What it
reads of a text on its own it also reads if a closing parenthesis and anything else follow: no
construct other than a group goes over one. Only a comment does, in verbose mode, and then nothing
of the text is left.

## Main definitions

- `Flags.Enclosed` — what is left to read where a closing parenthesis follows a text
- `Local` — a reader that reads the same before a closing parenthesis
- `LocalWithin` — the same for a reader whose steps are bounded

## Main results

- `Flags.Enclosed.skip` — what verbose mode passes over
- `local_readCount` — numbers are read so
- `local_readEscape` — backslash sequences are read so
-/

namespace Parley

open Parley.Text

-- ════════════════════════════════════════════════════════════════════════
-- Text before a parenthesis
-- ════════════════════════════════════════════════════════════════════════

/-- What is left to read where a closing parenthesis and `t` follow a text, beside what is left of
the text alone: the parenthesis comes after it, unless a comment has gone over all. -/
inductive Flags.Enclosed (f : Flags) (t : List Char) : List Char → List Char → Prop
  /-- The parenthesis comes after what is left. -/
  | before (ht : f.verbose → '\n' ∉ t) (s : List Char) : Enclosed f t s (s ++ ')' :: t)
  /-- A comment has gone over the parenthesis. -/
  | swallowed (hverbose : f.verbose) : Enclosed f t [] []

namespace Flags

variable {f : Flags} {s s' t : List Char}

theorem skipVerbose_suffix (s : List Char) (comment : Bool) : skipVerbose s comment <:+ s := by
  induction s generalizing comment with
  | nil => exact List.suffix_refl _
  | cons c cs ih =>
    rw [skipVerbose]
    split
    · exact (ih _).trans (List.suffix_cons c cs)
    split
    · exact (ih _).trans (List.suffix_cons c cs)
    split
    · exact (ih _).trans (List.suffix_cons c cs)
    · exact List.suffix_refl _

theorem skip_suffix (f : Flags) (s : List Char) : f.skip s <:+ s := by
  unfold skip
  split
  · exact skipVerbose_suffix s false
  · exact List.suffix_refl s

/-- The mode at the start of a pattern passes over nothing. -/
@[simp]
theorem skip_default (s : List Char) : Flags.skip {} s = s :=
  rfl

@[simp]
theorem skip_nil (f : Flags) : f.skip [] = [] :=
  List.suffix_nil.mp (f.skip_suffix [])

/-- If something is left, what follows is not passed over. -/
theorem skipVerbose_append {comment : Bool} (h : skipVerbose s comment ≠ []) (t : List Char) :
    skipVerbose (s ++ t) comment = skipVerbose s comment ++ t := by
  induction s generalizing comment with
  | nil => exact absurd rfl h
  | cons c cs ih =>
    rw [skipVerbose] at h
    rw [List.cons_append, skipVerbose, skipVerbose]
    split
    · next hcomment =>
      rw [if_pos hcomment] at h
      exact ih h
    next hcomment =>
    rw [if_neg hcomment] at h
    split
    · next hblank =>
      rw [if_pos hblank] at h
      exact ih h
    next hblank =>
    rw [if_neg hblank] at h
    split
    · next hsign =>
      rw [if_pos hsign] at h
      exact ih h
    · rfl

theorem skip_append (h : f.skip s ≠ []) (t : List Char) : f.skip (s ++ t) = f.skip s ++ t := by
  unfold skip at h ⊢
  split
  · next hverbose =>
    rw [if_pos hverbose] at h
    exact skipVerbose_append h t
  · rfl

/-- A comment goes over all that is on its line. -/
theorem skipVerbose_comment (h : '\n' ∉ s) : skipVerbose s true = [] := by
  induction s with
  | nil => rfl
  | cons c cs ih =>
    obtain ⟨hc, hcs⟩ := List.ne_and_not_mem_of_not_mem_cons h
    rw [skipVerbose, if_pos rfl, decide_eq_true (Ne.symm hc)]
    exact ih hcs

/-- If nothing is left, either the parenthesis ends what is passed over or a comment does not. -/
theorem skipVerbose_append_paren {comment : Bool} (h : skipVerbose s comment = [])
    (ht : '\n' ∉ t) :
    skipVerbose (s ++ ')' :: t) comment = ')' :: t ∨ skipVerbose (s ++ ')' :: t) comment = [] := by
  induction s generalizing comment with
  | nil =>
    cases comment with
    | false => exact .inl rfl
    | true => exact .inr (skipVerbose_comment (by simp [ht]))
  | cons c cs ih =>
    rw [skipVerbose] at h
    rw [List.cons_append, skipVerbose]
    split
    · next hcomment =>
      rw [if_pos hcomment] at h
      exact ih h
    next hcomment =>
    rw [if_neg hcomment] at h
    split
    · next hblank =>
      rw [if_pos hblank] at h
      exact ih h
    next hblank =>
    rw [if_neg hblank] at h
    split
    · next hsign =>
      rw [if_pos hsign] at h
      exact ih h
    · next hsign =>
      rw [if_neg hsign] at h
      cases h

namespace Enclosed

/-- Passing over what the mode does not read. -/
theorem skip (h : f.Enclosed t s s') : f.Enclosed t (f.skip s) (f.skip s') := by
  cases h with
  | swallowed hverbose =>
    rw [skip_nil]
    exact .swallowed hverbose
  | before ht s =>
    by_cases hnil : f.skip s = []
    · rw [hnil]
      unfold Flags.skip at hnil ⊢
      split
      · next hverbose =>
        rw [if_pos hverbose] at hnil
        rcases skipVerbose_append_paren hnil (ht hverbose) with h | h
        · rw [h]
          exact .before ht []
        · rw [h]
          exact .swallowed hverbose
      · next hverbose =>
        rw [if_neg hverbose] at hnil
        rw [hnil]
        exact .before ht []
    · rw [skip_append hnil]
      exact .before ht _

/-- If something is left, the parenthesis comes after it. -/
theorem eq_of_ne_nil (h : f.Enclosed t s s') (hs : s ≠ []) : s' = s ++ ')' :: t := by
  cases h with
  | before => rfl
  | swallowed => exact absurd rfl hs

end Enclosed

/-- The next character is passed over if one more follows. -/
theorem next?_eq_some {rest : List Char} (h : f.next? s = some rest) :
    rest ≠ [] ∧ ∃ c cs, s = c :: cs ∧ f.skip cs = rest := by
  unfold next? at h
  split at h
  · cases h
  · next hne =>
    cases h
    cases s with
    | nil => exact absurd (f.skip_nil) hne
    | cons c cs => exact ⟨hne, c, cs, rfl, rfl⟩

theorem next?_cons {c : Char} {cs : List Char} (h : f.skip cs ≠ []) :
    f.next? (c :: cs) = some (f.skip cs) := by
  unfold next?
  split
  · next hnil => exact absurd hnil h
  · rfl

theorem next?_suffix {rest : List Char} (h : f.next? s = some rest) : rest <:+ s.tail := by
  obtain ⟨-, c, cs, rfl, rfl⟩ := next?_eq_some h
  exact f.skip_suffix cs

/-- The character after the next one is seen before a parenthesis as well. -/
theorem next?_append {rest : List Char} (h : f.next? s = some rest) (t : List Char) :
    f.next? (s ++ t) = some (rest ++ t) := by
  obtain ⟨hne, c, cs, rfl, rfl⟩ := next?_eq_some h
  have happend := skip_append hne t
  rw [List.cons_append, ← happend]
  exact next?_cons (by rw [happend]; exact List.append_ne_nil_of_left_ne_nil hne t)

end Flags

-- ════════════════════════════════════════════════════════════════════════
-- Local readers
-- ════════════════════════════════════════════════════════════════════════

/-- What the reader reads of a text it also reads if a closing parenthesis follows the text, and
what it leaves is the end of the text. -/
def Local {α : Type} (f : Flags) (read : List Char → Option (α × List Char)) : Prop :=
  ∀ s x rest, read s = some (x, rest) →
    rest <:+ s ∧ ∀ t, (f.verbose → '\n' ∉ t) →
      ∃ rest', read (s ++ ')' :: t) = some (x, rest') ∧ f.Enclosed t rest rest'

/-- The same for a reader that takes at most so many steps. -/
def LocalWithin {α : Type} (f : Flags) (read : Nat → List Char → Option (α × List Char)) : Prop :=
  ∀ fuel s x rest, read fuel s = some (x, rest) →
    rest <:+ s ∧ ∀ t, (f.verbose → '\n' ∉ t) →
      ∃ rest', (∀ fuel', fuel ≤ fuel' → read fuel' (s ++ ')' :: t) = some (x, rest')) ∧
        f.Enclosed t rest rest'

namespace Local

variable {α β : Type} {f : Flags} {read : List Char → Option (α × List Char)}

/-- What was read of the text before is read of what is left within a group. -/
theorem enclosed (h : Local f read) {s s' t rest : List Char} {x : α}
    (hs : read s = some (x, rest)) (hs' : f.Enclosed t s s') :
    ∃ rest', read s' = some (x, rest') ∧ f.Enclosed t rest rest' := by
  obtain ⟨hsuffix, happend⟩ := h s x rest hs
  cases hs' with
  | before ht => exact happend t ht
  | swallowed hverbose =>
    obtain rfl := List.suffix_nil.mp hsuffix
    exact ⟨[], hs, .swallowed hverbose⟩

/-- Nothing is read. -/
theorem nothing (f : Flags) (x : Option α) : Local f fun s => x.map fun a => (a, s) := by
  intro s y rest h
  obtain ⟨a, rfl, heq⟩ := Option.map_eq_some_iff.mp h
  cases heq
  exact ⟨List.suffix_refl _, fun t ht => ⟨_, rfl, .before ht _⟩⟩

theorem of_eq {read' : List Char → Option (α × List Char)} (h : Local f read)
    (heq : ∀ s, read' s = read s) : Local f read' := by
  obtain rfl : read' = read := funext heq
  exact h

/-- One reader after another. -/
theorem bind {next : α → List Char → Option (β × List Char)} (h : Local f read)
    (h' : ∀ a, Local f (next a)) : Local f fun s => (read s).bind fun x => next x.1 x.2 := by
  intro s y rest hs
  obtain ⟨⟨a, left⟩, ha, hy⟩ := Option.bind_eq_some_iff.mp hs
  obtain ⟨hsuffix, happend⟩ := h s a left ha
  refine ⟨(h' a left y rest hy).1.trans hsuffix, fun t ht => ?_⟩
  obtain ⟨left', hleft, henclosed⟩ := happend t ht
  obtain ⟨rest', hrest, henclosed'⟩ := (h' a).enclosed hy henclosed
  exact ⟨rest', by simp only [hleft, Option.bind_some, hrest], henclosed'⟩

/-- What is read is made into something else, which may fail. -/
theorem filterMap (h : Local f read) (g : α → Option β) :
    Local f fun s => (read s).bind fun x => (g x.1).map fun b => (b, x.2) :=
  h.bind fun a => nothing f (g a)

/-- The reader begins after what the mode passes over. -/
theorem skip (h : Local f read) : Local f fun s => read (f.skip s) := by
  intro s x rest hs
  refine ⟨(h _ x rest hs).1.trans (f.skip_suffix s), fun t ht => ?_⟩
  exact h.enclosed hs (Flags.Enclosed.before ht s).skip

/-- What the mode passes over is left out after the reader. -/
theorem thenSkip (h : Local f read) : Local f fun s => (read s).map fun x => (x.1, f.skip x.2) := by
  intro s x rest hs
  obtain ⟨⟨a, left⟩, ha, heq⟩ := Option.map_eq_some_iff.mp hs
  cases heq
  obtain ⟨hsuffix, happend⟩ := h s a left ha
  refine ⟨(f.skip_suffix left).trans hsuffix, fun t ht => ?_⟩
  obtain ⟨left', hleft, henclosed⟩ := happend t ht
  exact ⟨f.skip left', by simp only [hleft, Option.map_some], henclosed.skip⟩

/-- Two readers, of which the first is for what follows a certain character. -/
theorem ofHead {read' : List Char → Option (α × List Char)} (c : Char) (h : Local f read)
    (h' : Local f read') :
    Local f fun
      | [] => none
      | d :: cs => if d = c then read cs else read' (d :: cs) := by
  intro s x rest hs
  cases s with
  | nil => cases hs
  | cons d cs =>
    simp only [List.cons_append] at hs ⊢
    split at hs
    · next hd =>
      obtain ⟨hsuffix, happend⟩ := h cs x rest hs
      refine ⟨hsuffix.trans (List.suffix_cons d cs), fun t ht => ?_⟩
      rw [if_pos hd]
      exact happend t ht
    · next hd =>
      obtain ⟨hsuffix, happend⟩ := h' (d :: cs) x rest hs
      refine ⟨hsuffix, fun t ht => ?_⟩
      rw [if_neg hd]
      exact happend t ht

/-- One character, if it is of use. -/
theorem head (f : Flags) (g : Char → Option α) :
    Local f fun
      | [] => none
      | c :: cs => (g c).map fun a => (a, cs) := by
  intro s x rest hs
  cases s with
  | nil => cases hs
  | cons c cs =>
    obtain ⟨a, ha, heq⟩ := Option.map_eq_some_iff.mp hs
    cases heq
    refine ⟨List.suffix_cons c _, fun t ht => ⟨_, ?_, .before ht _⟩⟩
    simp only [List.cons_append, ha, Option.map_some]

end Local

/-- A reader whose bound is the length of the text and some more. -/
theorem LocalWithin.of_length {α : Type} {f : Flags}
    {read : Nat → List Char → Option (α × List Char)} (h : LocalWithin f read) (more : Nat) :
    Local f fun s => read (s.length + more) s := by
  intro s x rest hs
  obtain ⟨hsuffix, happend⟩ := h _ s x rest hs
  refine ⟨hsuffix, fun t ht => ?_⟩
  obtain ⟨rest', hrest, henclosed⟩ := happend t ht
  refine ⟨rest', hrest _ ?_, henclosed⟩
  rw [List.length_append]
  omega

-- ════════════════════════════════════════════════════════════════════════
-- Numbers
-- ════════════════════════════════════════════════════════════════════════

variable {f : Flags}

/-- Blanks before a parenthesis. -/
theorem Flags.Enclosed.dropWhile {s s' t : List Char} (h : f.Enclosed t s s') :
    f.Enclosed t (s.dropWhile isBlank) (s'.dropWhile isBlank) := by
  cases h with
  | swallowed hverbose => exact .swallowed hverbose
  | before ht =>
    have hparen : isBlank ')' = false := by decide
    have hdrop : (s ++ ')' :: t).dropWhile isBlank = s.dropWhile isBlank ++ ')' :: t := by
      induction s with
      | nil => simp [hparen]
      | cons c cs ih =>
        rw [List.cons_append, List.dropWhile_cons, List.dropWhile_cons, ih]
        split <;> rfl
    rw [hdrop]
    exact .before ht _

theorem countDigits_suffix (fuel : Nat) (s : List Char) : (countDigits f fuel s).2 <:+ s := by
  induction fuel generalizing s with
  | zero => exact List.suffix_refl _
  | succ fuel ih =>
    cases s with
    | nil => exact List.suffix_refl _
    | cons c cs =>
      rw [countDigits]
      split
      · exact ((ih _).trans (f.skip_suffix cs)).trans (List.suffix_cons c cs)
      · exact List.suffix_refl _

/-- Digits end at a parenthesis. -/
theorem Flags.Enclosed.countDigits {fuel fuel' : Nat} {s s' t : List Char} (h : f.Enclosed t s s')
    (hfuel : s.length ≤ fuel) (hfuel' : s'.length ≤ fuel') :
    (Parley.countDigits f fuel' s').1 = (Parley.countDigits f fuel s).1 ∧
      f.Enclosed t (Parley.countDigits f fuel s).2 (Parley.countDigits f fuel' s').2 := by
  induction fuel generalizing fuel' s s' with
  | zero =>
    obtain rfl := List.eq_nil_of_length_eq_zero (Nat.le_zero.mp hfuel)
    cases h with
    | before ht => cases fuel' <;> exact ⟨rfl, .before ht []⟩
    | swallowed hverbose => cases fuel' <;> exact ⟨rfl, .swallowed hverbose⟩
  | succ fuel ih =>
    cases h with
    | swallowed hverbose => cases fuel' <;> exact ⟨rfl, .swallowed hverbose⟩
    | before ht =>
      obtain ⟨fuel', rfl⟩ : ∃ n, fuel' = n + 1 := ⟨fuel' - 1, by simp at hfuel'; omega⟩
      cases s with
      | nil => exact ⟨rfl, .before ht []⟩
      | cons c cs =>
        have hskip := (Flags.Enclosed.before ht cs).skip
        have hless := (f.skip_suffix cs).length_le
        have hless' := (f.skip_suffix (cs ++ ')' :: t)).length_le
        simp only [List.cons_append, List.length_cons] at hfuel hfuel'
        have hfuel : (f.skip cs).length ≤ fuel := by omega
        have hfuel' : (f.skip (cs ++ ')' :: t)).length ≤ fuel' := by omega
        obtain ⟨hdigits, hrest⟩ := ih hskip hfuel hfuel'
        simp only [List.cons_append, Parley.countDigits]
        split
        · exact ⟨by rw [hdigits], hrest⟩
        · exact ⟨rfl, .before ht _⟩

/-- A number is read the same before a parenthesis. -/
theorem local_readCount : Local f (readCount f) := by
  intro s n rest h
  let digits (s : List Char) := countDigits f (s.dropWhile isBlank).length (s.dropWhile isBlank)
  have hread : ∀ s, readCount f s =
      if (digits s).1.isEmpty ∨ 0x100000000 ≤ digitsValue 10 (digits s).1 then none
      else some (digitsValue 10 (digits s).1, f.skip ((digits s).2.dropWhile isBlank)) :=
    fun _ => rfl
  rw [hread] at h
  split at h
  · cases h
  · next hvalue =>
    cases h
    refine ⟨?_, fun t ht => ?_⟩
    · exact ((f.skip_suffix _).trans (List.dropWhile_suffix _)).trans
        ((countDigits_suffix _ _).trans (List.dropWhile_suffix _))
    · obtain ⟨hdigits, hleft⟩ : (digits (s ++ ')' :: t)).1 = (digits s).1 ∧ _ :=
        (Flags.Enclosed.before ht s).dropWhile.countDigits (Nat.le_refl _) (Nat.le_refl _)
      refine ⟨_, ?_, hleft.dropWhile.skip⟩
      rw [hread, hdigits, if_neg hvalue]

-- ════════════════════════════════════════════════════════════════════════
-- Escapes
-- ════════════════════════════════════════════════════════════════════════

theorem local_readHexDigits (count : Nat) : Local f (readHexDigits f count) := by
  induction count with
  | zero => exact (Local.nothing f (some [])).thenSkip
  | succ count ih =>
    have hdigit := (Local.head f hexValue?).bind fun d => ih.filterMap fun ds => some (d :: ds)
    refine hdigit.skip.of_eq fun s => ?_
    rw [readHexDigits]
    cases f.skip s with
    | nil => rfl
    | cons c cs =>
      simp only [Option.bind_eq_bind]
      cases hexValue? c with
      | none => rfl
      | some d =>
        simp only [Option.bind_some, Option.map_some]
        cases readHexDigits f count cs <;> rfl

/-- An item of a text in braces, or the brace that closes it. -/
theorem readBraced_of_skip {α : Type} (item? : Char → Option α) (fuel : Nat) {c : Char}
    {s cs : List Char} (h : f.skip s = c :: cs) :
    readBraced f item? (fuel + 1) s =
      if c = '}' then some ([], cs)
      else (item? c).bind fun x => (readBraced f item? fuel cs).map fun y => (x :: y.1, y.2) := by
  split
  · next hc =>
    subst hc
    simp only [readBraced, h]
  · next hc =>
    simp only [readBraced, h]
    cases item? c with
    | none => rfl
    | some x => cases readBraced f item? fuel cs <;> rfl

/-- A text in braces ends at its brace. -/
theorem local_readBraced {α : Type} (item? : Char → Option α) :
    LocalWithin f (readBraced f item?) := by
  intro fuel
  induction fuel with
  | zero =>
    intro s x rest h
    cases h
  | succ fuel ih =>
    intro s x rest h
    cases hskip : f.skip s with
    | nil =>
      simp only [readBraced, hskip] at h
      cases h
    | cons c cs =>
      have hcs : cs <:+ s := (List.suffix_cons c cs).trans (hskip ▸ f.skip_suffix s)
      have hlonger : ∀ t, f.skip (s ++ ')' :: t) = c :: (cs ++ ')' :: t) := by
        intro t
        rw [Flags.skip_append (by rw [hskip]; exact List.cons_ne_nil c cs), hskip,
          List.cons_append]
      rw [readBraced_of_skip item? fuel hskip] at h
      split at h
      · next hc =>
        cases h
        refine ⟨hcs, fun t ht => ⟨_, fun fuel' hfuel => ?_, .before ht _⟩⟩
        obtain ⟨fuel', rfl⟩ : ∃ n, fuel' = n + 1 := ⟨fuel' - 1, by omega⟩
        rw [readBraced_of_skip item? fuel' (hlonger t), if_pos hc]
      · next hc =>
        obtain ⟨a, ha, h⟩ := Option.bind_eq_some_iff.mp h
        obtain ⟨⟨as, left⟩, has, heq⟩ := Option.map_eq_some_iff.mp h
        cases heq
        obtain ⟨hsuffix, happend⟩ := ih cs as _ has
        refine ⟨hsuffix.trans hcs, fun t ht => ?_⟩
        obtain ⟨rest', hrest, henclosed⟩ := happend t ht
        refine ⟨rest', fun fuel' hfuel => ?_, henclosed⟩
        obtain ⟨fuel', rfl⟩ : ∃ n, fuel' = n + 1 := ⟨fuel' - 1, by omega⟩
        rw [readBraced_of_skip item? fuel' (hlonger t), if_neg hc, ha, Option.bind_some,
          hrest fuel' (by omega), Option.map_some]

/-- A character given by number. -/
theorem local_readHex (count : Nat) : Local f (readHex f count) := by
  have hbraced := (((local_readBraced (f := f) hexValue?).of_length 1).filterMap fun ds =>
    if ds.isEmpty then none
    else (scalar? (digitsValue 16 ds)).map fun c => Escape.literal c false).thenSkip
  have hplain := (local_readHexDigits (f := f) count).filterMap fun ds =>
    (scalar? (digitsValue 16 ds)).map fun c => Escape.literal c (count == 2)
  refine (Local.ofHead '{' hbraced hplain).skip.of_eq fun s => ?_
  rw [readHex]
  cases f.skip s with
  | nil => rfl
  | cons c cs =>
    by_cases hc : c = '{'
    · subst hc
      simp only [if_true]
      cases readBraced f hexValue? (cs.length + 1) cs with
      | none => rfl
      | some x =>
        simp only [Option.bind_eq_bind, Option.bind_some]
        split
        · rfl
        · cases scalar? (digitsValue 16 x.1) <;> rfl
    · simp only [if_neg hc]
      split
      · next heq => cases heq
      · next heq => exact absurd (List.cons.inj heq).1 hc
      · cases readHexDigits f count (c :: cs) with
        | none => rfl
        | some x => cases hscalar : scalar? (digitsValue 16 x.1) <;> simp [hscalar]

/-- A class that is a complement, as its negation. -/
def signed (negated : Bool) : CharClass → Bool × CharClass
  | .compl k => (!negated, k)
  | k => (negated, k)

/-- The class of a property. -/
theorem local_readProperty (negated : Bool) : Local f (readProperty f negated) := by
  have hname := (((local_readBraced (f := f) some).of_length 1).ofHead '{'
    (Local.head f fun c => if c = '\\' then none else some [c]).thenSkip).skip.filterMap
      fun name => if !f.unicode then none else
        (propertyClass? name).bind fun k =>
          (f.finish (signed negated k).1 (signed negated k).2).map Escape.chars
  -- the class is the same once the name is read
  have hclass : ∀ name : List Char × List Char,
      (if !f.unicode then none else (propertyClass? name.1).bind fun k =>
        (f.finish (signed negated k).1 (signed negated k).2).bind fun k =>
          some (Escape.chars k, name.2)) =
      (if !f.unicode then none else (propertyClass? name.1).bind fun k =>
        (f.finish (signed negated k).1 (signed negated k).2).map Escape.chars).map
          fun e => (e, name.2) := by
    intro name
    split
    · rfl
    · cases propertyClass? name.1 with
      | none => rfl
      | some k =>
        simp only [Option.bind_some]
        cases f.finish (signed negated k).1 (signed negated k).2 <;> rfl
  refine hname.of_eq fun s => ?_
  rw [readProperty]
  cases f.skip s with
  | nil => rfl
  | cons c cs =>
    by_cases hc : c = '{'
    · subst hc
      simp only [if_true]
      cases readBraced f some (cs.length + 1) cs with
      | none => rfl
      | some x => exact hclass x
    · simp only [if_neg hc]
      by_cases hb : c = '\\'
      · subst hb
        rfl
      · split
        · next heq => cases heq
        · next heq => exact absurd (List.cons.inj heq).1 hc
        · next heq => exact absurd (List.cons.inj heq).1 hb
        · next heq =>
          cases heq
          rw [if_neg hb]
          exact hclass ([c], f.skip cs)

/-- A word boundary. -/
theorem local_readBoundary : Local f (readBoundary f) := by
  intro s e rest h
  match s with
  | [] =>
    cases h
    exact ⟨List.suffix_refl _, fun t ht => ⟨_, rfl, .before ht []⟩⟩
  | c :: cs =>
    by_cases hc : c = '{'
    · subst hc
      cases hskip : f.skip cs with
      | nil =>
        simp only [readBoundary, hskip] at h
        cases h
      | cons d ds =>
        have hds : d :: ds <:+ '{' :: cs :=
          (hskip ▸ f.skip_suffix cs).trans (List.suffix_cons _ _)
        have hlonger : ∀ t, f.skip (cs ++ ')' :: t) = d :: (ds ++ ')' :: t) := by
          intro t
          rw [Flags.skip_append (by rw [hskip]; exact List.cons_ne_nil d ds), hskip,
            List.cons_append]
        simp only [readBoundary, hskip, List.cons_append, hlonger] at h ⊢
        split at h
        · next hletter =>
          obtain ⟨⟨name, left⟩, hname, h⟩ := Option.bind_eq_some_iff.mp h
          obtain ⟨hsuffix, happend⟩ := local_readBraced _ _ _ _ _ hname
          have hleft : left = rest := by
            simp only at h
            repeat' split at h
            all_goals cases h
            all_goals rfl
          subst hleft
          refine ⟨hsuffix.trans hds, fun t ht => ?_⟩
          obtain ⟨rest', hrest, henclosed⟩ := happend t ht
          refine ⟨rest', ?_, henclosed⟩
          rw [if_pos hletter, ← List.cons_append, hrest _ (by rw [List.length_append]; omega)]
          simp only [Option.bind_eq_bind, Option.bind_some] at h ⊢
          repeat' split at h
          all_goals cases h
          all_goals simp_all
        · next hletter =>
          cases h
          refine ⟨List.suffix_refl _, fun t ht => ⟨_, ?_, .before ht _⟩⟩
          rw [if_neg hletter]
          rfl
    · have hplain : ∀ cs, readBoundary f (c :: cs) =
          some (.look (.wordBoundary f.wordKind), c :: cs) := by
        intro cs
        unfold readBoundary
        split
        · next heq => exact absurd (List.cons.inj heq).1 hc
        · rfl
      rw [hplain] at h
      cases h
      exact ⟨List.suffix_refl _, fun t ht => ⟨_, hplain _, .before ht _⟩⟩

/-- A class of digits, blanks or word characters needs no further text. -/
theorem local_shorthand (negated : Bool) (all ascii : CharClass) :
    Local f fun s => (shorthand f negated all ascii).map fun k => (Escape.chars k, s) :=
  (Local.nothing f ((shorthand f negated all ascii).map Escape.chars)).of_eq fun s => by
    rw [Option.map_map]
    rfl

/-- A backslash sequence is read the same before a parenthesis. -/
theorem local_readEscape : Local f (readEscape f) := by
  intro s e rest h
  cases s with
  | nil => cases h
  | cons c cs =>
    have hcons : ∀ {read : List Char → Option (Escape × List Char)}, Local f read →
        read cs = some (e, rest) → (∀ cs, readEscape f (c :: cs) = read cs) →
        rest <:+ c :: cs ∧ ∀ t, (f.verbose → '\n' ∉ t) →
          ∃ rest', readEscape f (c :: cs ++ ')' :: t) = some (e, rest') ∧
            f.Enclosed t rest rest' := by
      intro read hread hcs heq
      obtain ⟨hsuffix, happend⟩ := hread cs e rest hcs
      refine ⟨hsuffix.trans (List.suffix_cons c cs), fun t ht => ?_⟩
      rw [List.cons_append, heq]
      exact happend t ht
    simp only [readEscape] at h
    split at h
    case h_24 hx hu hU hp hP hd hD hs hS hw hW ha hf ht hn hr hv hA hz hb hB hlt hgt =>
      -- the character is none of those above, whatever follows it
      have hplain : ∀ cs, readEscape f (c :: cs) =
          if c.toNat ≤ 0x7F ∧ !c.isAlphanum then some (.literal c false, cs) else none := by
        intro cs
        by_cases hascii : c.toNat ≤ 0x7F ∧ !c.isAlphanum
        all_goals simp only [readEscape, hascii]
      refine hcons (Local.nothing f (if c.toNat ≤ 0x7F ∧ !c.isAlphanum then
        some (Escape.literal c false) else none)) ?_ fun cs => ?_
      · split at h <;> simp_all
      · rw [hplain]
        split <;> rfl
    all_goals first
      | exact hcons (local_readHex _) h fun _ => rfl
      | exact hcons (local_readProperty _) h fun _ => rfl
      | exact hcons (local_shorthand _ _ _) h fun _ => rfl
      | exact hcons local_readBoundary h fun _ => rfl
      | exact hcons (Local.nothing f (some _)) h fun _ => rfl

end Parley
