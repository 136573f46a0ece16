import Mathlib.Data.List.TakeWhile
import Parley.Proofs.Reader.Escape
import Parley.Regex.Bracket

/-!
# Bracketed classes before a parenthesis

A closing parenthesis stands for itself inside of brackets, so a class that is complete is read the
same whatever follows it.

## Main results

- `local_readClassItem` — an item is read the same before a parenthesis
- `local_readBracket` — so is a whole class
-/

namespace Parley

open Parley.Text

/-- No class has a parenthesis in its name. -/
theorem asciiClass?_of_paren {name : List Char} (h : ')' ∈ name) :
    asciiClass? (String.ofList name) = none := by
  have hne : ∀ text : String, ')' ∉ text.toList → String.ofList name ≠ text := by
    rintro text htext rfl
    rw [String.toList_ofList] at htext
    exact htext h
  unfold asciiClass?
  split
  case h_15 => rfl
  all_goals exact absurd ‹_› (hne _ (by decide))

/-- A name ends at the first mark. -/
theorem splitName {mark : Char} {name rest : List Char} (h : mark ∉ name) :
    (name ++ mark :: rest).takeWhile (· ≠ mark) = name ∧
      (name ++ mark :: rest).dropWhile (· ≠ mark) = mark :: rest := by
  have hall : ∀ c ∈ name, decide (c ≠ mark) = true := by
    rintro c hc
    refine decide_eq_true ?_
    rintro rfl
    exact h hc
  constructor
  · rw [List.takeWhile_append_of_pos hall]
    simp
  · rw [List.dropWhile_append_of_pos hall]
    simp

/-- Without a mark no name ends. -/
theorem dropWhile_eq_nil_of_not_mem {mark : Char} {s : List Char} (h : mark ∉ s) :
    s.dropWhile (· ≠ mark) = [] := by
  refine List.dropWhile_eq_nil_iff.mpr fun c hc => decide_eq_true ?_
  rintro rfl
  exact h hc

/-- The name of a class, after the colon and the caret. -/
def readClassName (negated : Bool) (body : List Char) : Option ((Bool × CharClass) × List Char) :=
  match body.dropWhile (· ≠ ':') with
  | ':' :: ']' :: rest =>
    (asciiClass? (String.ofList (body.takeWhile (· ≠ ':')))).map fun k => ((negated, k), rest)
  | _ => none

/-- A name that does not end before a parenthesis is none at all. -/
theorem readClassName_append (negated : Bool) (s t : List Char) :
    readClassName negated (s ++ ')' :: t) =
      (readClassName negated s).map fun x => (x.1, x.2 ++ ')' :: t) := by
  unfold readClassName
  by_cases hcolon : ':' ∈ s
  · obtain ⟨name, rest, rfl, hname⟩ := List.eq_append_cons_of_mem hcolon
    rw [List.append_assoc, List.cons_append, (splitName hname).1, (splitName hname).2,
      (splitName hname).1, (splitName hname).2]
    cases rest with
    | nil => rfl
    | cons c rest =>
      by_cases hc : c = ']'
      · subst hc
        simp only [List.cons_append]
        cases asciiClass? (String.ofList name) <;> rfl
      · simp [hc]
  · rw [dropWhile_eq_nil_of_not_mem hcolon]
    by_cases hcolon' : ':' ∈ t
    · -- the name would go over the parenthesis
      obtain ⟨name, rest, rfl, hname⟩ := List.eq_append_cons_of_mem hcolon'
      have hjoin : ':' ∉ s ++ ')' :: name := by simp [hcolon, hname]
      have hsplit : (s ++ ')' :: (name ++ ':' :: rest)) = (s ++ ')' :: name) ++ ':' :: rest := by
        simp
      rw [hsplit, (splitName hjoin).1, (splitName hjoin).2]
      split
      · rw [asciiClass?_of_paren (by simp)]
        rfl
      · rfl
    · rw [dropWhile_eq_nil_of_not_mem (by simp [hcolon, hcolon'])]
      rfl

theorem readClassName_suffix {negated : Bool} {s rest : List Char} {x : Bool × CharClass}
    (h : readClassName negated s = some (x, rest)) : rest <:+ s := by
  unfold readClassName at h
  split at h
  · next left hdrop =>
    obtain ⟨k, -, heq⟩ := Option.map_eq_some_iff.mp h
    cases heq
    have hsuffix := List.dropWhile_suffix (l := s) (· ≠ ':')
    rw [hdrop] at hsuffix
    exact ((List.suffix_cons _ _).trans (List.suffix_cons _ _)).trans hsuffix
  · cases h

/-- A named class stands after a bracket and a colon. -/
theorem readAsciiClass?_eq (body : List Char) :
    readAsciiClass? ('[' :: ':' :: body) =
      if body.head? = some '^' then readClassName true body.tail else readClassName false body := by
  cases body with
  | nil => rfl
  | cons c cs =>
    by_cases hc : c = '^'
    · subst hc
      rfl
    · rw [if_neg (by simpa using hc)]
      simp only [readAsciiClass?, List.cons.injEq, hc, false_and, imp_self, implies_true]
      rfl

theorem readAsciiClass?_of_ne {s : List Char} (h : ∀ body, s ≠ '[' :: ':' :: body) :
    readAsciiClass? s = none := by
  unfold readAsciiClass?
  split
  · exact absurd rfl (h _)
  · rfl

theorem readAsciiClass?_suffix {s rest : List Char} {x : Bool × CharClass}
    (h : readAsciiClass? s = some (x, rest)) : rest <:+ s := by
  by_cases hs : ∃ body, s = '[' :: ':' :: body
  · obtain ⟨body, rfl⟩ := hs
    have hbody := (List.suffix_cons ':' body).trans (List.suffix_cons '[' _)
    rw [readAsciiClass?_eq] at h
    split at h
    · exact (readClassName_suffix h).trans ((List.tail_suffix body).trans hbody)
    · exact (readClassName_suffix h).trans hbody
  · rw [readAsciiClass?_of_ne fun body hbody => hs ⟨body, hbody⟩] at h
    cases h

/-- The name of a class ends before a parenthesis or at a colon. -/
theorem readAsciiClass?_append (s t : List Char) :
    readAsciiClass? (s ++ ')' :: t) =
      (readAsciiClass? s).map fun x => (x.1, x.2 ++ ')' :: t) := by
  match s with
  | [] => rfl
  | [c] =>
    rw [List.singleton_append, readAsciiClass?_of_ne (s := [c]) (by simp),
      readAsciiClass?_of_ne (by simp)]
    rfl
  | c :: d :: cs =>
    by_cases hcd : c = '[' ∧ d = ':'
    · obtain ⟨rfl, rfl⟩ := hcd
      cases cs with
      | nil => exact readClassName_append false [] t
      | cons e es =>
        by_cases he : e = '^'
        · subst he
          exact readClassName_append true es t
        · have hplain : ∀ body, readAsciiClass? ('[' :: ':' :: e :: body) =
              readClassName false (e :: body) := by
            intro body
            rw [readAsciiClass?_eq, if_neg (by simpa using he)]
          rw [List.cons_append, List.cons_append, List.cons_append, hplain, hplain]
          exact readClassName_append false (e :: es) t
    · rw [List.cons_append, List.cons_append, readAsciiClass?_of_ne (s := c :: d :: cs)
        (by simp; tauto), readAsciiClass?_of_ne (by simp; tauto)]
      rfl

variable {f : Flags}

theorem local_readClassChar : Local f (readClassChar f) := by
  intro s e rest h
  cases s with
  | nil => cases h
  | cons c cs =>
    by_cases hc : c = '\\'
    · subst hc
      obtain ⟨hsuffix, happend⟩ := local_readEscape cs e rest h
      exact ⟨hsuffix.trans (List.suffix_cons _ _), happend⟩
    · have hplain : ∀ cs, readClassChar f (c :: cs) = some (.literal c false, cs) := by
        intro cs
        simp only [readClassChar]
      rw [hplain] at h
      cases h
      exact ⟨List.suffix_cons _ _, fun t ht => ⟨_, hplain _, .before ht _⟩⟩

-- ════════════════════════════════════════════════════════════════════════
-- Items
-- ════════════════════════════════════════════════════════════════════════

theorem Flags.skipVerbose_blanks {s : List Char} (h : s.dropWhile isBlank = []) (comment : Bool) :
    skipVerbose s comment = [] := by
  have hblank := List.dropWhile_eq_nil_iff.mp h
  clear h
  induction s generalizing comment with
  | nil => rfl
  | cons c cs ih =>
    have hrest := fun comment => ih comment fun d hd => hblank d (.tail _ hd)
    rw [skipVerbose, if_pos (hblank c (.head _)), hrest, hrest, ite_self]

theorem Flags.skipVerbose_dropWhile (s : List Char) :
    skipVerbose (s.dropWhile isBlank) false = skipVerbose s false := by
  induction s with
  | nil => rfl
  | cons c cs ih =>
    rw [List.dropWhile_cons]
    split
    · next hblank => rw [ih, skipVerbose, if_neg Bool.false_ne_true, if_pos hblank]
    · rfl

/-- The character after a dash is seen as well if more text follows, unless nothing but blanks and
comments are left. -/
theorem peekPast_append (s t : List Char) :
    peekPast f (s ++ t) = peekPast f s ∨
      f.skip s = [] ∧ ∀ c, peekPast f s = some c → isBlank c ∨ c = '#' := by
  unfold peekPast Flags.skip
  by_cases hverbose : f.verbose
  · simp only [if_pos hverbose]
    cases hdrop : s.dropWhile isBlank with
    | nil =>
      refine .inr ⟨Flags.skipVerbose_blanks hdrop false, fun c hc => .inl ?_⟩
      exact List.dropWhile_eq_nil_iff.mp hdrop c (List.mem_of_head? hc)
    | cons d ds =>
      have happend : (s ++ t).dropWhile isBlank = d :: (ds ++ t) := by
        rw [List.dropWhile_append, hdrop]
        rfl
      rw [happend]
      by_cases hd : d = '#'
      · subst hd
        cases hblanks : ds.dropWhile isBlank with
        | nil =>
          refine .inr ⟨?_, fun c hc => ?_⟩
          · rw [← Flags.skipVerbose_dropWhile, hdrop]
            exact Flags.skipVerbose_blanks hblanks true
          · cases s with
            | nil => cases hdrop
            | cons b bs =>
              rw [List.dropWhile_cons] at hdrop
              simp only [hblanks] at hc
              obtain rfl : b = c := Option.some.inj hc
              split at hdrop
              · next hblank => exact .inl hblank
              · exact .inr (List.cons.inj hdrop).1
        | cons e es =>
          have hlonger : (ds ++ t).dropWhile isBlank = e :: (es ++ t) := by
            rw [List.dropWhile_append, hblanks]
            rfl
          simp [hblanks, hlonger]
      · exact .inl (by simp)
  · simp only [if_neg hverbose]
    cases s with
    | nil => exact .inr ⟨rfl, fun c hc => nomatch hc⟩
    | cons c cs => exact .inl rfl

/-- The end of a range, after its first character. -/
def readRangeEnd (f : Flags) (first : Escape) (s : List Char) : Option (CharClass × List Char) :=
  (readClassChar f s).bind fun x =>
    ((first.literal? f).bind fun lo => (x.1.literal? f).bind fun hi =>
      if lo ≤ hi then some (CharClass.range lo hi) else none).map fun k => (k, x.2)

theorem local_readRangeEnd (first : Escape) : Local f (readRangeEnd f first) :=
  local_readClassChar.filterMap fun last =>
    (first.literal? f).bind fun lo => (last.literal? f).bind fun hi =>
      if lo ≤ hi then some (CharClass.range lo hi) else none

/-- What is read of an item after its first character: a range if a dash follows that has a
character after it and begins no operator. -/
def readItemEnd (f : Flags) (first : Escape) : List Char → Option (CharClass × List Char)
  | [] => none
  | c :: cs =>
    if c = '-' then
      if peekPast f cs = some ']' ∨ peekPast f cs = some '-' then
        (first.item? f).map fun k => (k, c :: cs)
      else (f.next? (c :: cs)).bind (readRangeEnd f first)
    else (first.item? f).map fun k => (k, c :: cs)

theorem local_readItemEnd (first : Escape) : Local f (readItemEnd f first) := by
  intro s k rest h
  cases s with
  | nil => cases h
  | cons c cs =>
    have hhere := Local.nothing f (first.item? f)
    simp only [readItemEnd, List.cons_append] at h ⊢
    split at h
    · next hc =>
      split at h
      · next hahead =>
        have hpeek : ∀ t, peekPast f (cs ++ t) = peekPast f cs := by
          intro t
          refine (peekPast_append cs t).resolve_right fun hnothing => ?_
          rcases hahead with hahead | hahead
          · exact absurd (hnothing.2 _ hahead) (by decide)
          · exact absurd (hnothing.2 _ hahead) (by decide)
        obtain ⟨hsuffix, happend⟩ := hhere _ _ _ h
        refine ⟨hsuffix, fun t ht => ?_⟩
        rw [if_pos hc, hpeek, if_pos hahead]
        exact happend t ht
      · next hahead =>
        obtain ⟨after, hnext, h⟩ := Option.bind_eq_some_iff.mp h
        have hpeek : ∀ t, peekPast f (cs ++ t) = peekPast f cs := by
          intro t
          refine (peekPast_append cs t).resolve_right fun hnothing => ?_
          obtain ⟨hne, _, _, heq, hskip⟩ := Flags.next?_eq_some hnext
          cases heq
          exact hne (hskip ▸ hnothing.1)
        obtain ⟨hsuffix, happend⟩ := local_readRangeEnd first _ _ _ h
        have hread := hsuffix.trans (Flags.next?_suffix hnext)
        refine ⟨hread.trans (List.suffix_cons _ _), fun t ht => ?_⟩
        rw [if_pos hc, hpeek, if_neg hahead, ← List.cons_append, Flags.next?_append hnext,
          Option.bind_some]
        exact happend t ht
    · next hc =>
      obtain ⟨hsuffix, happend⟩ := hhere _ _ _ h
      refine ⟨hsuffix, fun t ht => ?_⟩
      rw [if_neg hc]
      exact happend t ht

theorem readClassItem_eq (s : List Char) :
    readClassItem f s = (readClassChar f s).bind fun x => readItemEnd f x.1 (f.skip x.2) := by
  rw [readClassItem]
  refine congrArg (Option.bind _) (funext fun x => ?_)
  obtain ⟨first, rest⟩ := x
  simp only
  cases f.skip rest with
  | nil => rfl
  | cons c cs =>
    simp only [readItemEnd]
    split
    · next heq => cases heq
    · next after heq =>
      cases heq
      rw [if_pos rfl]
      split
      · cases first.item? f <;> rfl
      · simp only [Option.bind_eq_bind]
        refine congrArg (Option.bind _) (funext fun after => ?_)
        refine congrArg (Option.bind _) (funext fun x => ?_)
        cases first.literal? f with
        | none => rfl
        | some lo =>
          cases x.1.literal? f with
          | none => rfl
          | some hi =>
            simp only [Option.bind_some]
            split <;> rfl
    · next hdash =>
      rw [if_neg fun hc => hdash cs (by rw [hc])]
      cases first.item? f <;> rfl

theorem local_readClassItem : Local f (readClassItem f) :=
  (local_readClassChar.bind fun first => (local_readItemEnd first).skip).of_eq readClassItem_eq

-- ════════════════════════════════════════════════════════════════════════
-- The start of a class
-- ════════════════════════════════════════════════════════════════════════

/-- Leading dashes leave some of the text, and are read the same if more text follows. -/
theorem readLeadingDashes_append {fuel fuel' : Nat} {items : List Nested} {s : List Char}
    {x : List Nested × List Char} (hfuel : s.length ≤ fuel) (hfuel' : fuel ≤ fuel') (hs : s ≠ [])
    (h : readLeadingDashes f fuel items s = some x) :
    x.2 <:+ s ∧ x.2 ≠ [] ∧ ∀ t,
      readLeadingDashes f fuel' items (s ++ t) = some (x.1, x.2 ++ t) := by
  induction fuel generalizing fuel' items s with
  | zero => exact absurd (List.eq_nil_of_length_eq_zero (Nat.le_zero.mp hfuel)) hs
  | succ fuel ih =>
    obtain ⟨fuel', rfl⟩ : ∃ n, fuel' = n + 1 := ⟨fuel' - 1, by omega⟩
    cases s with
    | nil => exact absurd rfl hs
    | cons c cs =>
      by_cases hc : c = '-'
      · subst hc
        obtain ⟨rest, hnext, h⟩ := Option.bind_eq_some_iff.mp h
        obtain ⟨hrest, d, ds, heq, rfl⟩ := Flags.next?_eq_some hnext
        cases heq
        have hskip := (f.skip_suffix cs).length_le
        have hless : (f.skip cs).length ≤ fuel := by
          simp only [List.length_cons] at hfuel
          omega
        have hless' : fuel ≤ fuel' := by omega
        obtain ⟨hsuffix, hleft, happend⟩ := ih hless hless' hrest h
        have hread := hsuffix.trans (Flags.next?_suffix hnext)
        refine ⟨hread.trans (List.suffix_cons _ _), hleft, fun t => ?_⟩
        have hlonger := Flags.next?_append hnext t
        rw [List.cons_append] at hlonger ⊢
        rw [readLeadingDashes, hlonger]
        exact happend t
      · have hplain : ∀ (n : Nat) (cs : List Char),
            readLeadingDashes f n items (c :: cs) = some (items, c :: cs) := by
          intro n cs
          unfold readLeadingDashes
          split
          · next heq => exact absurd (List.cons.inj heq).1 hc
          · rfl
        rw [hplain] at h
        cases h
        exact ⟨List.suffix_refl _, List.cons_ne_nil _ _, fun t => hplain _ _⟩

/-- After the bracket and the caret: leading dashes, or a closing bracket that stands for itself. -/
def readFirstItems (f : Flags) (negated : Bool) (s : List Char) :
    Option ((Bool × List Nested) × List Char) :=
  (readLeadingDashes f s.length [] s).bind fun x =>
    if x.1 = [] ∧ x.2.head? = some ']' then
      (f.next? x.2).map fun rest => ((negated, [⟨.single ']', 0⟩]), rest)
    else some ((negated, x.1), x.2)

theorem head?_append_of_ne_nil {α : Type} {s : List α} (h : s ≠ []) (t : List α) :
    (s ++ t).head? = s.head? := by
  cases s with
  | nil => exact absurd rfl h
  | cons c cs => rfl

/-- The first items are read the same if more text follows. -/
theorem readFirstItems_append {negated : Bool} {s : List Char}
    {x : (Bool × List Nested) × List Char} (hs : s ≠ [])
    (h : readFirstItems f negated s = some x) :
    x.2 <:+ s ∧ ∀ t, readFirstItems f negated (s ++ t) = some (x.1, x.2 ++ t) := by
  obtain ⟨⟨items, left⟩, hdashes, h⟩ := Option.bind_eq_some_iff.mp h
  obtain ⟨hsuffix, hleft, -⟩ := readLeadingDashes_append (Nat.le_refl _) (Nat.le_refl _) hs hdashes
  have hlonger : ∀ t, readLeadingDashes f (s ++ t).length [] (s ++ t) = some (items, left ++ t) :=
    fun t => (readLeadingDashes_append (Nat.le_refl _) (by simp) hs hdashes).2.2 t
  simp only at h
  split at h
  · next hbracket =>
    obtain ⟨rest, hnext, rfl⟩ := Option.map_eq_some_iff.mp h
    refine ⟨((Flags.next?_suffix hnext).trans (List.tail_suffix _)).trans hsuffix, fun t => ?_⟩
    simp only [readFirstItems, hlonger, Option.bind_some, head?_append_of_ne_nil hleft,
      if_pos hbracket]
    rw [Flags.next?_append hnext]
    rfl
  · next hbracket =>
    cases h
    refine ⟨hsuffix, fun t => ?_⟩
    simp only [readFirstItems, hlonger, Option.bind_some, head?_append_of_ne_nil hleft,
      if_neg hbracket]

/-- A closing bracket where nothing stands before it is a character of the class. -/
def readFirstBracket (f : Flags) (negated : Bool) (x : List Nested × List Char) :
    Option (Bool × List Nested × List Char) :=
  match x.1, x.2 with
  | [], ']' :: rest => (f.next? (']' :: rest)).bind fun s =>
    some (negated, [⟨.single ']', 0⟩], s)
  | _, _ => some (negated, x.1, x.2)

/-- The start of a class: whether it is complemented, and its first items. -/
theorem readOpening_eq (s : List Char) :
    readOpening f s = (f.next? s).bind fun s =>
      (if s.head? = some '^' then (f.next? s).bind (readFirstItems f true)
        else readFirstItems f false s).map fun x => (x.1.1, x.1.2, x.2) := by
  have hfirst : ∀ (negated : Bool) (s : List Char),
      (readLeadingDashes f s.length [] s).bind (readFirstBracket f negated) =
      (readFirstItems f negated s).map fun x => (x.1.1, x.1.2, x.2) := by
    intro negated s
    unfold readFirstItems readFirstBracket
    cases readLeadingDashes f s.length [] s with
    | none => rfl
    | some x =>
      obtain ⟨items, left⟩ := x
      simp only [Option.bind_some]
      split
      · next rest =>
        rw [if_pos ⟨rfl, rfl⟩]
        cases f.next? (']' :: rest) <;> rfl
      · next hother =>
        rw [if_neg]
        · rfl
        · rintro ⟨rfl, hhead⟩
          obtain ⟨ds, rfl⟩ := List.head?_eq_some_iff.mp hhead
          exact hother ds rfl rfl
  unfold readOpening
  refine congrArg (Option.bind _) (funext fun s => ?_)
  by_cases hcaret : s.head? = some '^'
  · rw [if_pos hcaret]
    obtain ⟨cs, rfl⟩ := List.head?_eq_some_iff.mp hcaret
    simp only
    cases f.next? ('^' :: cs) with
    | none => rfl
    | some left => exact hfirst true left
  · rw [if_neg hcaret]
    cases s with
    | nil => exact hfirst false []
    | cons c cs =>
      have hc : c ≠ '^' := fun hc => hcaret (by rw [hc]; rfl)
      simp only
      split
      · next heq => exact absurd (List.cons.inj heq).1 hc
      · exact hfirst false (c :: cs)

/-- The start of a class is read the same if more text follows. -/
theorem readOpening_append {s : List Char} {x : Bool × List Nested × List Char}
    (h : readOpening f s = some x) :
    x.2.2 <:+ s.tail ∧ ∀ t, readOpening f (s ++ t) = some (x.1, x.2.1, x.2.2 ++ t) := by
  rw [readOpening_eq] at h
  obtain ⟨left, hnext, h⟩ := Option.bind_eq_some_iff.mp h
  obtain ⟨⟨⟨negated, items⟩, rest⟩, hitems, rfl⟩ := Option.map_eq_some_iff.mp h
  have hleft := (Flags.next?_eq_some hnext).1
  have hsuffix := Flags.next?_suffix hnext
  have hopening : ∀ t, readOpening f (s ++ t) =
      (if left.head? = some '^' then (f.next? (left ++ t)).bind (readFirstItems f true)
        else readFirstItems f false (left ++ t)).map fun x => (x.1.1, x.1.2, x.2) := by
    intro t
    rw [readOpening_eq, Flags.next?_append hnext, Option.bind_some, head?_append_of_ne_nil hleft]
  split at hitems
  · next hcaret =>
    obtain ⟨left', hnext', hitems⟩ := Option.bind_eq_some_iff.mp hitems
    obtain ⟨hrest, happend⟩ := readFirstItems_append (Flags.next?_eq_some hnext').1 hitems
    refine ⟨((hrest.trans (Flags.next?_suffix hnext')).trans (List.tail_suffix _)).trans hsuffix,
      fun t => ?_⟩
    rw [hopening, if_pos hcaret, Flags.next?_append hnext', Option.bind_some, happend]
    rfl
  · next hcaret =>
    obtain ⟨hrest, happend⟩ := readFirstItems_append hleft hitems
    refine ⟨hrest.trans hsuffix, fun t => ?_⟩
    rw [hopening, if_neg hcaret, happend]
    rfl

-- ════════════════════════════════════════════════════════════════════════
-- Whole classes
-- ════════════════════════════════════════════════════════════════════════

namespace Bracket

/-- What a step leaves to read. -/
def left : Bracket ⊕ Nested × List Char → List Char
  | .inl b => b.rest
  | .inr done => done.2

/-- The outcome of a step with other text to read. -/
def withLeft (rest : List Char) : Bracket ⊕ Nested × List Char → Bracket ⊕ Nested × List Char
  | .inl b => .inl { b with rest }
  | .inr done => .inr (done.1, rest)

/-- The operator at the start of a text, by its first two characters. -/
def operator? (c : Char) (cs : List Char) : Option SetOp :=
  if cs.head? = some c then
    if c = '&' then some .inter else if c = '-' then some .diff
    else if c = '~' then some .symmDiff else none
  else none

/-- A step at an operator. -/
theorem step_operator {items : List Nested} {outer : List OpenBracket} {c : Char}
    {s cs : List Char} {op : SetOp} (hskip : f.skip s = c :: cs) (h : operator? c cs = some op) :
    step f ⟨items, outer, s⟩ = (operand f ⟨items, outer, []⟩).map fun x =>
      .inl ⟨[], .operator op x.1 :: x.2, cs.tail⟩ := by
  unfold operator? at h
  unfold step
  split at h
  · next hhead =>
    obtain ⟨ds, rfl⟩ := List.head?_eq_some_iff.mp hhead
    rw [hskip]
    split at h
    · next hc =>
      subst hc
      cases h
      exact (Option.map_eq_bind ..).symm
    · split at h
      · next hc =>
        subst hc
        cases h
        exact (Option.map_eq_bind ..).symm
      · split at h
        · next hc =>
          subst hc
          cases h
          exact (Option.map_eq_bind ..).symm
        · cases h
  · cases h

/-- A step at an item. -/
theorem step_item {items : List Nested} {outer : List OpenBracket} {c : Char} {s cs : List Char}
    (hskip : f.skip s = c :: cs) (hopen : c ≠ '[') (hclose : c ≠ ']')
    (h : operator? c cs = none) :
    step f ⟨items, outer, s⟩ = (readClassItem f (c :: cs)).map fun x =>
      .inl ⟨⟨x.1, 0⟩ :: items, outer, x.2⟩ := by
  unfold operator? at h
  simp only [step, hskip]
  split
  · next heq => cases heq
  · next heq => exact absurd (List.cons.inj heq).1 hopen
  · next heq => exact absurd (List.cons.inj heq).1 hclose
  · next heq =>
    cases heq
    cases h
  · next heq =>
    cases heq
    cases h
  · next heq =>
    cases heq
    cases h
  · exact (Option.map_eq_bind ..).symm

/-- Whether an operator stands here is seen before a parenthesis. -/
theorem operator?_append (c : Char) (cs t : List Char) :
    operator? c (cs ++ ')' :: t) = operator? c cs := by
  cases cs with
  | nil =>
    unfold operator?
    by_cases hc : c = ')'
    · subst hc
      rfl
    · rw [if_neg (by simpa using Ne.symm hc), if_neg (by simp)]
  | cons d ds => rfl

/-- The outcome of closing a bracket, when the innermost union is complete. -/
def closing (f : Flags) (x : Nested × List OpenBracket) (rest : List Char) :
    Option (Bracket ⊕ Nested × List Char) :=
  match x.2 with
  | .bracket negated items :: outer =>
    (f.finish negated x.1.chars).map fun chars =>
      match outer with
      | [] => .inr (⟨chars, x.1.depth + 1⟩, rest)
      | outer => .inl ⟨⟨chars, x.1.depth + 1⟩ :: items, outer, rest⟩
  | _ => none

theorem closing_withLeft {x : Nested × List OpenBracket} {rest : List Char}
    {y : Bracket ⊕ Nested × List Char} (h : closing f x rest = some y) :
    left y = rest ∧ ∀ rest', closing f x rest' = some (withLeft rest' y) := by
  unfold closing at h ⊢
  split at h
  · obtain ⟨chars, hchars, rfl⟩ := Option.map_eq_some_iff.mp h
    simp only [hchars, Option.map_some]
    split <;> exact ⟨rfl, fun _ => rfl⟩
  · cases h

/-- A step at a closing bracket. -/
theorem step_close {items : List Nested} {outer : List OpenBracket} {s cs : List Char}
    (hskip : f.skip s = ']' :: cs) :
    step f ⟨items, outer, s⟩ =
      (operand f ⟨items, outer, []⟩).bind fun x => closing f x cs := by
  unfold step
  rw [hskip]
  change (operand f ⟨items, outer, []⟩).bind _ = _
  refine congrArg (Option.bind _) (funext fun x => ?_)
  obtain ⟨k, outer'⟩ := x
  unfold closing
  cases outer' with
  | nil => rfl
  | cons o outer' =>
    cases o with
    | operator op k => rfl
    | bracket negated items' =>
      simp only
      cases f.finish negated k.chars <;> cases outer' <;> rfl

/-- A step at an opening bracket. -/
theorem step_open {items : List Nested} {outer : List OpenBracket} {s cs : List Char}
    (hskip : f.skip s = '[' :: cs) :
    step f ⟨items, outer, s⟩ =
      match readAsciiClass? ('[' :: cs) with
      | some x => (f.finish x.1.1 x.1.2).map fun k => .inl ⟨⟨k, 0⟩ :: items, outer, x.2⟩
      | none => (readOpening f ('[' :: cs)).map fun x =>
        .inl ⟨x.2.1, .bracket x.1 items :: outer, x.2.2⟩ := by
  simp only [step, hskip]
  cases readAsciiClass? ('[' :: cs) with
  | some x => exact (Option.map_eq_bind ..).symm
  | none => exact (Option.map_eq_bind ..).symm

/-- A step is the same before a parenthesis. -/
theorem step_append {b : Bracket} {x : Bracket ⊕ Nested × List Char} (h : step f b = some x) :
    left x <:+ b.rest ∧ ∀ t, (f.verbose → '\n' ∉ t) →
      ∃ rest', step f { b with rest := b.rest ++ ')' :: t } = some (withLeft rest' x) ∧
        f.Enclosed t (left x) rest' := by
  obtain ⟨items, outer, s⟩ := b
  cases hskip : f.skip s with
  | nil =>
    simp only [step, hskip] at h
    cases h
  | cons c cs =>
    have hs : c :: cs <:+ s := hskip ▸ f.skip_suffix s
    have hlonger : ∀ t, f.skip (s ++ ')' :: t) = c :: (cs ++ ')' :: t) := by
      intro t
      rw [Flags.skip_append (by rw [hskip]; exact List.cons_ne_nil c cs), hskip, List.cons_append]
    by_cases hopen : c = '['
    · subst hopen
      rw [step_open hskip] at h
      have hclass := readAsciiClass?_append ('[' :: cs)
      cases hread : readAsciiClass? ('[' :: cs) with
      | some y =>
        rw [hread] at h hclass
        obtain ⟨k, hk, rfl⟩ := Option.map_eq_some_iff.mp h
        refine ⟨(readAsciiClass?_suffix hread).trans hs, fun t ht => ⟨_, ?_, .before ht _⟩⟩
        rw [step_open (hlonger t), ← List.cons_append, hclass t, Option.map_some]
        simp only [hk]
        rfl
      | none =>
        rw [hread] at h hclass
        obtain ⟨y, hy, rfl⟩ := Option.map_eq_some_iff.mp h
        obtain ⟨hsuffix, happend⟩ := readOpening_append hy
        refine ⟨(hsuffix.trans (List.tail_suffix _)).trans hs,
          fun t ht => ⟨_, ?_, .before ht _⟩⟩
        rw [step_open (hlonger t), ← List.cons_append, hclass t, Option.map_none]
        simp only [happend]
        rfl
    by_cases hclose : c = ']'
    · subst hclose
      rw [step_close hskip] at h
      obtain ⟨y, hy, h⟩ := Option.bind_eq_some_iff.mp h
      obtain ⟨hleft, happend⟩ := closing_withLeft h
      refine ⟨hleft ▸ (List.suffix_cons _ _).trans hs, fun t ht => ⟨_, ?_, .before ht _⟩⟩
      rw [step_close (hlonger t), hy, Option.bind_some, hleft]
      exact happend _
    cases hoperator : operator? c cs with
    | some op =>
      rw [step_operator hskip hoperator] at h
      obtain ⟨y, hy, rfl⟩ := Option.map_eq_some_iff.mp h
      refine ⟨((List.tail_suffix cs).trans (List.suffix_cons c cs)).trans hs,
        fun t ht => ⟨_, ?_, .before ht _⟩⟩
      rw [step_operator (hlonger t) (by rw [operator?_append]; exact hoperator), hy,
        Option.map_some]
      cases cs with
      | nil => cases hoperator
      | cons d ds => rfl
    | none =>
      rw [step_item hskip hopen hclose hoperator] at h
      obtain ⟨y, hy, rfl⟩ := Option.map_eq_some_iff.mp h
      obtain ⟨hsuffix, happend⟩ := local_readClassItem _ _ _ hy
      refine ⟨hsuffix.trans hs, fun t ht => ?_⟩
      obtain ⟨rest', hrest, henclosed⟩ := happend t ht
      refine ⟨rest', ?_, henclosed⟩
      rw [step_item (hlonger t) hopen hclose (by rw [operator?_append]; exact hoperator),
        ← List.cons_append, hrest]
      rfl

/-- All steps up to the closing bracket are the same before a parenthesis. -/
theorem run_enclosed {fuel fuel' : Nat} {b : Bracket} {k : Nested} {rest : List Char}
    (hfuel : fuel ≤ fuel') (h : run f fuel b = some (k, rest)) :
    rest <:+ b.rest ∧ ∀ t s', f.Enclosed t b.rest s' →
      ∃ rest', run f fuel' { b with rest := s' } = some (k, rest') ∧ f.Enclosed t rest rest' := by
  induction fuel generalizing fuel' b with
  | zero => cases h
  | succ fuel ih =>
    obtain ⟨fuel', rfl⟩ : ∃ n, fuel' = n + 1 := ⟨fuel' - 1, by omega⟩
    rw [run] at h
    cases hstep : step f b with
    | none =>
      rw [hstep] at h
      cases h
    | some x =>
      obtain ⟨hsuffix, happend⟩ := step_append hstep
      have hbefore : ∀ {t s'}, f.Enclosed t b.rest s' →
          ∃ rest', step f { b with rest := s' } = some (withLeft rest' x) ∧
            f.Enclosed t (left x) rest' := by
        intro t s' hs'
        generalize hrest : b.rest = s at hs'
        cases hs' with
        | before ht => exact hrest ▸ happend t ht
        | swallowed hverbose =>
          simp only [step, hrest, Flags.skip_nil] at hstep
          cases hstep
      rw [hstep] at h
      cases x with
      | inr done =>
        cases h
        refine ⟨hsuffix, fun t s' hs' => ?_⟩
        obtain ⟨rest', hrest, henclosed⟩ := hbefore hs'
        exact ⟨rest', by rw [run, hrest]; rfl, henclosed⟩
      | inl b' =>
        have hless : fuel ≤ fuel' := by omega
        obtain ⟨hsuffix', happend'⟩ := ih hless h
        refine ⟨hsuffix'.trans hsuffix, fun t s' hs' => ?_⟩
        obtain ⟨left', hleft, henclosed⟩ := hbefore hs'
        obtain ⟨rest', hrest, henclosed'⟩ := happend' t left' henclosed
        exact ⟨rest', by rw [run, hleft]; exact hrest, henclosed'⟩

end Bracket

/-- A class takes at least its opening bracket. -/
theorem readBracket_suffix {s rest : List Char} {k : Nested}
    (h : readBracket f s = some (k, rest)) : rest <:+ s.tail := by
  obtain ⟨⟨negated, items, left⟩, hopening, h⟩ := Option.bind_eq_some_iff.mp h
  exact (Bracket.run_enclosed (Nat.le_refl _) h).1.trans (readOpening_append hopening).1

/-- A bracketed class is read the same before a parenthesis. -/
theorem local_readBracket : Local f (readBracket f) := by
  intro s k rest h
  refine ⟨(readBracket_suffix h).trans (List.tail_suffix s), fun t ht => ?_⟩
  obtain ⟨⟨negated, items, left⟩, hopening, h⟩ := Option.bind_eq_some_iff.mp h
  have hlength : s.length ≤ (s ++ ')' :: t).length := by simp
  obtain ⟨rest', hrest, henclosed⟩ :=
    (Bracket.run_enclosed hlength h).2 t _ (Flags.Enclosed.before ht left)
  refine ⟨rest', ?_, henclosed⟩
  unfold readBracket
  rw [(readOpening_append hopening).2]
  exact hrest

end Parley
