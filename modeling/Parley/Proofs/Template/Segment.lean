import Mathlib.Data.List.Chain
import Mathlib.Data.List.TakeWhile
import Parley.Template.Chunk

/-!
# A text cut at its outermost braces

There is one way to cut a text at its outermost braces: text that opens no brace, text between
braces that come in pairs, and at the end, perhaps, a brace that is never closed. It is the way
that the scanner finds, although the scanner only counts the braces that are open.

## Main definitions

- `Segment.NeverBelow`, `Segment.Closes`, `Segment.Balanced` — which braces a text closes
- `Segment.Splits` — the segments of a text, and what follows a brace that is never closed

## Main results

- `Segment.neverBelow_or_closes` — a brace that is open is closed at one place or never
- `Segment.split_plain`, `Segment.split_braced`, `Segment.split_unclosed` — what the scanner finds
  at the beginning of a text
- `Segment.splits_iff` — the segments of a text are found
-/

namespace Parley.Segment

-- ════════════════════════════════════════════════════════════════════════
-- Pairs of braces
-- ════════════════════════════════════════════════════════════════════════

/-- Where `n` braces are open before the text, none is closed in it that is not open: up to every
place, at most `n` more are closed than opened. -/
def NeverBelow (n : Nat) (s : List Char) : Prop :=
  ∀ t, t <+: s → t.count '}' ≤ t.count '{' + n

/-- The text closes the braces that it opens, and `n` others that are open before it. -/
structure Closes (n : Nat) (s : List Char) : Prop where
  /-- No brace is closed that is not open. -/
  neverBelow : NeverBelow n s
  /-- In the end none of them is open. -/
  count_eq : s.count '}' = s.count '{' + n

/-- The braces of the text come in pairs. -/
def Balanced (s : List Char) : Prop :=
  Closes 0 s

section Count

variable {n : Nat} {c : Char} {s : List Char}

theorem neverBelow_nil (n : Nat) : NeverBelow n [] := by
  intro t ht
  rw [List.prefix_nil.mp ht]
  exact Nat.zero_le _

theorem neverBelow_cons_iff : NeverBelow n (c :: s) ↔
    ∀ t, t <+: s → (c :: t).count '}' ≤ (c :: t).count '{' + n := by
  constructor
  · exact fun h t ht => h _ (List.cons_prefix_cons.mpr ⟨rfl, ht⟩)
  · intro h t ht
    obtain rfl | ⟨u, rfl, hu⟩ := List.prefix_cons_iff.mp ht
    · exact Nat.zero_le _
    · exact h u hu

theorem neverBelow_open : NeverBelow n ('{' :: s) ↔ NeverBelow (n + 1) s := by
  rw [neverBelow_cons_iff]
  refine forall₂_congr fun t _ => ?_
  rw [List.count_cons_self, List.count_cons_of_ne (by decide)]
  omega

theorem neverBelow_close : NeverBelow (n + 1) ('}' :: s) ↔ NeverBelow n s := by
  rw [neverBelow_cons_iff]
  refine forall₂_congr fun t _ => ?_
  rw [List.count_cons_self, List.count_cons_of_ne (by decide)]
  omega

/-- Where no brace is open, none can be closed. -/
theorem not_neverBelow_close : ¬NeverBelow 0 ('}' :: s) := by
  intro h
  have hfirst := h ['}'] (List.prefix_append ['}'] s)
  exact absurd hfirst (by decide)

theorem neverBelow_cons (hopen : c ≠ '{') (hclose : c ≠ '}') :
    NeverBelow n (c :: s) ↔ NeverBelow n s := by
  rw [neverBelow_cons_iff]
  refine forall₂_congr fun t _ => ?_
  rw [List.count_cons_of_ne hopen, List.count_cons_of_ne hclose]

theorem closes_nil : Closes n [] ↔ n = 0 := by
  refine ⟨fun h => ?_, ?_⟩
  · have hcount := h.count_eq
    rw [List.count_nil, List.count_nil] at hcount
    omega
  · rintro rfl
    exact ⟨neverBelow_nil 0, rfl⟩

theorem closes_open : Closes n ('{' :: s) ↔ Closes (n + 1) s := by
  have hcount : ('{' :: s).count '}' = ('{' :: s).count '{' + n ↔
      s.count '}' = s.count '{' + (n + 1) := by
    rw [List.count_cons_self, List.count_cons_of_ne (by decide)]
    omega
  exact ⟨fun h => ⟨neverBelow_open.mp h.neverBelow, hcount.mp h.count_eq⟩,
    fun h => ⟨neverBelow_open.mpr h.neverBelow, hcount.mpr h.count_eq⟩⟩

theorem closes_close : Closes (n + 1) ('}' :: s) ↔ Closes n s := by
  have hcount : ('}' :: s).count '}' = ('}' :: s).count '{' + (n + 1) ↔
      s.count '}' = s.count '{' + n := by
    rw [List.count_cons_self, List.count_cons_of_ne (by decide)]
    omega
  exact ⟨fun h => ⟨neverBelow_close.mp h.neverBelow, hcount.mp h.count_eq⟩,
    fun h => ⟨neverBelow_close.mpr h.neverBelow, hcount.mpr h.count_eq⟩⟩

theorem closes_cons (hopen : c ≠ '{') (hclose : c ≠ '}') : Closes n (c :: s) ↔ Closes n s := by
  have hcount : (c :: s).count '}' = (c :: s).count '{' + n ↔ s.count '}' = s.count '{' + n := by
    rw [List.count_cons_of_ne hopen, List.count_cons_of_ne hclose]
  exact ⟨fun h => ⟨(neverBelow_cons hopen hclose).mp h.neverBelow, hcount.mp h.count_eq⟩,
    fun h => ⟨(neverBelow_cons hopen hclose).mpr h.neverBelow, hcount.mpr h.count_eq⟩⟩

/-- Whether a character is a brace. -/
def isBrace (c : Char) : Bool :=
  c = '{' || c = '}'

theorem neverBelow_filter (n : Nat) (s : List Char) :
    NeverBelow n (s.filter isBrace) ↔ NeverBelow n s := by
  induction s generalizing n with
  | nil => exact .rfl
  | cons c s ih =>
    by_cases hopen : c = '{'
    · subst hopen
      rw [List.filter_cons_of_pos rfl, neverBelow_open, neverBelow_open, ih]
    by_cases hclose : c = '}'
    · subst hclose
      rw [List.filter_cons_of_pos rfl]
      cases n with
      | zero => exact iff_of_false not_neverBelow_close not_neverBelow_close
      | succ n => rw [neverBelow_close, neverBelow_close, ih]
    rw [List.filter_cons_of_neg (by simp [isBrace, hopen, hclose]), neverBelow_cons hopen hclose,
      ih]

/-- Only the braces of a text matter. -/
theorem closes_congr {t : List Char} (h : s.filter isBrace = t.filter isBrace) :
    Closes n s ↔ Closes n t := by
  have hcount : ∀ c, isBrace c → s.count c = t.count c := fun c hc => by
    rw [← List.count_filter hc, h, List.count_filter hc]
  have hnever : NeverBelow n s ↔ NeverBelow n t := by
    rw [← neverBelow_filter, h, neverBelow_filter]
  have heq : s.count '}' = s.count '{' + n ↔ t.count '}' = t.count '{' + n := by
    rw [hcount '{' rfl, hcount '}' rfl]
  exact ⟨fun hs => ⟨hnever.mp hs.neverBelow, heq.mp hs.count_eq⟩,
    fun ht => ⟨hnever.mpr ht.neverBelow, heq.mpr ht.count_eq⟩⟩

end Count

/-- Of the braces that are open, the outermost is never closed or it is closed at some place. -/
theorem neverBelow_or_closes (n : Nat) (s : List Char) :
    NeverBelow n s ∨ ∃ inner rest, s = inner ++ '}' :: rest ∧ Closes n inner := by
  -- `n` counts the braces within the outermost one that are open where `s` begins
  induction s generalizing n with
  | nil => exact .inl (neverBelow_nil n)
  | cons c s ih =>
    by_cases hopen : c = '{'
    · subst hopen
      obtain h | ⟨inner, rest, rfl, h⟩ := ih (n + 1)
      · exact .inl (neverBelow_open.mpr h)
      · exact .inr ⟨_, rest, rfl, closes_open.mpr h⟩
    by_cases hclose : c = '}'
    · subst hclose
      cases n with
      | zero => exact .inr ⟨[], s, rfl, closes_nil.mpr rfl⟩
      | succ n =>
        obtain h | ⟨inner, rest, rfl, h⟩ := ih n
        · exact .inl (neverBelow_close.mpr h)
        · exact .inr ⟨_, rest, rfl, closes_close.mpr h⟩
    obtain h | ⟨inner, rest, rfl, h⟩ := ih n
    · exact .inl ((neverBelow_cons hopen hclose).mpr h)
    · exact .inr ⟨_, rest, rfl, (closes_cons hopen hclose).mpr h⟩

-- ════════════════════════════════════════════════════════════════════════
-- Segments
-- ════════════════════════════════════════════════════════════════════════

/-- What a segment may be: text that is not empty and opens no brace, or text whose braces come in
pairs. -/
def WellFormed : Segment → Prop
  | plain text => text ≠ [] ∧ '{' ∉ text
  | braced inner => Balanced inner

/-- Whether a segment is text outside of braces. -/
def isPlain : Segment → Bool
  | plain _ => true
  | braced _ => false

/-- A brace that is never closed, with what follows it. -/
def unclosedSource : Option (List Char) → List Char
  | none => []
  | some tail => '{' :: tail

/-- The text is cut into segments at its outermost braces, and at the last of them if that is never
closed. -/
structure Splits (s : List Char) (segments : List Segment) (tail : Option (List Char)) : Prop where
  /-- The segments are text without an open brace, or with braces in pairs. -/
  wellFormed : ∀ x ∈ segments, x.WellFormed
  /-- Text outside of braces is not cut. -/
  apart : segments.IsChain fun x y => x.isPlain → ¬y.isPlain
  /-- What follows a brace that is never closed does not close it. -/
  unclosed : ∀ t, tail = some t → NeverBelow 0 t
  /-- Nothing is lost. -/
  text : s = segments.flatMap source ++ unclosedSource tail

/-- The text begins with a brace that opens, unless it is empty. -/
def Opens (s : List Char) : Prop :=
  ∀ c, s.head? = some c → c = '{'

namespace Splits

variable {s : List Char} {segments : List Segment} {tail : Option (List Char)}

theorem of_cons {x : Segment} (h : Splits s (x :: segments) tail) :
    ∃ rest, s = x.source ++ rest ∧ Splits rest segments tail := by
  refine ⟨_, ?_, ⟨fun y hy => h.wellFormed y (.tail _ hy), h.apart.tail, h.unclosed, rfl⟩⟩
  rw [h.text, List.flatMap_cons, List.append_assoc]

/-- What is cut into segments of which the first is in braces begins with a brace. -/
theorem opens (h : Splits s segments tail)
    (hfirst : ∀ x, segments.head? = some x → ¬x.isPlain) : Opens s := by
  intro c hc
  cases segments with
  | nil =>
    rw [h.text] at hc
    cases tail with
    | none => cases hc
    | some t => exact (Option.some.inj hc).symm
  | cons x rest =>
    obtain ⟨left, rfl, -⟩ := h.of_cons
    cases x with
    | plain text => exact absurd rfl (hfirst _ rfl)
    | braced inner => exact (Option.some.inj hc).symm

/-- What begins with a brace is cut into segments of which the first is in braces. -/
theorem not_isPlain_of_opens (h : Splits s segments tail) (hs : Opens s) :
    ∀ x, segments.head? = some x → ¬x.isPlain := by
  intro x hx
  obtain ⟨rest, rfl⟩ := List.head?_eq_some_iff.mp hx
  obtain ⟨left, rfl, -⟩ := h.of_cons
  cases x with
  | plain text =>
    obtain ⟨hne, hopen⟩ := h.wellFormed _ (.head _)
    obtain ⟨c, cs, rfl⟩ := List.exists_cons_of_ne_nil hne
    exact absurd (hs c rfl ▸ .head _) hopen
  | braced inner => exact Bool.false_ne_true

theorem nil : Splits [] [] none :=
  ⟨nofun, .nil, nofun, rfl⟩

theorem unclosed_brace {t : List Char} (h : NeverBelow 0 t) : Splits ('{' :: t) [] (some t) :=
  ⟨nofun, .nil, fun _ ht => Option.some.inj ht ▸ h, rfl⟩

theorem plain {text : List Char} (hne : text ≠ []) (htext : '{' ∉ text) (hs : Opens s)
    (h : Splits s segments tail) : Splits (text ++ s) (.plain text :: segments) tail := by
  refine ⟨List.forall_mem_cons.mpr ⟨⟨hne, htext⟩, h.wellFormed⟩, ?_, h.unclosed, ?_⟩
  · exact List.isChain_cons.mpr ⟨fun x hx _ => h.not_isPlain_of_opens hs x hx, h.apart⟩
  · rw [List.flatMap_cons, List.append_assoc, ← h.text, source]

theorem braced {inner : List Char} (hinner : Balanced inner) (h : Splits s segments tail) :
    Splits ('{' :: inner ++ '}' :: s) (.braced inner :: segments) tail := by
  refine ⟨List.forall_mem_cons.mpr ⟨hinner, h.wellFormed⟩, ?_, h.unclosed, ?_⟩
  · exact List.isChain_cons.mpr ⟨fun _ _ hplain => absurd hplain Bool.false_ne_true, h.apart⟩
  · rw [List.flatMap_cons, List.append_assoc, ← h.text, source]
    simp

end Splits

-- ════════════════════════════════════════════════════════════════════════
-- The scanner
-- ════════════════════════════════════════════════════════════════════════

section Scanner

variable {n : Nat} {s text inner : List Char}

/-- Text that opens no brace is read to its end. -/
theorem splitFrom_append (htext : '{' ∉ text) (read s : List Char) :
    splitFrom none read (text ++ s) = splitFrom none (text.reverse ++ read) s := by
  induction text generalizing read with
  | nil => rfl
  | cons c text ih =>
    obtain ⟨hc, htext⟩ := List.ne_and_not_mem_of_not_mem_cons htext
    rw [List.cons_append, splitFrom, if_neg hc.symm, ih htext, List.reverse_cons,
      List.append_assoc, List.singleton_append]

/-- Where a brace opens or the text ends, what has been read is a segment. -/
theorem splitFrom_of_opens (hs : Opens s) (read : List Char) :
    splitFrom none read s = (plain? read.reverse ++ (split s).1, (split s).2) := by
  cases s with
  | nil => simp [split, splitFrom, plain?]
  | cons c s =>
    obtain rfl := hs c rfl
    rw [split, splitFrom, splitFrom, if_pos rfl, if_pos rfl]
    rfl

theorem splitFrom_open (n : Nat) (read s : List Char) :
    splitFrom (some n) read ('{' :: s) = splitFrom (some (n + 1)) ('{' :: read) s := by
  rw [splitFrom.eq_def]
  simp only [if_pos]

theorem splitFrom_close (n : Nat) (read s : List Char) :
    splitFrom (some (n + 1)) read ('}' :: s) = splitFrom (some n) ('}' :: read) s := by
  rw [splitFrom.eq_def]
  simp

theorem splitFrom_end (read s : List Char) :
    splitFrom (some 0) read ('}' :: s) = (braced read.reverse :: (split s).1, (split s).2) := by
  rw [splitFrom.eq_def]
  simp only [if_neg (show '}' ≠ '{' by decide), if_pos]
  rfl

theorem splitFrom_inside {c : Char} (hopen : c ≠ '{') (hclose : c ≠ '}') (n : Nat)
    (read s : List Char) :
    splitFrom (some n) read (c :: s) = splitFrom (some n) (c :: read) s := by
  rw [splitFrom.eq_def]
  simp only [if_neg hopen, if_neg hclose]

/-- Where the braces that are open are closed, the segment in braces ends. -/
theorem splitFrom_closes (h : Closes n inner) (read s : List Char) :
    splitFrom (some n) read (inner ++ '}' :: s) =
      (braced (read.reverse ++ inner) :: (split s).1, (split s).2) := by
  induction inner generalizing n read with
  | nil =>
    obtain rfl := closes_nil.mp h
    rw [List.nil_append, List.append_nil, splitFrom_end]
  | cons c inner ih =>
    have hshift : read.reverse ++ c :: inner = (c :: read).reverse ++ inner := by simp
    rw [List.cons_append, hshift]
    by_cases hopen : c = '{'
    · subst hopen
      rw [splitFrom_open, ih (closes_open.mp h)]
    by_cases hclose : c = '}'
    · subst hclose
      cases n with
      | zero => exact absurd h.neverBelow not_neverBelow_close
      | succ n => rw [splitFrom_close, ih (closes_close.mp h)]
    rw [splitFrom_inside hopen hclose, ih ((closes_cons hopen hclose).mp h)]

/-- Where the braces that are open are never closed, the rest of the text is read. -/
theorem splitFrom_neverBelow (h : NeverBelow n s) (read : List Char) :
    splitFrom (some n) read s = ([], some (read.reverse ++ s)) := by
  induction s generalizing n read with
  | nil => rw [splitFrom, List.append_nil]
  | cons c s ih =>
    have hshift : read.reverse ++ c :: s = (c :: read).reverse ++ s := by simp
    rw [hshift]
    by_cases hopen : c = '{'
    · subst hopen
      rw [splitFrom_open, ih (neverBelow_open.mp h)]
    by_cases hclose : c = '}'
    · subst hclose
      cases n with
      | zero => exact absurd h not_neverBelow_close
      | succ n => rw [splitFrom_close, ih (neverBelow_close.mp h)]
    rw [splitFrom_inside hopen hclose, ih ((neverBelow_cons hopen hclose).mp h)]

/-- Text before the first brace is a segment. -/
theorem split_plain (hne : text ≠ []) (htext : '{' ∉ text) (hs : Opens s) :
    split (text ++ s) = (plain text :: (split s).1, (split s).2) := by
  have hfull : ¬text.isEmpty := by simpa using hne
  rw [split, splitFrom_append htext, List.append_nil, splitFrom_of_opens hs,
    List.reverse_reverse, plain?, if_neg hfull, List.singleton_append]

/-- Text between a first brace and the one that closes it is a segment. -/
theorem split_braced (hinner : Balanced inner) (s : List Char) :
    split ('{' :: inner ++ '}' :: s) = (braced inner :: (split s).1, (split s).2) := by
  rw [split, List.cons_append, splitFrom, if_pos rfl, splitFrom_closes hinner]
  rfl

/-- What follows a first brace that is never closed is told apart. -/
theorem split_unclosed (h : NeverBelow 0 s) : split ('{' :: s) = ([], some s) := by
  rw [split, splitFrom, if_pos rfl, splitFrom_neverBelow h]
  rfl

end Scanner

theorem split_of_splits {s : List Char} {segments : List Segment} {tail : Option (List Char)}
    (h : Splits s segments tail) : split s = (segments, tail) := by
  induction segments generalizing s with
  | nil =>
    rw [h.text]
    cases tail with
    | none => rfl
    | some t => exact split_unclosed (h.unclosed t rfl)
  | cons x segments ih =>
    obtain ⟨rest, rfl, hrest⟩ := h.of_cons
    have hsplit := ih hrest
    cases x with
    | plain text =>
      obtain ⟨hne, htext⟩ := h.wellFormed _ (.head _)
      have hfirst := (List.isChain_cons.mp h.apart).1
      rw [source, split_plain hne htext (hrest.opens fun y hy => hfirst y hy rfl), hsplit]
    | braced inner =>
      have hinner : Balanced inner := h.wellFormed _ (.head _)
      rw [source, List.append_assoc, List.singleton_append, split_braced hinner, hsplit]

/-- Before the first brace that opens there is text that opens none. -/
theorem exists_opens (s : List Char) : ∃ text rest, s = text ++ rest ∧ '{' ∉ text ∧ Opens rest := by
  refine ⟨s.takeWhile (· ≠ '{'), s.dropWhile (· ≠ '{'), List.takeWhile_append_dropWhile.symm,
    fun hmem => ?_, fun c hc => ?_⟩
  · simpa using List.mem_takeWhile_imp hmem
  · have hnot := List.head?_dropWhile_not (fun d => decide (d ≠ '{')) s
    rw [hc] at hnot
    simpa using hnot

theorem exists_splits (s : List Char) : ∃ segments tail, Splits s segments tail := by
  -- every segment leaves less to be cut
  induction hlength : s.length using Nat.strongRecOn generalizing s with
  | ind n ih =>
    subst hlength
    cases s with
    | nil => exact ⟨[], none, .nil⟩
    | cons c s =>
      by_cases hopen : c = '{'
      · subst hopen
        obtain h | ⟨inner, rest, rfl, hinner⟩ := neverBelow_or_closes 0 s
        · exact ⟨[], some s, .unclosed_brace h⟩
        · have hlength : rest.length < ('{' :: (inner ++ '}' :: rest)).length := by
            simp only [List.length_cons, List.length_append]
            omega
          obtain ⟨segments, tail, hrest⟩ := ih rest.length hlength rest rfl
          exact ⟨_, tail, .braced hinner hrest⟩
      · obtain ⟨text, rest, rfl, htext, hopens⟩ := exists_opens s
        have hlength : rest.length < (c :: (text ++ rest)).length := by
          simp only [List.length_cons, List.length_append]
          omega
        obtain ⟨segments, tail, hrest⟩ := ih rest.length hlength rest rfl
        have htext : '{' ∉ c :: text := by
          rw [List.mem_cons, not_or]
          exact ⟨Ne.symm hopen, htext⟩
        exact ⟨_, tail, .plain (List.cons_ne_nil c text) htext hopens hrest⟩

/-- The segments of a text are found: there is one way to cut it at its outermost braces. -/
theorem splits_iff {s : List Char} {segments : List Segment} {tail : Option (List Char)} :
    Splits s segments tail ↔ split s = (segments, tail) := by
  constructor
  · exact split_of_splits
  · intro h
    obtain ⟨segments', tail', hsplits⟩ := exists_splits s
    rw [split_of_splits hsplits] at h
    cases h
    exact hsplits

end Parley.Segment
