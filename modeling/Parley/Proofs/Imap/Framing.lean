import Mathlib.Data.List.Basic
import Mathlib.Data.List.TakeWhile
import Parley.Imap.Response
import Parley.Proofs.Journal
import Parley.Proofs.Number.Integer
import Parley.Proofs.Text.Utf8

/-!
# Where a response ends

A response is told from the bytes that follow it by its form alone: lines with counted literals up
to the line that begins with the tag.

## Main definitions

- `Announces` — a line ends in the length of a literal
- `Carries` — a line is followed by the literal that it announces
- `Framed` — bytes begin with a response, and certain bytes are left
- `Overflows` — bytes announce a literal that no room can be made for
- `Good` — the status of a command that was carried out

## Main results

- `cutLine_eq_some_iff`, `cutLine_encode` — lines end at the first line end
- `literalLength?_eq_some_iff` — the announced length
- `readResponse_eq_ok_iff` — responses are read exactly where there are any
- `readResponse_eq_overflow_iff` — where reading ends for want of room
- `Framed.append`, `not_framed_of_prefix` — more bytes do not change a response, and fewer are none
-/

namespace Parley.Imap

open Parley.Text

/-- The end of a line. -/
def crlf : List UInt8 :=
  [13, 10]

-- ════════════════════════════════════════════════════════════════════════
-- Lines
-- ════════════════════════════════════════════════════════════════════════

theorem cutLine_cons {b : UInt8} {bs : List UInt8} (h : b = 13 → ∀ rest, bs ≠ 10 :: rest) :
    cutLine (b :: bs) = (cutLine bs).map fun (line, rest) => (b :: line, rest) := by
  by_cases hb : b = 13
  · subst hb
    cases bs with
    | nil => rfl
    | cons c cs =>
      have hc : c ≠ 10 := by
        rintro rfl
        exact h rfl cs rfl
      rw [cutLine]
      rintro rest - hcs
      exact hc (List.cons.inj hcs).1
  · rw [cutLine]
    rintro rest hb'
    exact absurd hb' hb

/-- The line is what stands before the first line end. -/
theorem cutLine_eq_some_iff {bs line rest : List UInt8} :
    cutLine bs = some (line, rest) ↔ bs = line ++ crlf ++ rest ∧ ¬ crlf <:+: line := by
  constructor
  · intro h
    fun_induction cutLine bs generalizing line rest with
    | case1 => simp at h
    | case2 tail =>
      obtain ⟨rfl, rfl⟩ := Prod.mk.inj (Option.some.inj h)
      exact ⟨rfl, by simp [crlf]⟩
    | case3 b bs hend ih =>
      obtain ⟨⟨line', rest'⟩, hcut, heq⟩ := Option.map_eq_some_iff.1 h
      obtain ⟨rfl, rfl⟩ := Prod.mk.inj heq
      obtain ⟨rfl, hline⟩ := ih hcut
      refine ⟨rfl, ?_⟩
      rw [List.infix_cons_iff]
      rintro (hhead | hmiddle)
      · obtain ⟨more, hmore⟩ := hhead
        obtain ⟨rfl, rfl⟩ := List.cons.inj hmore
        exact hend _ rfl rfl
      · exact hline hmiddle
  · rintro ⟨rfl, hline⟩
    induction line with
    | nil => rfl
    | cons b line ih =>
      rw [List.infix_cons_iff, not_or] at hline
      have hend : b = 13 → ∀ rest', line ++ crlf ++ rest ≠ 10 :: rest' := by
        rintro rfl rest' heq
        cases line with
        | nil => simp [crlf] at heq
        | cons c line =>
          obtain ⟨rfl, -⟩ := List.cons.inj heq
          exact hline.1 ⟨line, rfl⟩
      rw [List.cons_append, List.cons_append, cutLine_cons hend, ih hline.2]
      rfl

theorem cutLine_append {bs : List UInt8} (h : 13 ∉ bs) (tail : List UInt8) :
    cutLine (bs ++ tail) = (cutLine tail).map fun (line, rest) => (bs ++ line, rest) := by
  induction bs with
  | nil => simp
  | cons b bs ih =>
    rw [List.mem_cons, not_or] at h
    rw [List.cons_append, cutLine_cons (fun hb => absurd hb.symm h.1), ih h.2, Option.map_map]
    rfl

/-- A text without a line end is a line when it is sent as one. -/
theorem cutLine_encode {line : List Char} (h : ¬ ['\r', '\n'] <:+: line) (rest : List UInt8) :
    cutLine (encode line ++ crlf ++ rest) = some (encode line, rest) := by
  induction line with
  | nil => rfl
  | cons c line ih =>
    rw [List.infix_cons_iff, not_or] at h
    have hlater := ih h.2
    by_cases hc : c = '\r'
    · subst hc
      have hend : (13 : UInt8) = 13 → ∀ rest', encode line ++ crlf ++ rest ≠ 10 :: rest' := by
        rintro - rest' heq
        cases line with
        | nil => simp [crlf] at heq
        | cons d line =>
          obtain ⟨a, bs, hbytes, -⟩ := headOf_encodeChar d []
          rw [encode_cons, hbytes] at heq
          obtain ⟨rfl, -⟩ := List.cons.inj heq
          have hd : d = '\n' := eq_ofNat_of_mem_encodeChar (hbytes ▸ List.mem_cons_self) (by decide)
          exact h.1 ⟨line, by rw [hd]; rfl⟩
      have hcr : String.utf8EncodeChar '\r' = [13] := by decide
      rw [encode_cons, hcr, List.cons_append, List.cons_append, List.cons_append, List.nil_append,
        cutLine_cons hend, hlater]
      rfl
    · have hbytes : (13 : UInt8) ∉ String.utf8EncodeChar c := by
        intro hmem
        exact hc (eq_ofNat_of_mem_encodeChar hmem (by decide))
      rw [encode_cons, List.append_assoc, List.append_assoc, cutLine_append hbytes,
        ← List.append_assoc, hlater]
      rfl

-- ════════════════════════════════════════════════════════════════════════
-- Announced lengths
-- ════════════════════════════════════════════════════════════════════════

/-- The line ends in a number in braces that fits a machine word. A line with a larger number there
announces nothing. -/
def Announces (line : List Char) (n : Nat) : Prop :=
  ∃ stem sign digits, line = stem ++ '{' :: (sign ++ digits) ++ ['}'] ∧ (sign = [] ∨ sign = ['+']) ∧
    digits ≠ [] ∧ (∀ d ∈ digits, d.isDigit) ∧ Nat.ofDigitChars 10 digits 0 = n ∧
    n ≤ 0xFFFFFFFFFFFFFFFF

/-- The length of a literal is read from the end of the line that announces it. -/
theorem literalLength?_eq_some_iff {line : List Char} {n : Nat} :
    literalLength? line = some n ↔ Announces line n := by
  constructor
  · intro h
    unfold literalLength? at h
    split at h
    · rename_i before hline
      have hbefore := List.takeWhile_append_dropWhile (p := (· ≠ '{')) (l := before)
      split at h
      · rename_i hopen
        -- the last opening brace is where the number begins
        obtain ⟨stem, hstem⟩ : ∃ stem, before.dropWhile (· ≠ '{') = '{' :: stem := by
          cases hdrop : before.dropWhile (· ≠ '{') with
          | nil =>
            rw [List.dropWhile_eq_nil_iff] at hdrop
            have hmem : '{' ∈ before := by simpa using hopen
            simpa using hdrop '{' hmem
          | cons c stem =>
            have hc := List.head?_dropWhile_not (· ≠ '{') before
            rw [hdrop] at hc
            exact ⟨stem, by rw [show c = '{' by simpa using hc]⟩
        split at h
        · rename_i m hread
          obtain rfl := Option.some.inj h
          obtain ⟨sign, digits, htext, hsign, hne, hdigits, hvalue, hlimit⟩ :=
            readNatural_eq_ok_iff.1 hread
          refine ⟨stem.reverse, sign, digits, ?_, hsign, hne, hdigits, hvalue, hlimit⟩
          rw [← List.reverse_reverse line, hline, ← hbefore, hstem, ← htext]
          simp
        · cases h
      · cases h
    · cases h
  · rintro ⟨stem, sign, digits, rfl, hsign, hne, hdigits, hvalue, hlimit⟩
    have hnumber : ∀ c ∈ (sign ++ digits).reverse, (decide (c ≠ '{')) = true := by
      intro c hc
      rw [List.mem_reverse, List.mem_append] at hc
      rw [decide_eq_true_eq]
      rintro rfl
      rcases hc with hc | hc
      · rcases hsign with rfl | rfl <;> simp at hc
      · exact absurd (hdigits '{' hc) (by decide)
    have hline : (stem ++ '{' :: (sign ++ digits) ++ ['}']).reverse =
        '}' :: ((sign ++ digits).reverse ++ '{' :: stem.reverse) := by
      simp
    have htake : (((sign ++ digits).reverse ++ '{' :: stem.reverse).takeWhile (· ≠ '{')).reverse =
        sign ++ digits := by
      rw [List.takeWhile_append_of_pos hnumber]
      simp
    have hread : readNatural 0xFFFFFFFFFFFFFFFF (sign ++ digits) = .ok n :=
      readNatural_eq_ok_iff.2
        ⟨sign, digits, rfl, hsign, hne, hdigits, hvalue, hlimit⟩
    unfold literalLength?
    simp only [hline]
    rw [if_pos (by simp), htake, hread]

/-- The line is followed by the literal that it announces and that there is room for, or by none if
it announces none. -/
def Carries (line : List Char) : Option (List UInt8) → Prop
  | some data => Announces line data.length ∧ data.length ≤ maxLength
  | none => ∀ n, ¬ Announces line n

theorem carries_none_iff {line : List Char} : Carries line none ↔ literalLength? line = none := by
  rw [Option.eq_none_iff_forall_not_mem]
  exact forall_congr' fun n => not_congr literalLength?_eq_some_iff.symm

theorem carries_iff {line : List Char} {data : Option (List UInt8)} :
    Carries line data ↔
      literalLength? line = data.map List.length ∧ (data.map List.length).getD 0 ≤ maxLength := by
  cases data with
  | some data => exact and_congr_left' literalLength?_eq_some_iff.symm
  | none => exact carries_none_iff.trans (and_iff_left (Nat.zero_le maxLength)).symm

-- ════════════════════════════════════════════════════════════════════════
-- Responses
-- ════════════════════════════════════════════════════════════════════════

theorem isPrefixOf?_eq_none_iff {xs ys : List Char} :
    xs.isPrefixOf? ys = none ↔ ¬ xs <+: ys := by
  rw [← List.isPrefixOf_iff_prefix, ← List.isSome_isPrefixOf?_eq_isPrefixOf,
    Option.not_isSome_iff_eq_none]

/-- The bytes begin with a response to the command with the tag, and the last bytes are left. -/
inductive Framed (tag : List Char) : List UInt8 → Response → List UInt8 → Prop
  | tagged {raw : List UInt8} {status : List Char} {data : Option (List UInt8)} {left : List UInt8}
      (hline : ¬ crlf <:+: raw) (htag : decodeLossy raw = tag ++ status)
      (hdata : Carries (decodeLossy raw) data) :
      Framed tag (raw ++ crlf ++ (data.getD [] ++ left))
        { literals := data.toList, status := String.ofList status } left
  | untagged {raw : List UInt8} {data : Option (List UInt8)} {bs left : List UInt8} {r : Response}
      (hline : ¬ crlf <:+: raw) (htag : ¬ tag <+: decodeLossy raw)
      (hdata : Carries (decodeLossy raw) data) (later : Framed tag bs r left) :
      Framed tag (raw ++ crlf ++ (data.getD [] ++ bs)) (r.cons (decodeLossy raw) data) left

/-- The bytes come to a literal that no room can be made for before the response is over. -/
inductive Overflows (tag : List Char) : List UInt8 → Prop
  | here {raw rest : List UInt8} {n : Nat} (hline : ¬ crlf <:+: raw)
      (hannounced : Announces (decodeLossy raw) n) (hlong : maxLength < n) :
      Overflows tag (raw ++ crlf ++ rest)
  | later {raw : List UInt8} {data : Option (List UInt8)} {bs : List UInt8}
      (hline : ¬ crlf <:+: raw) (htag : ¬ tag <+: decodeLossy raw)
      (hdata : Carries (decodeLossy raw) data) (later : Overflows tag bs) :
      Overflows tag (raw ++ crlf ++ (data.getD [] ++ bs))

theorem readResponse_of_cutLine {tag : List Char} {bs raw rest : List UInt8}
    (h : cutLine bs = some (raw, rest)) :
    readResponse tag bs =
      (let line := decodeLossy raw
      let size := literalLength? line
      if maxLength < size.getD 0 then .error .overflow
      else if rest.length < size.getD 0 then .error (.short .inLiteral)
      else
        let literal := size.map rest.take
        let after := rest.drop (size.getD 0)
        match tag.isPrefixOf? line with
        | some status =>
          .ok ({ literals := literal.toList, status := String.ofList status }, after)
        | none => (readResponse tag after).map fun (r, left) => (r.cons line literal, left)) := by
  rw [readResponse]
  split
  · rename_i hnone
    rw [h] at hnone
    cases hnone
  · rename_i raw' rest' hsome
    rw [h] at hsome
    obtain ⟨rfl, rfl⟩ := Prod.mk.inj (Option.some.inj hsome)
    rfl

/-- A line and its literal are read whole. -/
theorem readResponse_of_carries {tag : List Char} {raw : List UInt8} {data : Option (List UInt8)}
    (hline : ¬ crlf <:+: raw) (hdata : Carries (decodeLossy raw) data) (rest : List UInt8) :
    readResponse tag (raw ++ crlf ++ (data.getD [] ++ rest)) =
      match tag.isPrefixOf? (decodeLossy raw) with
      | some status => .ok ({ literals := data.toList, status := String.ofList status }, rest)
      | none => (readResponse tag rest).map fun (r, left) => (r.cons (decodeLossy raw) data, left) := by
  obtain ⟨hsize, hroom⟩ := carries_iff.1 hdata
  rw [readResponse_of_cutLine (cutLine_eq_some_iff.2 ⟨rfl, hline⟩)]
  simp only [hsize]
  rw [if_neg (Nat.not_lt.2 hroom)]
  cases data with
  | none => simp
  | some data =>
    have hwhole : ¬ data.length + rest.length < data.length := by omega
    simp [hwhole]

/-- Bytes begin with a line and its literal, or with a line and no room for its literal, or they end
before that. -/
theorem readResponse_cases (tag : List Char) (bs : List UInt8) :
    (∃ raw data rest, bs = raw ++ crlf ++ (data.getD [] ++ rest) ∧ ¬ crlf <:+: raw ∧
        Carries (decodeLossy raw) data ∧ rest.length < bs.length) ∨
      (∃ raw rest n, bs = raw ++ crlf ++ rest ∧ ¬ crlf <:+: raw ∧ Announces (decodeLossy raw) n ∧
        maxLength < n ∧ readResponse tag bs = .error .overflow) ∨
      ∃ shortage, readResponse tag bs = .error (.short shortage) := by
  cases hcut : cutLine bs with
  | none =>
    refine .inr (.inr ⟨.inLine, ?_⟩)
    rw [readResponse]
    split
    · rfl
    · rename_i hsome
      rw [hcut] at hsome
      cases hsome
  | some pair =>
    obtain ⟨raw, tail⟩ := pair
    obtain ⟨rfl, hline⟩ := cutLine_eq_some_iff.1 hcut
    rw [readResponse_of_cutLine hcut]
    cases hsize : literalLength? (decodeLossy raw) with
    | none =>
      refine .inl ⟨raw, none, tail, rfl, hline, carries_none_iff.2 hsize, ?_⟩
      simp only [List.length_append, crlf, List.length_cons]
      omega
    | some n =>
      have hannounced := literalLength?_eq_some_iff.1 hsize
      simp only [hsize, Option.getD_some]
      by_cases hlong : maxLength < n
      · exact .inr (.inl ⟨raw, tail, n, rfl, hline, hannounced, hlong, if_pos hlong⟩)
      · rw [if_neg hlong]
        by_cases hshort : tail.length < n
        · exact .inr (.inr ⟨.inLiteral, if_pos hshort⟩)
        · have hlength : (tail.take n).length = n := by
            rw [List.length_take]
            omega
          refine .inl ⟨raw, some (tail.take n), tail.drop n, ?_, hline, ?_, ?_⟩
          · rw [Option.getD_some, List.take_append_drop]
          · rw [Carries, hlength]
            exact ⟨hannounced, Nat.not_lt.1 hlong⟩
          · simp only [List.length_append, List.length_drop, crlf, List.length_cons]
            omega

/-- A response is read where there is one, and nowhere else. -/
theorem readResponse_eq_ok_iff {tag : List Char} {bs : List UInt8} {r : Response}
    {left : List UInt8} : readResponse tag bs = .ok (r, left) ↔ Framed tag bs r left := by
  constructor
  · intro h
    induction hn : bs.length using Nat.strongRecOn generalizing bs r with
    | _ n ih =>
      rcases readResponse_cases tag bs with
        ⟨raw, data, rest, rfl, hline, hdata, hlength⟩ |
        ⟨_, _, _, _, _, _, _, hfault⟩ | ⟨_, hfault⟩
      · rw [readResponse_of_carries hline hdata] at h
        cases htag : tag.isPrefixOf? (decodeLossy raw) with
        | some status =>
          rw [htag] at h
          obtain ⟨rfl, rfl⟩ := Prod.mk.inj (Except.ok.inj h)
          exact .tagged hline (List.isPrefixOf?_eq_some_iff_append_eq.1 htag).symm hdata
        | none =>
          rw [htag] at h
          obtain ⟨⟨r', left'⟩, hrest, heq⟩ := Except.map_eq_ok_iff.1 h
          obtain ⟨rfl, rfl⟩ := Prod.mk.inj heq
          exact .untagged hline (isPrefixOf?_eq_none_iff.1 htag) hdata
            (ih _ (hn ▸ hlength) hrest rfl)
      · rw [hfault] at h
        cases h
      · rw [hfault] at h
        cases h
  · intro h
    induction h with
    | tagged hline htag hdata =>
      rw [readResponse_of_carries hline hdata,
        List.isPrefixOf?_eq_some_iff_append_eq.2 htag.symm]
    | @untagged raw data bs left r hline htag hdata later ih =>
      rw [readResponse_of_carries hline hdata, isPrefixOf?_eq_none_iff.2 htag, ih]
      rfl

/-- Reading ends for want of room exactly where a literal is too long. -/
theorem readResponse_eq_overflow_iff {tag : List Char} {bs : List UInt8} :
    readResponse tag bs = .error .overflow ↔ Overflows tag bs := by
  constructor
  · intro h
    induction hn : bs.length using Nat.strongRecOn generalizing bs with
    | _ n ih =>
      rcases readResponse_cases tag bs with ⟨raw, data, rest, rfl, hline, hdata, hlength⟩ |
        ⟨raw, rest, n, rfl, hline, hannounced, hlong, -⟩ | ⟨_, hfault⟩
      · rw [readResponse_of_carries hline hdata] at h
        cases htag : tag.isPrefixOf? (decodeLossy raw) with
        | some status =>
          rw [htag] at h
          cases h
        | none =>
          rw [htag] at h
          exact .later hline (isPrefixOf?_eq_none_iff.1 htag) hdata
            (ih _ (hn ▸ hlength) (Except.map_eq_error_iff.1 h) rfl)
      · exact .here hline hannounced hlong
      · rw [hfault] at h
        cases h
  · intro h
    induction h with
    | here hline hannounced hlong =>
      rw [readResponse_of_cutLine (cutLine_eq_some_iff.2 ⟨rfl, hline⟩)]
      simp only [literalLength?_eq_some_iff.2 hannounced, Option.getD_some]
      exact if_pos hlong
    | later hline htag hdata later ih =>
      rw [readResponse_of_carries hline hdata, isPrefixOf?_eq_none_iff.2 htag, ih]
      rfl

theorem Framed.not_overflows {tag : List Char} {bs left : List UInt8} {r : Response}
    (h : Framed tag bs r left) : ¬ Overflows tag bs := by
  intro hover
  have hread := readResponse_eq_ok_iff.2 h
  rw [readResponse_eq_overflow_iff.2 hover] at hread
  cases hread

theorem Framed.append {tag : List Char} {bs left : List UInt8} {r : Response}
    (h : Framed tag bs r left) (more : List UInt8) : Framed tag (bs ++ more) r (left ++ more) := by
  induction h with
  | tagged hline htag hdata =>
    rw [List.append_assoc _ _ more, List.append_assoc _ _ more]
    exact .tagged hline htag hdata
  | untagged hline htag hdata later ih =>
    rw [List.append_assoc _ _ more, List.append_assoc _ _ more]
    exact .untagged hline htag hdata ih

theorem Overflows.append {tag : List Char} {bs : List UInt8} (h : Overflows tag bs)
    (more : List UInt8) : Overflows tag (bs ++ more) := by
  induction h with
  | here hline hannounced hlong =>
    rw [List.append_assoc _ _ more]
    exact .here hline hannounced hlong
  | later hline htag hdata later ih =>
    rw [List.append_assoc _ _ more, List.append_assoc _ _ more]
    exact .later hline htag hdata ih

/-- The bytes alone say what the response is and where it ends. -/
theorem Framed.unique {tag : List Char} {bs left left' : List UInt8} {r r' : Response}
    (h : Framed tag bs r left) (h' : Framed tag bs r' left') : r = r' ∧ left = left' := by
  have hread := readResponse_eq_ok_iff.2 h
  rw [readResponse_eq_ok_iff.2 h'] at hread
  obtain ⟨rfl, rfl⟩ := Prod.mk.inj (Except.ok.inj hread)
  exact ⟨rfl, rfl⟩

/-- A response that has lost some of its last bytes is none. -/
theorem not_framed_of_prefix {tag : List Char} {bs whole left : List UInt8} {r r' : Response}
    (hwhole : Framed tag whole r []) (hpart : bs <+: whole) (hne : bs ≠ whole) :
    ¬ Framed tag bs r' left := by
  intro h
  obtain ⟨more, rfl⟩ := hpart
  obtain ⟨-, hleft⟩ := hwhole.unique (h.append more)
  obtain ⟨-, rfl⟩ := List.append_eq_nil_iff.1 hleft.symm
  exact hne (List.append_nil bs).symm

/-- There is room for what a response has before its end. -/
theorem Framed.not_overflows_before {tag : List Char} {bs whole left : List UInt8} {r : Response}
    (hwhole : Framed tag whole r left) (hpart : bs <+: whole) : ¬ Overflows tag bs := by
  intro h
  obtain ⟨more, rfl⟩ := hpart
  exact hwhole.not_overflows (h.append more)

-- ════════════════════════════════════════════════════════════════════════
-- Statuses
-- ════════════════════════════════════════════════════════════════════════

/-- The status is OK, after blanks if there are any. -/
def Good (status : List Char) : Prop :=
  ∃ blanks note, status = blanks ++ 'O' :: 'K' :: note ∧ ∀ c ∈ blanks, isBlank c = true

theorem isOk_iff {r : Response} : r.isOk = true ↔ Good r.status.toList := by
  rw [Response.isOk, List.isPrefixOf_iff_prefix, trimStart]
  constructor
  · rintro ⟨note, h⟩
    have hstatus := List.takeWhile_append_dropWhile (p := isBlank) (l := r.status.toList)
    rw [← h] at hstatus
    exact ⟨_, note, hstatus.symm, fun c => List.mem_takeWhile_imp⟩
  · rintro ⟨blanks, note, h, hblanks⟩
    rw [h, List.dropWhile_append_of_pos hblanks]
    exact ⟨note, rfl⟩

end Parley.Imap
