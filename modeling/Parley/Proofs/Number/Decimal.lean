import Parley.Number.Decimal
import Parley.Proofs.Number.Integer
import Parley.Proofs.Text.Line

/-!
# Decimals that are written and read

A decimal is written as the digits of its mantissa, with the point in front of the last of them. It
is read back digit by digit, and with its scale, unless it is a zero with a minus sign.

## Main definitions

- `Progress.after` — what has been read after some digits more

## Main results

- `ofDigitChars_padded`, `length_padded_of_lt` — digits with zeros in front
- `readFrom_digits` — digits are read one after the other
- `read_text` — a decimal is read as it is written
-/

namespace Parley.Decimal

-- ════════════════════════════════════════════════════════════════════════
-- Digits with zeros in front
-- ════════════════════════════════════════════════════════════════════════

theorem isDigit_of_mem_padded {width n : Nat} {c : Char} (hc : c ∈ padded width n) :
    c.isDigit = true := by
  rcases List.mem_append.1 hc with hc | hc
  · rw [List.eq_of_mem_replicate hc]
    rfl
  · exact isDigit_of_mem_toDigits hc

/-- Zeros in front do not change the number. -/
theorem ofDigitChars_padded (width n : Nat) : Nat.ofDigitChars 10 (padded width n) 0 = n := by
  rw [padded, Nat.ofDigitChars_append, Nat.ofDigitChars_replicate_zero, Nat.mul_zero,
    Nat.ofDigitChars_ten_toDigits]

theorem length_padded (width n : Nat) :
    (padded width n).length = max width (Nat.toDigits 10 n).length := by
  rw [padded, List.length_append, List.length_replicate]
  omega

theorem padded_ne_nil (width n : Nat) : padded width n ≠ [] :=
  List.append_ne_nil_of_right_ne_nil _ Nat.toDigits_ne_nil

/-- A number that fits into the width is written in exactly that many digits. -/
theorem length_padded_of_lt {width n : Nat} (hwidth : 0 < width) (hn : n < Nat.pow 10 width) :
    (padded width n).length = width := by
  have hdigits := (Nat.length_toDigits_le_iff (b := 10) (by decide) hwidth).2 hn
  rw [length_padded]
  omega

-- ════════════════════════════════════════════════════════════════════════
-- Reading digits
-- ════════════════════════════════════════════════════════════════════════

/-- What has been read after some digits more. -/
def Progress.after (p : Progress) (digits : List Char) : Progress where
  mantissa := Nat.ofDigitChars 10 digits p.mantissa
  scale := p.scale + if p.point then digits.length else 0
  point := p.point
  digits := p.digits || !digits.isEmpty

/-- Digits are read one after the other as long as they fit. -/
theorem readFrom_digits {negative : Bool} {p : Progress} {digits : List Char} (rest : List Char)
    (hdigits : ∀ d ∈ digits, d.isDigit = true)
    (hmantissa : (p.after digits).mantissa < mantissaBound)
    (hscale : (p.after digits).scale ≤ maxScale) :
    readFrom negative p (digits ++ rest) = readFrom negative (p.after digits) rest := by
  induction digits generalizing p with
  | nil =>
    have hafter : p.after [] = p := by simp [Progress.after, Nat.ofDigitChars_nil]
    rw [hafter]
    rfl
  | cons d digits ih =>
    obtain ⟨hd, hdigits⟩ := List.forall_mem_cons.1 hdigits
    have hvalue : digitValue? d = some (d.toNat - '0'.toNat) := if_pos hd
    -- the digit is read before the last place after the point is taken
    have hroom : ¬ (p.point ∧ p.scale = maxScale) := by
      rintro ⟨hpoint, hfull⟩
      simp only [Progress.after, hpoint, if_true, List.length_cons] at hscale
      omega
    let next : Progress :=
      { p with
        mantissa := p.mantissa * 10 + (d.toNat - '0'.toNat)
        scale := p.scale + (if p.point then 1 else 0)
        digits := true }
    have hnext : next.after digits = p.after (d :: digits) := by
      have hplaces : p.scale + (if p.point then 1 else 0) + (if p.point then digits.length else 0) =
          p.scale + if p.point then digits.length + 1 else 0 := by
        split <;> omega
      simp only [next, Progress.after, Nat.ofDigitChars_cons, Nat.mul_comm p.mantissa 10,
        List.isEmpty_cons, Bool.not_false, Bool.or_true, Bool.true_or, List.length_cons, hplaces]
    have hfits : p.mantissa * 10 + (d.toNat - '0'.toNat) < mantissaBound := by
      have hgrow := le_ofDigitChars digits next.mantissa
      rw [← hnext] at hmantissa
      exact Nat.lt_of_le_of_lt hgrow hmantissa
    rw [List.cons_append, readFrom, if_neg hroom, hvalue]
    simp only [if_pos hfits]
    rw [← hnext]
    exact ih hdigits (hnext ▸ hmantissa) (hnext ▸ hscale)

/-- Without a sign, a decimal is read from a digit on. -/
theorem read_of_isDigit {c : Char} {s : List Char} (hc : c.isDigit = true) :
    read (c :: s) = readFrom false {} (c :: s) := by
  unfold read
  split
  · next h => cases h
  · next h =>
    cases h
    cases hc
  · next h =>
    cases h
    cases hc
  · rfl

-- ════════════════════════════════════════════════════════════════════════
-- Decimals
-- ════════════════════════════════════════════════════════════════════════

/-- The digits before the point. -/
def whole (d : Decimal) : List Char :=
  let ds := padded (d.scale + 1) d.mantissa
  ds.take (ds.length - d.scale)

/-- The digits after the point. -/
def part (d : Decimal) : List Char :=
  let ds := padded (d.scale + 1) d.mantissa
  ds.drop (ds.length - d.scale)

theorem toList_text (d : Decimal) :
    d.text.toList = (if d.negative then ['-'] else []) ++ d.whole ++
      (if d.scale = 0 then [] else '.' :: d.part) := by
  rw [text, String.toList_ofList]
  rfl

theorem whole_append_part (d : Decimal) : d.whole ++ d.part = padded (d.scale + 1) d.mantissa :=
  List.take_append_drop _ _

theorem isDigit_of_mem_whole {d : Decimal} {c : Char} (hc : c ∈ d.whole) : c.isDigit = true :=
  isDigit_of_mem_padded (List.mem_of_mem_take hc)

theorem isDigit_of_mem_part {d : Decimal} {c : Char} (hc : c ∈ d.part) : c.isDigit = true :=
  isDigit_of_mem_padded (List.mem_of_mem_drop hc)

/-- There are more digits than places after the point. -/
theorem scale_lt_length_padded (d : Decimal) :
    d.scale < (padded (d.scale + 1) d.mantissa).length := by
  rw [length_padded]
  omega

theorem whole_ne_nil (d : Decimal) : d.whole ≠ [] := by
  have hlength := scale_lt_length_padded d
  rw [← List.length_pos_iff, whole, List.length_take]
  omega

theorem length_part (d : Decimal) : d.part.length = d.scale := by
  have hlength := scale_lt_length_padded d
  rw [part, List.length_drop]
  omega

theorem ofDigitChars_part (d : Decimal) :
    Nat.ofDigitChars 10 d.part (Nat.ofDigitChars 10 d.whole 0) = d.mantissa := by
  rw [← Nat.ofDigitChars_append, whole_append_part, ofDigitChars_padded]

/-- What is read of a decimal before its point. -/
theorem readFrom_whole (d : Decimal) (negative : Bool) (rest : List Char) :
    readFrom negative {} (d.whole ++ rest) =
      readFrom negative ⟨Nat.ofDigitChars 10 d.whole 0, 0, false, true⟩ rest := by
  have hafter : Progress.after {} d.whole = ⟨Nat.ofDigitChars 10 d.whole 0, 0, false, true⟩ := by
    simp [Progress.after, whole_ne_nil]
  have hmantissa : Nat.ofDigitChars 10 d.whole 0 < mantissaBound := by
    have hgrow := le_ofDigitChars d.part (Nat.ofDigitChars 10 d.whole 0)
    rw [ofDigitChars_part] at hgrow
    exact Nat.lt_of_le_of_lt hgrow d.mantissa_lt
  rw [← hafter]
  refine readFrom_digits rest (fun _ => isDigit_of_mem_whole) ?_ ?_
  · rwa [hafter]
  · rw [hafter]
    exact Nat.zero_le _

/-- What is read of a decimal from its point on. -/
theorem readFrom_part (d : Decimal) (negative : Bool) :
    readFrom negative ⟨Nat.ofDigitChars 10 d.whole 0, 0, false, true⟩ ('.' :: d.part) =
      Progress.finish negative ⟨d.mantissa, d.scale, true, true⟩ := by
  have hafter : Progress.after ⟨Nat.ofDigitChars 10 d.whole 0, 0, true, true⟩ d.part =
      ⟨d.mantissa, d.scale, true, true⟩ := by
    simp [Progress.after, ofDigitChars_part, length_part]
  have hpoint : readFrom negative ⟨Nat.ofDigitChars 10 d.whole 0, 0, false, true⟩ ('.' :: d.part) =
      readFrom negative ⟨Nat.ofDigitChars 10 d.whole 0, 0, true, true⟩ (d.part ++ []) := by
    rw [readFrom, if_neg (by simp), List.append_nil]
    rfl
  rw [hpoint, readFrom_digits [] (fun _ => isDigit_of_mem_part) ?_ ?_, hafter, readFrom]
  · rw [hafter]
    exact d.mantissa_lt
  · rw [hafter]
    exact d.scale_le

/-- The parts of a decimal make up the decimal, unless it is a zero with a sign. -/
theorem finish_eq_ok {d : Decimal} (hzero : d.mantissa = 0 → d.negative = false) (point : Bool) :
    Progress.finish d.negative ⟨d.mantissa, d.scale, point, true⟩ = .ok d := by
  have hsign : (d.negative && d.mantissa != 0) = d.negative := by
    by_cases hmantissa : d.mantissa = 0
    · rw [hzero hmantissa, Bool.false_and]
    · simp [hmantissa]
  rw [Progress.finish, if_pos rfl, ofParts?, dif_pos ⟨d.mantissa_lt, d.scale_le⟩]
  simp only [hsign]

/-- The digits of a decimal are read after its sign. -/
theorem readFrom_text {d : Decimal} (hzero : d.mantissa = 0 → d.negative = false) :
    readFrom d.negative {} (d.whole ++ if d.scale = 0 then [] else '.' :: d.part) = .ok d := by
  rw [readFrom_whole]
  by_cases hscale : d.scale = 0
  · have hnone : d.part = [] := List.eq_nil_of_length_eq_zero ((length_part d).trans hscale)
    have hvalue := ofDigitChars_part d
    rw [hnone, Nat.ofDigitChars_nil] at hvalue
    rw [if_pos hscale, readFrom, hvalue, ← hscale]
    exact finish_eq_ok hzero false
  · rw [if_neg hscale, readFrom_part]
    exact finish_eq_ok hzero true

/-- A decimal is read as it is written, with its scale. -/
theorem read_text {d : Decimal} (hzero : d.mantissa = 0 → d.negative = false) :
    read d.text.toList = .ok d := by
  have hread := readFrom_text hzero
  rw [toList_text]
  cases hsign : d.negative with
  | true =>
    rw [hsign] at hread
    exact hread
  | false =>
    obtain ⟨c, rest, hwhole⟩ := List.exists_cons_of_ne_nil (whole_ne_nil d)
    have hc : c.isDigit = true := isDigit_of_mem_whole (hwhole ▸ List.mem_cons_self)
    rw [hsign, hwhole] at hread
    rw [if_neg Bool.false_ne_true, List.nil_append, hwhole, List.cons_append, read_of_isDigit hc]
    exact hread

/-- There is no blank in a decimal. -/
theorem isBlank_of_mem_text {d : Decimal} {c : Char} (hc : c ∈ d.text.toList) :
    Text.isBlank c = false := by
  have hwhole : ∀ c ∈ d.whole, Text.isBlank c = false :=
    fun _ hc => Text.isBlank_of_isDigit (isDigit_of_mem_whole hc)
  have hpart : ∀ c ∈ d.part, Text.isBlank c = false :=
    fun _ hc => Text.isBlank_of_isDigit (isDigit_of_mem_part hc)
  have hall : ∀ c ∈ d.text.toList, Text.isBlank c = false := by
    rw [toList_text]
    simp only [List.forall_mem_append]
    refine ⟨⟨?_, hwhole⟩, ?_⟩
    · split
      · simpa using show Text.isBlank '-' = false by decide
      · exact nofun
    · split
      · exact nofun
      · exact List.forall_mem_cons.2 ⟨by decide, hpart⟩
  exact hall c hc

end Parley.Decimal
