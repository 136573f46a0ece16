import Parley.Calendar.Date
import Parley.Proofs.Number.Decimal
import Parley.Proofs.Text.Line

/-!
# Dates that are written and read

A date is written as its year, month and day, and read back from them. A year of four digits has no
sign, and any other one is told apart from the month by the dash after its digits.

## Main results

- `takeDigits_append`, `readNumber_digits` — digits are read up to what is no digit
- `readYear_yearText`, `readPart_digits` — the fields of a date are read as they are written
- `read_text` — a date is read as it is written
-/

namespace Parley.Date

open Parley.Text

-- ════════════════════════════════════════════════════════════════════════
-- Fields in digits
-- ════════════════════════════════════════════════════════════════════════

/-- The fields of a date have zeros in front as decimals have. -/
theorem digits_eq_padded (width n : Nat) : digits width n = Decimal.padded width n :=
  rfl

theorem isDigit_of_mem_digits {width n : Nat} {c : Char} (hc : c ∈ digits width n) :
    c.isDigit = true :=
  Decimal.isDigit_of_mem_padded hc

theorem exists_digits_eq_cons (width n : Nat) :
    ∃ c ds, digits width n = c :: ds ∧ c.isDigit = true := by
  obtain ⟨c, ds, hds⟩ := List.exists_cons_of_ne_nil (Decimal.padded_ne_nil width n)
  exact ⟨c, ds, hds, Decimal.isDigit_of_mem_padded (hds ▸ List.mem_cons_self)⟩

/-- What follows digits is no digit. -/
def EndsDigits (rest : List Char) : Prop :=
  ∀ c ∈ rest.head?, c.isDigit = false

theorem endsDigits_cons {c : Char} (hc : c.isDigit = false) (rest : List Char) :
    EndsDigits (c :: rest) := by
  rintro d ⟨⟩
  exact hc

/-- Digits are taken until there are enough of them, or something else follows. -/
theorem takeDigits_append {width n : Nat} {ds rest : List Char}
    (hdigits : ∀ d ∈ ds, d.isDigit = true) (hlimit : Nat.ofDigitChars 10 ds n ≤ fieldLimit)
    (hwidth : ds.length ≤ width) (hend : ds.length = width ∨ EndsDigits rest) :
    takeDigits width n (ds ++ rest) = .ok (Nat.ofDigitChars 10 ds n, rest) := by
  induction ds generalizing width n with
  | nil =>
    rw [List.nil_append, Nat.ofDigitChars_nil]
    cases width with
    | zero => rfl
    | succ width =>
      cases rest with
      | nil => rfl
      | cons c rest =>
        have hc : c.isDigit = false := hend.resolve_left (by simp) c rfl
        have hvalue : digitValue? c = none := if_neg (by simp [hc])
        rw [takeDigits, hvalue]
  | cons d ds ih =>
    obtain ⟨hd, hdigits⟩ := List.forall_mem_cons.1 hdigits
    have hvalue : digitValue? d = some (d.toNat - '0'.toNat) := if_pos hd
    rw [List.length_cons] at hwidth hend
    obtain ⟨width, rfl⟩ : ∃ w, width = w + 1 := ⟨width - 1, by omega⟩
    rw [Nat.ofDigitChars_cons, Nat.mul_comm 10 n] at hlimit ⊢
    have hgrow := le_ofDigitChars ds (n * 10 + (d.toNat - '0'.toNat))
    rw [List.cons_append, takeDigits, hvalue]
    simp only [if_pos (hgrow.trans hlimit)]
    exact ih hdigits hlimit (by omega) (hend.imp_left (by omega))

/-- A field is read from its digits. -/
theorem readNumber_append {width : Nat} {ds rest : List Char} (hne : ds ≠ [])
    (hdigits : ∀ d ∈ ds, d.isDigit = true) (hlimit : Nat.ofDigitChars 10 ds 0 ≤ fieldLimit)
    (hwidth : ds.length ≤ width) (hend : ds.length = width ∨ EndsDigits rest) :
    readNumber width (ds ++ rest) = .ok (Nat.ofDigitChars 10 ds 0, rest) := by
  have htake := takeDigits_append hdigits hlimit hwidth hend
  cases ds with
  | nil => exact absurd rfl hne
  | cons d ds =>
    rw [List.cons_append] at htake ⊢
    rw [readNumber, if_pos (hdigits d List.mem_cons_self), htake]

theorem readMark_cons (mark : Char) (rest : List Char) :
    readMark mark (mark :: rest) = .ok rest :=
  if_pos rfl

/-- Nothing is skipped before a field. -/
theorem trimStart_digits (width n : Nat) (rest : List Char) :
    trimStart (digits width n ++ rest) = digits width n ++ rest := by
  obtain ⟨c, ds, hds, hc⟩ := exists_digits_eq_cons width n
  have hblank : isBlank c = false := isBlank_of_isDigit hc
  rw [hds, List.cons_append, trimStart, List.dropWhile_cons_of_neg (by simp [hblank])]

-- ════════════════════════════════════════════════════════════════════════
-- Dates
-- ════════════════════════════════════════════════════════════════════════

/-- A field is read as the number that is written there. -/
theorem readNumber_digits {width places n : Nat} {rest : List Char} (hlimit : n ≤ fieldLimit)
    (hwidth : (digits places n).length ≤ width)
    (hend : (digits places n).length = width ∨ EndsDigits rest) :
    readNumber width (digits places n ++ rest) = .ok (n, rest) := by
  have hvalue : Nat.ofDigitChars 10 (digits places n) 0 = n := Decimal.ofDigitChars_padded _ _
  have hread := readNumber_append (Decimal.padded_ne_nil places n)
    (fun _ => Decimal.isDigit_of_mem_padded) (hvalue.trans_le hlimit) hwidth hend
  rw [← digits_eq_padded, hvalue] at hread
  exact hread

/-- Without a sign, a year has at most four digits. -/
theorem readYear_digits {places n : Nat} {rest : List Char} (hn : n < 10000)
    (hplaces : (digits places n).length = 4) :
    readYear (digits places n ++ rest) = .ok ((n : Int), rest) := by
  have hread : readNumber 4 (digits places n ++ rest) = .ok (n, rest) :=
    readNumber_digits (by rw [fieldLimit]; omega) hplaces.le (.inl hplaces)
  obtain ⟨c, ds, hds, hc⟩ := exists_digits_eq_cons places n
  rw [readYear, trimStart_digits]
  rw [hds, List.cons_append] at hread ⊢
  split
  · next h =>
    cases h
    cases hc
  · next h =>
    cases h
    cases hc
  · simp only [hread, Except.map, bind, Except.bind]
    rw [if_pos (by omega)]
    rfl

/-- After a sign, a year has any number of digits. -/
theorem readYear_signed {n : Nat} {rest : List Char} (hn : n < 0x80000000)
    (hend : EndsDigits rest) :
    readYear ('-' :: (digits 4 n ++ rest)) = .ok (-(n : Int), rest) ∧
      readYear ('+' :: (digits 4 n ++ rest)) = .ok ((n : Int), rest) := by
  have hread : readNumber (digits 4 n ++ rest).length (digits 4 n ++ rest) = .ok (n, rest) := by
    refine readNumber_digits (by rw [fieldLimit]; omega) ?_ (.inr hend)
    rw [List.length_append]
    omega
  constructor
  · have hstart : trimStart ('-' :: (digits 4 n ++ rest)) = '-' :: (digits 4 n ++ rest) := rfl
    rw [readYear, hstart]
    simp only [hread, Except.map, bind, Except.bind]
    rw [if_pos (by omega)]
    rfl
  · have hstart : trimStart ('+' :: (digits 4 n ++ rest)) = '+' :: (digits 4 n ++ rest) := rfl
    rw [readYear, hstart]
    simp only [hread, Except.map, bind, Except.bind]
    rw [if_pos (by omega)]
    rfl

theorem readYear_yearText {year : Int} {rest : List Char}
    (hyear : firstYear ≤ year ∧ year ≤ lastYear) (hend : EndsDigits rest) :
    readYear (yearText year ++ rest) = .ok (year, rest) := by
  obtain ⟨hfirst, hlast⟩ := hyear
  rw [firstYear] at hfirst
  rw [lastYear] at hlast
  rw [yearText]
  by_cases hfour : 0 ≤ year ∧ year ≤ 9999
  · have hlength : (digits 4 year.toNat).length = 4 :=
      Decimal.length_padded_of_lt (by decide) (show year.toNat < 10000 by omega)
    rw [if_pos hfour, readYear_digits (by omega) hlength, Int.toNat_of_nonneg hfour.1]
  · obtain ⟨hminus, hplus⟩ := readYear_signed (n := year.natAbs) (by omega) hend
    rw [if_neg hfour, List.cons_append]
    by_cases hneg : year < 0
    · rw [if_pos hneg, hminus, show -(year.natAbs : Int) = year by omega]
    · rw [if_neg hneg, hplus, show (year.natAbs : Int) = year by omega]

/-- Months and days have two digits. -/
theorem readPart_digits {last n : Nat} (rest : List Char) (hn : 1 ≤ n ∧ n ≤ last)
    (hlast : last < 100) : readPart last (digits 2 n ++ rest) = .ok (n, rest) := by
  have hlength : (digits 2 n).length = 2 :=
    Decimal.length_padded_of_lt (by decide) (show n < 100 by omega)
  have hread : readNumber 2 (digits 2 n ++ rest) = .ok (n, rest) :=
    readNumber_digits (by rw [fieldLimit]; omega) hlength.le (.inl hlength)
  rw [readPart, trimStart_digits, hread]
  exact if_pos hn

theorem of?_self (d : Date) : of? d.year d.month d.day = some d :=
  dif_pos d.isDate

theorem day_le (d : Date) : d.day ≤ 31 := by
  refine d.isDate.2.2.2.trans ?_
  rw [daysInMonth]
  split
  · split <;> decide
  · split <;> decide

/-- A date is read as it is written. -/
theorem read_text (d : Date) : read d.text.toList = .ok d := by
  obtain ⟨hyear, hmonth, hday, -⟩ := d.isDate
  have hdash (rest : List Char) : EndsDigits ('-' :: rest) := endsDigits_cons (by decide) rest
  have hlast : readPart 31 (digits 2 d.day ++ []) = .ok (d.day, []) :=
    readPart_digits [] ⟨hday, day_le d⟩ (by decide)
  rw [List.append_nil] at hlast
  rw [text, String.toList_ofList, chars, List.append_assoc, List.cons_append, read,
    readYear_yearText hyear (hdash _)]
  simp only [bind, Except.bind, readMark_cons, readPart_digits _ hmonth (by decide), hlast,
    List.isEmpty_nil, if_true, of?_self]
  rfl

/-- There is no blank in a date. -/
theorem isBlank_of_mem_chars {d : Date} {c : Char} (hc : c ∈ d.chars) : isBlank c = false := by
  have hdigits (width n : Nat) : ∀ c ∈ digits width n, isBlank c = false :=
    fun _ hc => isBlank_of_isDigit (isDigit_of_mem_digits hc)
  have hdash : isBlank '-' = false := by decide
  have hyear : ∀ c ∈ yearText d.year, isBlank c = false := by
    rw [yearText]
    split
    · exact hdigits 4 _
    · refine List.forall_mem_cons.2 ⟨?_, hdigits 4 _⟩
      split <;> decide
  have hall : ∀ c ∈ d.chars, isBlank c = false := by
    simp only [chars, List.forall_mem_append, List.forall_mem_cons]
    exact ⟨⟨hyear, hdash, hdigits 2 _⟩, hdash, hdigits 2 _⟩
  exact hall c hc

end Parley.Date
