import Parley.Calendar.Instant
import Parley.Proofs.Calendar.Date

/-!
# Points in time that are written and read

A point in time is written in universal time, with an offset of zero or the letter for it, and with
as many places of its fraction as show it. The year must have four digits, since that is where the
month is looked for. A leap second is told from its text at the end of a minute only, where it is
the sixtieth second.

## Main definitions

- `IsUniversal` — the texts that stand for universal time
- `apparent` — the point in time that a text shows

## Main results

- `readFixed_digits`, `readFraction_text` — the fields are read as they are written
- `read_chars` — a point in time is read as it appears
- `read_chars_eq_ok_iff` — the points in time that are read as they are
-/

namespace Parley.Instant

open Parley.Date

-- ════════════════════════════════════════════════════════════════════════
-- Fields at fixed places
-- ════════════════════════════════════════════════════════════════════════

theorem readFixed_append {ds : List Char} (hdigits : ∀ d ∈ ds, d.isDigit = true) (n : Nat)
    (rest : List Char) :
    readFixed ds.length n (ds ++ rest) = .ok (Nat.ofDigitChars 10 ds n, rest) := by
  induction ds generalizing n with
  | nil => rfl
  | cons d ds ih =>
    obtain ⟨hd, hdigits⟩ := List.forall_mem_cons.1 hdigits
    have hvalue : digitValue? d = some (d.toNat - '0'.toNat) := if_pos hd
    rw [List.length_cons, List.cons_append, readFixed, hvalue, Nat.ofDigitChars_cons,
      Nat.mul_comm 10 n]
    exact ih hdigits _

/-- A field is read as the number that is written there. -/
theorem readFixed_digits {count n : Nat} (rest : List Char) (hcount : 0 < count)
    (hn : n < Nat.pow 10 count) : readFixed count 0 (digits count n ++ rest) = .ok (n, rest) := by
  have hlength : (digits count n).length = count := Decimal.length_padded_of_lt hcount hn
  have hdigits : ∀ d ∈ digits count n, d.isDigit = true := fun _ => isDigit_of_mem_digits
  have hread := readFixed_append hdigits 0 rest
  rw [hlength] at hread
  rw [hread, digits_eq_padded, Decimal.ofDigitChars_padded]

theorem readFixed_of_not_isDigit {c : Char} (hc : c.isDigit = false) (count n : Nat)
    (s : List Char) : readFixed (count + 1) n (c :: s) = .error .invalid := by
  have hvalue : digitValue? c = none := if_neg (by simp [hc])
  rw [readFixed, hvalue]

-- ════════════════════════════════════════════════════════════════════════
-- Fractions
-- ════════════════════════════════════════════════════════════════════════

/-- The places of a fraction that are not written count as zeros. -/
theorem readFraction_digits {places n : Nat} {rest : List Char} (hplaces : 0 < places)
    (hnine : places ≤ 9) (hn : n < Nat.pow 10 places) (hend : EndsDigits rest) :
    readFraction (digits places n ++ rest) = .ok (n * Nat.pow 10 (9 - places), rest) := by
  have hlength : (digits places n).length = places := Decimal.length_padded_of_lt hplaces hn
  have hlimit : n ≤ fieldLimit := by
    have hbound : Nat.pow 10 places ≤ Nat.pow 10 9 := Nat.pow_le_pow_right (by decide) hnine
    exact (hn.trans_le hbound).le.trans (by decide)
  have hread : readNumber 9 (digits places n ++ rest) = .ok (n, rest) :=
    readNumber_digits hlimit (hlength.trans_le hnine) (.inr hend)
  have hdrop : ([] ++ rest).dropWhile Char.isDigit = rest := Text.dropWhile_append nofun hend
  rw [List.nil_append] at hdrop
  have hsize : (digits places n ++ rest).length - rest.length = places := by
    rw [List.length_append, hlength, Nat.add_sub_cancel]
  simp only [readFraction, hread, bind, Except.bind, hsize, hdrop]
  rfl

/-- A fraction is read as it is written, however many places it takes. -/
theorem readFraction_text {nanos : Nat} (hpos : nanos ≠ 0) (hnanos : nanos < nanosPerSecond) :
    ∃ ds, fractionText nanos = '.' :: ds ∧
      ∀ rest, EndsDigits rest → readFraction (ds ++ rest) = .ok (nanos, rest) := by
  rw [nanosPerSecond] at hnanos
  have hread (places unit : Nat) (hunit : unit * Nat.pow 10 places = 1000000000)
      (hscale : Nat.pow 10 (9 - places) = unit) (hplaces : 0 < places ∧ places ≤ 9)
      (hwhole : nanos % unit = 0) (rest : List Char) (hend : EndsDigits rest) :
      readFraction (digits places (nanos / unit) ++ rest) = .ok (nanos, rest) := by
    have hfits : nanos / unit < Nat.pow 10 places := Nat.div_lt_of_lt_mul (hunit ▸ hnanos)
    rw [readFraction_digits hplaces.1 hplaces.2 hfits hend, hscale,
      Nat.div_mul_cancel (Nat.dvd_of_mod_eq_zero hwhole)]
  rw [fractionText, if_neg hpos]
  split
  · next hmillis => exact ⟨_, rfl, hread 3 1000000 rfl rfl (by decide) hmillis⟩
  · split
    · next hmicros => exact ⟨_, rfl, hread 6 1000 rfl rfl (by decide) hmicros⟩
    · have hall := hread 9 1 rfl rfl (by decide) (Nat.mod_one nanos)
      rw [Nat.div_one] at hall
      exact ⟨_, rfl, hall⟩

-- ════════════════════════════════════════════════════════════════════════
-- The parts of a point in time
-- ════════════════════════════════════════════════════════════════════════

/-- A date is read at the start of a point in time if its year has four digits. -/
theorem readDay_chars {d : Date} (hyear : 0 ≤ d.year ∧ d.year ≤ 9999) (rest : List Char) :
    readDay (d.chars ++ rest) = .ok (d, rest) := by
  have hmonth := d.isDate.2.1
  have hday := day_le d
  have hcast : ((d.year.toNat : Nat) : Int) = d.year := Int.toNat_of_nonneg hyear.1
  rw [Date.chars, yearText, if_pos hyear, readDay]
  simp only [List.append_assoc, List.cons_append, bind, Except.bind, readMark_cons,
    readFixed_digits _ (show 0 < 4 by decide) (show d.year.toNat < 10000 by omega),
    readFixed_digits _ (show 0 < 2 by decide) (show d.month < 100 by omega),
    readFixed_digits _ (show 0 < 2 by decide) (show d.day < 100 by omega), hcast, of?_self]
  rfl

/-- Where the year has a sign, there is no date at the start of a point in time. -/
theorem readDay_chars_eq_error {d : Date} (hyear : ¬ (0 ≤ d.year ∧ d.year ≤ 9999))
    (rest : List Char) : readDay (d.chars ++ rest) = .error .invalid := by
  have hsign : (if d.year < 0 then '-' else '+').isDigit = false := by
    split <;> rfl
  rw [Date.chars, yearText, if_neg hyear, readDay]
  simp only [List.cons_append, readFixed_of_not_isDigit hsign]
  rfl

theorem readClock_digits {hour minute second : Nat} (rest : List Char) (hhour : hour < 100)
    (hminute : minute < 100) (hsecond : second < 100) :
    readClock (digits 2 hour ++ ':' :: (digits 2 minute ++ ':' :: (digits 2 second ++ rest))) =
      .ok ((hour, minute, second), rest) := by
  rw [readClock]
  simp only [bind, Except.bind, readMark_cons, readFixed_digits _ (show 0 < 2 by decide) hhour,
    readFixed_digits _ (show 0 < 2 by decide) hminute,
    readFixed_digits _ (show 0 < 2 by decide) hsecond]
  rfl

theorem add_length_le_foldl (s : List Char) (n : Nat) :
    n + s.length ≤ s.foldl (fun n c => n + c.utf8Size) n := by
  induction s generalizing n with
  | nil => exact le_rfl
  | cons c s ih =>
    have hgrow := ih (n + c.utf8Size)
    have hpos := c.utf8Size_pos
    rw [List.foldl_cons, List.length_cons]
    omega

theorem length_le_byteLength (s : List Char) : s.length ≤ byteLength s := by
  have hgrow := add_length_le_foldl s 0
  rwa [Nat.zero_add] at hgrow

/-- Up to its seconds, a point in time takes nineteen characters or more. -/
theorem le_length_chars (t : Instant) : 19 ≤ t.chars.length := by
  have hwidth (width n : Nat) : width ≤ (digits width n).length := by
    rw [digits_eq_padded, Decimal.length_padded]
    exact le_max_left _ _
  have hyear : 4 ≤ (yearText t.date.year).length := by
    rw [yearText]
    split
    · exact hwidth 4 _
    · rw [List.length_cons]
      exact (hwidth 4 _).trans (Nat.le_succ _)
  have hmonth := hwidth 2 t.date.month
  have hday := hwidth 2 t.date.day
  have hhour := hwidth 2 (t.minute.val / 60)
  have hminute := hwidth 2 (t.minute.val % 60)
  have hsecond := hwidth 2 (t.second.val + t.nanos.val / nanosPerSecond)
  simp only [chars, Date.chars, List.length_append, List.length_cons]
  omega

-- ════════════════════════════════════════════════════════════════════════
-- Points in time
-- ════════════════════════════════════════════════════════════════════════

/-- The text stands for universal time: the letter, or an offset of zero. -/
def IsUniversal (zone : List Char) : Prop :=
  zone = ['Z'] ∨ zone = "+00:00".toList

theorem IsUniversal.readOffset {zone : List Char} (h : IsUniversal zone) :
    readOffset zone = .ok (0, []) := by
  rcases h with rfl | rfl <;> rfl

theorem IsUniversal.endsDigits {zone : List Char} (h : IsUniversal zone) : EndsDigits zone := by
  rcases h with rfl | rfl <;> exact endsDigits_cons (by decide) _

theorem IsUniversal.ne_fraction {zone : List Char} (h : IsUniversal zone) (rest : List Char) :
    zone ≠ '.' :: rest := by
  rcases h with rfl | rfl <;> exact fun heq => absurd (List.cons.inj heq).1 (by decide)

/-- The point in time that a text shows: a leap second looks like the next second, unless it is
that of the end of a minute. -/
def apparent (t : Instant) : Instant :=
  let second := t.second.val + t.nanos.val / nanosPerSecond
  let leap := if second = 60 then nanosPerSecond else 0
  { t with
    second := ⟨min second 59 % 60, Nat.mod_lt _ (by decide)⟩
    nanos := ⟨(t.nanos.val % nanosPerSecond + leap) % (2 * nanosPerSecond),
      Nat.mod_lt _ (by decide)⟩ }

/-- In universal time, a point in time lies at its local time. -/
theorem ofLocal?_zero (date : Date) (minute : Fin minutesPerDay) (second : Fin 60)
    (nanos : Fin (2 * nanosPerSecond)) :
    ofLocal? date (60 * (minute.val / 60) + minute.val % 60) second nanos 0 =
      some ⟨date, minute, second, nanos⟩ := by
  have hday : minute.val < minutesPerDay := minute.isLt
  have htotal : ((60 * (minute.val / 60) + minute.val % 60 : Nat) : Int) - 0 = minute.val := by
    rw [Nat.div_add_mod, Int.sub_zero]
  have hkept : ((minute.val : Int) % (minutesPerDay : Nat)).toNat % minutesPerDay = minute.val := by
    rw [← Int.natCast_emod, Int.toNat_natCast, Nat.mod_mod, Nat.mod_eq_of_lt hday]
  simp only [ofLocal?, htotal, hkept]
  rw [if_neg (by omega), if_pos (by omega)]
  rfl

/-- At most one second is carried over from the nanoseconds. -/
theorem carry_lt (t : Instant) : t.nanos.val / nanosPerSecond < 2 :=
  Nat.div_lt_of_lt_mul (Nat.mul_comm 2 _ ▸ t.nanos.isLt)

/-- A point in time is read as it appears if its year has four digits. -/
theorem read_chars {t : Instant} {zone : List Char} (hyear : 0 ≤ t.date.year ∧ t.date.year ≤ 9999)
    (hzone : IsUniversal zone) : read (t.chars ++ zone) = .ok t.apparent := by
  have hlength : ¬ byteLength (t.chars ++ zone) < 19 := by
    have hchars := le_length_chars t
    have hbytes := length_le_byteLength (t.chars ++ zone)
    rw [List.length_append] at hbytes
    omega
  have hcarry := carry_lt t
  have hsixty : t.second.val < 60 := t.second.isLt
  have hminute : t.minute.val < 1440 := t.minute.isLt
  have hday (rest : List Char) := readDay_chars hyear rest
  have hsep (rest : List Char) : readSeparator ('T' :: rest) = .ok rest := rfl
  have hclock (rest : List Char) := readClock_digits rest
    (show t.minute.val / 60 < 100 by omega) (show t.minute.val % 60 < 100 by omega)
    (show t.second.val + t.nanos.val / nanosPerSecond < 100 by omega)
  have hrange : ¬ (24 ≤ t.minute.val / 60 ∨ 60 ≤ t.minute.val % 60 ∨
      60 < t.second.val + t.nanos.val / nanosPerSecond) := by
    omega
  rw [read, if_neg hlength]
  simp only [chars, List.append_assoc, List.cons_append, bind, Except.bind, hday, hsep, hclock]
  by_cases hwhole : t.nanos.val % nanosPerSecond = 0
  · have hnone : fractionText (t.nanos.val % nanosPerSecond) = [] := if_pos hwhole
    rw [hnone, List.nil_append]
    split
    · exact absurd rfl (hzone.ne_fraction _)
    · simp only [pure, Except.pure, if_neg hrange, hzone.readOffset, ofLocal?_zero, apparent,
        hwhole]
      rfl
  · obtain ⟨ds, hds, hread⟩ := readFraction_text hwhole (Nat.mod_lt _ (by decide))
    rw [hds, List.cons_append]
    simp only [hread _ hzone.endsDigits, if_neg hrange, hzone.readOffset, ofLocal?_zero]
    rfl

/-- Where the year has a sign, nothing is read. -/
theorem read_chars_ne_ok {t : Instant} {zone : List Char}
    (hyear : ¬ (0 ≤ t.date.year ∧ t.date.year ≤ 9999)) (u : Instant) :
    read (t.chars ++ zone) ≠ .ok u := by
  rw [read]
  split
  · exact nofun
  · simp only [chars, List.append_assoc, bind, Except.bind, readDay_chars_eq_error hyear]
    exact nofun

theorem apparent_eq_iff (t : Instant) : t.apparent = t ↔
    t.apparent.second.val = t.second.val ∧ t.apparent.nanos.val = t.nanos.val := by
  constructor
  · intro h
    rw [h]
    exact ⟨rfl, rfl⟩
  · rintro ⟨hsecond, hnanos⟩
    cases t
    simp only [apparent, Instant.mk.injEq]
    exact ⟨trivial, trivial, Fin.ext hsecond, Fin.ext hnanos⟩

theorem val_second_apparent (t : Instant) :
    t.apparent.second.val = min (t.second.val + t.nanos.val / nanosPerSecond) 59 :=
  Nat.mod_eq_of_lt (by omega)

theorem val_nanos_apparent (t : Instant) :
    t.apparent.nanos.val = (t.nanos.val % nanosPerSecond +
      if t.second.val + t.nanos.val / nanosPerSecond = 60 then nanosPerSecond else 0) %
        (2 * nanosPerSecond) :=
  rfl

/-- Leap seconds are told from their texts at the end of a minute only. -/
theorem apparent_eq_self_iff (t : Instant) :
    t.apparent = t ↔ t.nanos.val < nanosPerSecond ∨ t.second.val = 59 := by
  have hnanos : t.nanos.val < 2 * nanosPerSecond := t.nanos.isLt
  have hsixty : t.second.val < 60 := t.second.isLt
  have hpos : 0 < nanosPerSecond := by decide
  rw [apparent_eq_iff, val_second_apparent, val_nanos_apparent]
  by_cases hleap : t.nanos.val < nanosPerSecond
  · rw [Nat.div_eq_of_lt hleap, Nat.mod_eq_of_lt hleap, Nat.add_zero, if_neg (by omega),
      Nat.add_zero, Nat.mod_eq_of_lt hnanos]
    omega
  · have hcarry : t.nanos.val / nanosPerSecond = 1 :=
      Nat.div_eq_of_lt_le (by omega) (by omega)
    have hleft : t.nanos.val % nanosPerSecond = t.nanos.val - nanosPerSecond := by
      rw [Nat.mod_eq_sub_mod (by omega), Nat.mod_eq_of_lt (by omega)]
    rw [hcarry, hleft]
    by_cases hlast : t.second.val = 59
    · rw [if_pos (by omega), Nat.sub_add_cancel (by omega), Nat.mod_eq_of_lt hnanos]
      omega
    · omega

/-- The points in time that are read as they are written: the year has four digits, and a leap
second stands at the end of a minute. -/
theorem read_chars_eq_ok_iff {t : Instant} {zone : List Char} (hzone : IsUniversal zone) :
    read (t.chars ++ zone) = .ok t ↔ (0 ≤ t.date.year ∧ t.date.year ≤ 9999) ∧
      (t.nanos.val < nanosPerSecond ∨ t.second.val = 59) := by
  by_cases hyear : 0 ≤ t.date.year ∧ t.date.year ≤ 9999
  · rw [read_chars hyear hzone, Except.ok.injEq, apparent_eq_self_iff]
    exact (and_iff_right hyear).symm
  · exact iff_of_false (read_chars_ne_ok hyear t) fun h => hyear h.1

/-- There is no blank in a point in time. -/
theorem isBlank_of_mem_chars {t : Instant} {zone : List Char} (hzone : IsUniversal zone) {c : Char}
    (hc : c ∈ t.chars ++ zone) : Text.isBlank c = false := by
  have hdigits (width n : Nat) : ∀ c ∈ digits width n, Text.isBlank c = false :=
    fun _ hc => Text.isBlank_of_isDigit (isDigit_of_mem_digits hc)
  have hletter : Text.isBlank 'T' = false := by decide
  have hcolon : Text.isBlank ':' = false := by decide
  have hpoint : Text.isBlank '.' = false := by decide
  have hdate : ∀ c ∈ t.date.chars, Text.isBlank c = false := fun _ => Date.isBlank_of_mem_chars
  have hfraction : ∀ c ∈ fractionText (t.nanos.val % nanosPerSecond), Text.isBlank c = false := by
    rw [fractionText]
    split
    · exact nofun
    · split
      · exact List.forall_mem_cons.2 ⟨hpoint, hdigits 3 _⟩
      · split
        · exact List.forall_mem_cons.2 ⟨hpoint, hdigits 6 _⟩
        · exact List.forall_mem_cons.2 ⟨hpoint, hdigits 9 _⟩
  have hend : ∀ c ∈ zone, Text.isBlank c = false := by
    rcases hzone with rfl | rfl <;> exact Text.isBlank_of_all rfl
  have hall : ∀ c ∈ t.chars ++ zone, Text.isBlank c = false := by
    simp only [chars, List.forall_mem_append, List.forall_mem_cons]
    exact ⟨⟨⟨⟨⟨hdate, hletter, hdigits 2 _⟩, hcolon, hdigits 2 _⟩, hcolon, hdigits 2 _⟩,
      hfraction⟩, hend⟩
  exact hall c hc

end Parley.Instant
