import Parley.Proofs.Calendar.Instant
import Parley.Proofs.Number.Decimal
import Parley.Proofs.Number.Integer
import Parley.Proofs.Text.Line
import Parley.Value

/-!
# Conversion undoes display

The text of a value is converted back into the value, with any blanks around it, where a point in
time is written as RFC 3339 has it. What is converted into a whole number is told exactly: it is a
numeral of the number.

## Main definitions

- `FromNumerals` — the texts that are converted into whole numbers of a type
- `IsWidth` — whole numbers are read as integers within bounds
- `Displays` — the values and the texts that they are displayed as
- `Instant.plainText` — what the plain printer of points in time gives

## Main results

- `convert_eq_ok_iff`, `convert_eq_error_iff` — a conversion reads the text between blanks
- `IsWidth.fromNumerals` — which texts are converted into whole numbers
- `Displays.readValue_eq` — a value is read from its text
- `conversion_undoes_display` — what is displayed is converted back
-/

namespace Parley

open Text

-- ════════════════════════════════════════════════════════════════════════
-- Between blanks
-- ════════════════════════════════════════════════════════════════════════

section

variable {target : ValueType} {raw : String} {s : List Char}

/-- Blanks around a text do not count, unless the value is a text itself. -/
theorem convert_of_trims (htarget : target ≠ .text) (hs : Trims raw.toList s) :
    convert (some raw) target =
      match readValue target s with
      | .ok v => .ok v
      | .error reason => .error ⟨raw, target, reason⟩ := by
  have hread : (if target = .text then raw.toList else trim raw.toList) = s :=
    (if_neg htarget).trans (trims_iff.1 hs)
  obtain rfl := hread
  rfl

theorem convert_eq_ok_iff (htarget : target ≠ .text) (hs : Trims raw.toList s) {v : Value} :
    convert (some raw) target = .ok v ↔ readValue target s = .ok v := by
  rw [convert_of_trims htarget hs]
  cases readValue target s with
  | ok w => simp only [Except.ok.injEq]
  | error reason => exact iff_of_false nofun nofun

/-- An error of a conversion has the text with the blanks around it. -/
theorem convert_eq_error_iff (htarget : target ≠ .text) (hs : Trims raw.toList s)
    {e : ConversionError} : convert (some raw) target = .error e ↔
      ∃ reason, readValue target s = .error reason ∧ e = ⟨raw, target, reason⟩ := by
  rw [convert_of_trims htarget hs]
  cases readValue target s with
  | ok w => exact iff_of_false nofun nofun
  | error reason =>
    constructor
    · rintro ⟨⟩
      exact ⟨reason, rfl, rfl⟩
    · rintro ⟨_, ⟨⟩, rfl⟩
      rfl

end

-- ════════════════════════════════════════════════════════════════════════
-- Whole numbers
-- ════════════════════════════════════════════════════════════════════════

/-- The text without the blanks around it denotes the integer. -/
def IsNumeralOf (raw : String) (n : Int) : Prop :=
  ∃ s, Trims raw.toList s ∧ Numeral s n

/-- There is no blank in an integer. -/
theorem isBlank_of_mem_toString {n : Int} {c : Char} (hc : c ∈ (toString n).toList) :
    isBlank c = false := by
  rw [toList_toString, List.mem_append] at hc
  rcases hc with hc | hc
  · split at hc
    · rw [List.mem_singleton.1 hc]
      decide
    · cases hc
  · exact isBlank_of_isDigit (isDigit_of_mem_toDigits hc)

theorem trims_toString (n : Int) : Trims (toString n).toList (toString n).toList :=
  trims_self (trims_append (List.forall_mem_nil _) (fun _ => isBlank_of_mem_toString)
    (List.forall_mem_nil _))

theorem isNumeralOf_toString (n : Int) : IsNumeralOf (toString n) n :=
  ⟨_, trims_toString n, numeral_toString n⟩

/-- A text is converted into a whole number exactly if it denotes the number, and into nothing if it
denotes no number of the width. -/
structure FromNumerals {α : Type} (target : ValueType) (value : α → Value) (toInt : α → Int) :
    Prop where
  /-- A number is converted from its numerals. -/
  ok_iff : ∀ (raw : String) (n : α),
    convert (some raw) target = .ok (value n) ↔ IsNumeralOf raw (toInt n)
  /-- All else is refused, and the error has the text as it is. -/
  refused : ∀ raw : String, (∀ n : α, ¬ IsNumeralOf raw (toInt n)) →
    ∃ reason, convert (some raw) target = .error ⟨raw, target, reason⟩

/-- Whole numbers of a width are the integers within two bounds, and are read as such. -/
structure IsWidth {α : Type} (target : ValueType) (value : α → Value) (toInt : α → Int)
    (ofInt : Int → α) (below above : Nat) : Prop where
  /-- The type is not that of texts, so that blanks do not count. -/
  target_ne_text : target ≠ .text
  /-- A text is read as an integer within the bounds. -/
  readValue_eq : ∀ s, readValue target s =
    match readInteger below above s with
    | .ok n => .ok (value (ofInt n))
    | .error e => .error e.message
  /-- Numbers that differ are different values. -/
  value_injective : Function.Injective value
  /-- A number is told by its integer. -/
  ofInt_toInt : ∀ a, ofInt (toInt a) = a
  /-- Every integer within the bounds is that of a number. -/
  toInt_ofInt : ∀ n, -(below : Int) ≤ n → n ≤ above → toInt (ofInt n) = n
  /-- The integer of a number is within the bounds. -/
  within : ∀ a, -(below : Int) ≤ toInt a ∧ toInt a ≤ above

section

variable {α : Type} {target : ValueType} {value : α → Value} {toInt : α → Int} {ofInt : Int → α}
  {below above : Nat}

theorem IsWidth.readValue_eq_ok_iff (h : IsWidth target value toInt ofInt below above)
    {s : List Char} {a : α} : readValue target s = .ok (value a) ↔ Numeral s (toInt a) := by
  rw [h.readValue_eq]
  constructor
  · intro hread
    cases hinteger : readInteger below above s with
    | error e =>
      rw [hinteger] at hread
      cases hread
    | ok n =>
      rw [hinteger] at hread
      obtain ⟨hnumeral, hbelow, habove⟩ := readInteger_eq_ok_iff.1 hinteger
      rwa [← h.value_injective (Except.ok.inj hread), h.toInt_ofInt n hbelow habove]
  · intro hnumeral
    simp only [readInteger_eq_ok_iff.2 ⟨hnumeral, h.within a⟩, h.ofInt_toInt]

theorem IsWidth.exists_readValue_eq_error (h : IsWidth target value toInt ofInt below above)
    {s : List Char} (hnone : ∀ a, ¬ Numeral s (toInt a)) :
    ∃ reason, readValue target s = .error reason := by
  rw [h.readValue_eq]
  cases hinteger : readInteger below above s with
  | error e => exact ⟨_, rfl⟩
  | ok n =>
    obtain ⟨hnumeral, hbelow, habove⟩ := readInteger_eq_ok_iff.1 hinteger
    refine absurd ?_ (hnone (ofInt n))
    rwa [h.toInt_ofInt n hbelow habove]

/-- Whole numbers of a width are converted from numerals. -/
theorem IsWidth.fromNumerals (h : IsWidth target value toInt ofInt below above) :
    FromNumerals target value toInt := by
  constructor
  · intro raw a
    constructor
    · intro hconvert
      have htrims := trims_trim raw.toList
      have hread := (convert_eq_ok_iff h.target_ne_text htrims).1 hconvert
      exact ⟨_, htrims, h.readValue_eq_ok_iff.1 hread⟩
    · rintro ⟨s, htrims, hnumeral⟩
      exact (convert_eq_ok_iff h.target_ne_text htrims).2 (h.readValue_eq_ok_iff.2 hnumeral)
  · intro raw hnone
    have htrims := trims_trim raw.toList
    obtain ⟨reason, hread⟩ :=
      h.exists_readValue_eq_error fun a hnumeral => hnone a ⟨_, htrims, hnumeral⟩
    exact ⟨reason, (convert_eq_error_iff h.target_ne_text htrims).2 ⟨reason, hread, rfl⟩⟩

end

theorem isWidth_int : IsWidth .int .int Int32.toInt Int32.ofInt 0x80000000 0x7FFFFFFF where
  target_ne_text := nofun
  readValue_eq _ := rfl
  value_injective _ _ h := Value.int.inj h
  ofInt_toInt _ := Int32.ofInt_toInt _
  toInt_ofInt _ hbelow habove := Int32.toInt_ofInt_of_le hbelow (by omega)
  within a := ⟨a.le_toInt, Int.lt_add_one_iff.1 a.toInt_lt⟩

theorem isWidth_long :
    IsWidth .long .long Int64.toInt Int64.ofInt 0x8000000000000000 0x7FFFFFFFFFFFFFFF where
  target_ne_text := nofun
  readValue_eq _ := rfl
  value_injective _ _ h := Value.long.inj h
  ofInt_toInt _ := Int64.ofInt_toInt _
  toInt_ofInt _ hbelow habove := Int64.toInt_ofInt_of_le hbelow (by omega)
  within a := ⟨a.le_toInt, Int.lt_add_one_iff.1 a.toInt_lt⟩

theorem fromNumerals_int : FromNumerals .int .int Int32.toInt :=
  isWidth_int.fromNumerals

theorem fromNumerals_long : FromNumerals .long .long Int64.toInt :=
  isWidth_long.fromNumerals

-- ════════════════════════════════════════════════════════════════════════
-- Displayed values
-- ════════════════════════════════════════════════════════════════════════

/-- The text is that of a printer for values of the type: the plain one of numbers, truth values and
dates, and for points in time those of RFC 3339, with the letter for universal time, as messages show
it, or with the offset. The plain printer of points in time is not among them. A zero with a minus
sign is left out, and so are the points in time that look like others: those whose year has a sign
and leap seconds before the end of a minute. -/
inductive Displays : Value → ValueType → String → Prop
  | int (n : Int32) : Displays (.int n) .int (toString n.toInt)
  | long (n : Int64) : Displays (.long n) .long (toString n.toInt)
  | bool (b : Bool) : Displays (.bool b) .bool (if b then "true" else "false")
  | decimal {d : Decimal} (hzero : d.mantissa = 0 → d.negative = false) :
      Displays (.decimal d) .decimal d.text
  | date (d : Date) : Displays (.date d) .date d.text
  | letter {t : Instant} (hyear : 0 ≤ t.date.year ∧ t.date.year ≤ 9999)
      (hleap : t.nanos.val < nanosPerSecond ∨ t.second.val = 59) :
      Displays (.datetime t) .datetime t.shortText
  | offset {t : Instant} (hyear : 0 ≤ t.date.year ∧ t.date.year ≤ 9999)
      (hleap : t.nanos.val < nanosPerSecond ∨ t.second.val = 59) :
      Displays (.datetime t) .datetime t.text

variable {v : Value} {target : ValueType} {shown : String}

theorem Displays.target_ne_text (h : Displays v target shown) : target ≠ .text := by
  cases h <;> exact nofun

/-- A value is read from its text. -/
theorem Displays.readValue_eq (h : Displays v target shown) :
    readValue target shown.toList = .ok v := by
  cases h with
  | int n => exact isWidth_int.readValue_eq_ok_iff.2 (numeral_toString _)
  | long n => exact isWidth_long.readValue_eq_ok_iff.2 (numeral_toString _)
  | bool b => cases b <;> rfl
  | decimal hzero => rw [readValue, Decimal.readAny, Decimal.read_text hzero]
  | date d => rw [readValue, Date.read_text]
  | letter hyear hleap =>
    rw [Instant.shortText, String.toList_ofList, readValue,
      (Instant.read_chars_eq_ok_iff (.inl rfl)).2 ⟨hyear, hleap⟩]
  | offset hyear hleap =>
    rw [Instant.text, String.toList_ofList, readValue,
      (Instant.read_chars_eq_ok_iff (.inr rfl)).2 ⟨hyear, hleap⟩]

/-- There is no blank in the text of a value. -/
theorem Displays.isBlank_eq_false (h : Displays v target shown) :
    ∀ c ∈ shown.toList, isBlank c = false := by
  cases h with
  | int n => exact fun _ => isBlank_of_mem_toString
  | long n => exact fun _ => isBlank_of_mem_toString
  | bool b => cases b <;> exact isBlank_of_all rfl
  | decimal hzero => exact fun _ => Decimal.isBlank_of_mem_text
  | date d =>
    rw [Date.text, String.toList_ofList]
    exact fun _ => Date.isBlank_of_mem_chars
  | letter hyear hleap =>
    rw [Instant.shortText, String.toList_ofList]
    exact fun _ => Instant.isBlank_of_mem_chars (.inl rfl)
  | offset hyear hleap =>
    rw [Instant.text, String.toList_ofList]
    exact fun _ => Instant.isBlank_of_mem_chars (.inr rfl)

/-- A value is converted from its text with any blanks around it. Whole numbers of either width are
converted from the texts that denote them between blanks, and from no others. -/
theorem conversion_undoes_display :
    (∀ (v : Value) (target : ValueType) (before shown after : String), Displays v target shown →
      (∀ c ∈ before.toList, isBlank c = true) → (∀ c ∈ after.toList, isBlank c = true) →
        convert (some (before ++ shown ++ after)) target = .ok v) ∧
      FromNumerals .int .int Int32.toInt ∧ FromNumerals .long .long Int64.toInt := by
  refine ⟨fun v target before shown after h hbefore hafter => ?_, fromNumerals_int,
    fromNumerals_long⟩
  have htrims := trims_append hbefore h.isBlank_eq_false hafter
  rw [← String.toList_append, ← String.toList_append] at htrims
  exact (convert_eq_ok_iff h.target_ne_text htrims).2 h.readValue_eq

/-- A number below zero with as many digits and as many places as there can be. -/
def longDecimal : Decimal where
  negative := true
  mantissa := 79228162514264337593543950335
  scale := 28
  mantissa_lt := by decide
  scale_le := by decide

/-- A leap second at the end of a leap year. -/
def leapSecond : Instant where
  date := ⟨2016, 12, 31, by decide⟩
  minute := ⟨1439, by decide⟩
  second := ⟨59, by decide⟩
  nanos := ⟨1000000001, by decide⟩

/-- Both are converted back between blanks, and a number that is too large by one is refused. -/
theorem long_decimal_and_leap_second_are_converted_back :
    Displays (.decimal longDecimal) .decimal "-7.9228162514264337593543950335" ∧
      Displays (.datetime leapSecond) .datetime "2016-12-31T23:59:60.000000001+00:00" ∧
      convert (some ("\u3000" ++ "-7.9228162514264337593543950335" ++ "\n")) .decimal =
        .ok (.decimal longDecimal) ∧
      convert (some ("" ++ "2016-12-31T23:59:60.000000001+00:00" ++ "\u2028 ")) .datetime =
        .ok (.datetime leapSecond) ∧
      ∃ reason, convert (some " +2147483648") .int = .error ⟨" +2147483648", .int, reason⟩ := by
  have hdecimal : Displays (.decimal longDecimal) .decimal "-7.9228162514264337593543950335" := by
    have htext : longDecimal.text = "-7.9228162514264337593543950335" := by decide +kernel
    exact htext ▸ .decimal (by decide)
  have hsecond : Displays (.datetime leapSecond) .datetime
      "2016-12-31T23:59:60.000000001+00:00" := by
    have htext : leapSecond.text = "2016-12-31T23:59:60.000000001+00:00" := by decide +kernel
    exact htext ▸ .offset (by decide) (by decide)
  refine ⟨hdecimal, hsecond,
    conversion_undoes_display.1 _ _ "\u3000" _ "\n" hdecimal (isBlank_of_all rfl)
      (isBlank_of_all rfl),
    conversion_undoes_display.1 _ _ "" _ "\u2028 " hsecond (isBlank_of_all rfl)
      (isBlank_of_all rfl),
    conversion_undoes_display.2.1.refused " +2147483648" ?_⟩
  rintro n ⟨s, hs, hnumeral⟩
  have hread : readInteger 0x80000000 0x7FFFFFFF s = .ok n.toInt := by
    have hbelow := n.le_toInt
    have habove := n.toInt_lt
    exact readInteger_eq_ok_iff.2 ⟨hnumeral, by omega, by omega⟩
  have herror : readInteger 0x80000000 0x7FFFFFFF (trim " +2147483648".toList) =
      .error .tooLarge := by
    rfl
  rw [← trims_iff.1 hs, herror] at hread
  cases hread

/-- The point in time as its plain printer gives it: the day, the time of day and the name of
universal time, with blanks between them. -/
def Instant.plainText (t : Instant) : String :=
  String.ofList ((t.chars.map fun c => if c = 'T' then ' ' else c) ++ " UTC".toList)

/-- Ten in the morning of a new year. -/
def newYear : Instant where
  date := ⟨2024, 1, 1, by decide⟩
  minute := ⟨600, by decide⟩
  second := ⟨0, by decide⟩
  nanos := ⟨0, by decide⟩

/-- A leap second in the middle of a minute. -/
def earlyLeapSecond : Instant where
  date := ⟨2024, 1, 1, by decide⟩
  minute := ⟨600, by decide⟩
  second := ⟨30, by decide⟩
  nanos := ⟨1500000000, by decide⟩

/-- The plain text of a point in time is not converted, and a leap second before the end of a minute
is converted from its text into another point in time. -/
theorem plain_text_and_early_leap_second_are_not_converted_back :
    newYear.plainText = "2024-01-01 10:00:00 UTC" ∧
      convert (some "2024-01-01 10:00:00 UTC") .datetime =
        .error ⟨"2024-01-01 10:00:00 UTC", .datetime, "input contains invalid characters"⟩ ∧
      convert (some earlyLeapSecond.text) .datetime ≠ .ok (.datetime earlyLeapSecond) := by
  refine ⟨by decide +kernel, by rfl, ?_⟩
  have hblank : ∀ c ∈ earlyLeapSecond.text.toList, isBlank c = false := by
    rw [Instant.text, String.toList_ofList]
    exact fun _ => Instant.isBlank_of_mem_chars (.inr rfl)
  have htrims : Trims earlyLeapSecond.text.toList earlyLeapSecond.text.toList :=
    trims_self (trims_append (List.forall_mem_nil _) hblank (List.forall_mem_nil _))
  have htarget : ValueType.datetime ≠ .text := nofun
  rw [Ne, convert_eq_ok_iff htarget htrims, readValue, Instant.text, String.toList_ofList]
  intro hread
  cases hinstant : Instant.read (earlyLeapSecond.chars ++ "+00:00".toList) with
  | error e =>
    rw [hinstant] at hread
    cases hread
  | ok t =>
    rw [hinstant] at hread
    obtain rfl : t = earlyLeapSecond := Value.datetime.inj (Except.ok.inj hread)
    have hleap := ((Instant.read_chars_eq_ok_iff (.inr rfl)).1 hinstant).2
    exact absurd hleap (by decide)

end Parley
