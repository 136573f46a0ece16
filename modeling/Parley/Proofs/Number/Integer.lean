import Mathlib.Data.List.Basic
import Parley.Number.Integer

/-!
# Integers that are written and read

Whatever is read as an integer is an optional sign and decimal digits, and an integer that is
written in this way is read as itself.

## Main definitions

- `Numeral` — the texts that denote an integer

## Main results

- `readNatural_eq_ok_iff`, `readInteger_eq_ok_iff` — which texts are read as a number
- `numeral_toString` — an integer is written as a numeral
-/

namespace Parley

theorem le_ofDigitChars (digits : List Char) (n : Nat) : n ≤ Nat.ofDigitChars 10 digits n := by
  induction digits generalizing n with
  | nil => simp
  | cons d digits ih =>
    rw [Nat.ofDigitChars_cons]
    have h := ih (10 * n + (d.toNat - '0'.toNat))
    omega

theorem readMagnitude_eq_ok_iff {limit : Nat} {excess : IntegerError} {digits : List Char}
    {start n : Nat} (hstart : start ≤ limit) :
    readMagnitude limit excess start digits = .ok n ↔
      (∀ d ∈ digits, d.isDigit) ∧ Nat.ofDigitChars 10 digits start = n ∧ n ≤ limit := by
  induction digits generalizing start with
  | nil =>
    simp only [readMagnitude, Except.ok.injEq, Nat.ofDigitChars_nil]
    constructor
    · rintro rfl
      exact ⟨by simp, rfl, hstart⟩
    · exact fun h => h.2.1
  | cons d digits ih =>
    rw [Nat.ofDigitChars_cons, List.forall_mem_cons]
    by_cases hd : d.isDigit = true
    · have hvalue : digitValue? d = some (d.toNat - '0'.toNat) := if_pos hd
      simp only [readMagnitude, hvalue, Nat.mul_comm start 10]
      by_cases hle : 10 * start + (d.toNat - '0'.toNat) ≤ limit
      · rw [if_pos hle, ih hle]
        simp only [hd, true_and]
      · rw [if_neg hle]
        refine ⟨nofun, ?_⟩
        -- the number can only grow with the digits that follow
        rintro ⟨-, hsum, hn⟩
        have hgrow := le_ofDigitChars digits (10 * start + (d.toNat - '0'.toNat))
        omega
    · have hvalue : digitValue? d = none := if_neg hd
      simp only [readMagnitude, hvalue]
      exact ⟨nofun, fun h => absurd h.1.1 hd⟩

theorem readDigits_eq_ok_iff {limit : Nat} {excess : IntegerError} {digits : List Char} {n : Nat} :
    readDigits limit excess digits = .ok n ↔ digits ≠ [] ∧ (∀ d ∈ digits, d.isDigit) ∧
      Nat.ofDigitChars 10 digits 0 = n ∧ n ≤ limit := by
  cases digits with
  | nil => simp [readDigits]
  | cons d digits =>
    rw [readDigits, List.isEmpty_cons, if_neg Bool.false_ne_true,
      readMagnitude_eq_ok_iff (Nat.zero_le limit)]
    simp

/-- Natural numbers are read from digits, of which there must be one, after a plus sign or none. -/
theorem readNatural_eq_ok_iff {limit : Nat} {text : List Char} {n : Nat} :
    readNatural limit text = .ok n ↔ ∃ sign digits, text = sign ++ digits ∧
      (sign = [] ∨ sign = ['+']) ∧ digits ≠ [] ∧ (∀ d ∈ digits, d.isDigit) ∧
      Nat.ofDigitChars 10 digits 0 = n ∧ n ≤ limit := by
  constructor
  · intro h
    unfold readNatural at h
    split at h
    · cases h
    · exact ⟨['+'], _, rfl, .inr rfl, readDigits_eq_ok_iff.1 h⟩
    · exact ⟨[], _, rfl, .inl rfl, readDigits_eq_ok_iff.1 h⟩
  · rintro ⟨sign, digits, rfl, rfl | rfl, hdigits⟩
    · obtain ⟨d, rest, rfl⟩ := List.exists_cons_of_ne_nil hdigits.1
      have hd : d ≠ '+' := by
        rintro rfl
        exact absurd (hdigits.2.1 '+' List.mem_cons_self) (by decide)
      have hread : readNatural limit ([] ++ d :: rest) =
          readDigits limit .tooLarge (d :: rest) := by
        unfold readNatural
        split
        · simp_all
        · simp_all
        · rfl
      rw [hread]
      exact readDigits_eq_ok_iff.2 hdigits
    · exact readDigits_eq_ok_iff.2 hdigits

/-- The text denotes the integer: at least one digit, after one sign or none. -/
inductive Numeral : List Char → Int → Prop
  | unsigned {digits : List Char} (hne : digits ≠ []) (hdigits : ∀ d ∈ digits, d.isDigit = true) :
      Numeral digits (Nat.ofDigitChars 10 digits 0)
  | plus {digits : List Char} (hne : digits ≠ []) (hdigits : ∀ d ∈ digits, d.isDigit = true) :
      Numeral ('+' :: digits) (Nat.ofDigitChars 10 digits 0)
  | minus {digits : List Char} (hne : digits ≠ []) (hdigits : ∀ d ∈ digits, d.isDigit = true) :
      Numeral ('-' :: digits) (-(Nat.ofDigitChars 10 digits 0 : Int))

/-- A numeral ends in a digit. -/
theorem Numeral.isDigit_getLast {s : List Char} {n : Int} (h : Numeral s n) :
    ∃ c, s.getLast? = some c ∧ c.isDigit = true := by
  have hlast (sign : List Char) {digits : List Char} (hne : digits ≠ [])
      (hdigits : ∀ d ∈ digits, d.isDigit = true) :
      ∃ c, (sign ++ digits).getLast? = some c ∧ c.isDigit = true := by
    refine ⟨digits.getLast hne, ?_, hdigits _ (List.getLast_mem hne)⟩
    rw [List.getLast?_append, List.getLast?_eq_some_getLast hne]
    rfl
  cases h with
  | unsigned hne hdigits => exact hlast [] hne hdigits
  | plus hne hdigits => exact hlast ['+'] hne hdigits
  | minus hne hdigits => exact hlast ['-'] hne hdigits

/-- Without a sign, an integer is read from digits. -/
theorem readInteger_of_isDigit {below above : Nat} {c : Char} {s : List Char}
    (hc : c.isDigit = true) :
    readInteger below above (c :: s) =
      (readDigits above .tooLarge (c :: s)).map fun n => (n : Int) := by
  unfold readInteger
  split
  · next h => cases h
  · next h =>
    cases h
    cases hc
  · next h =>
    cases h
    cases hc
  · rfl

theorem map_readDigits_eq_ok_iff {limit : Nat} {excess : IntegerError} {digits : List Char}
    {f : Int → Int} {n : Int} :
    (do let m ← readDigits limit excess digits; pure (m : Int)).map f = .ok n ↔ digits ≠ [] ∧
      (∀ d ∈ digits, d.isDigit = true) ∧ f (Nat.ofDigitChars 10 digits 0) = n ∧
      Nat.ofDigitChars 10 digits 0 ≤ limit := by
  cases hread : readDigits limit excess digits with
  | error e =>
    refine iff_of_false nofun fun ⟨hne, hdigits, _, hlimit⟩ => ?_
    rw [readDigits_eq_ok_iff.2 ⟨hne, hdigits, rfl, hlimit⟩] at hread
    cases hread
  | ok m =>
    obtain ⟨hne, hdigits, rfl, hlimit⟩ := readDigits_eq_ok_iff.1 hread
    constructor
    · intro h
      exact ⟨hne, hdigits, Except.ok.inj h, hlimit⟩
    · rintro ⟨-, -, rfl, -⟩
      rfl

/-- Integers are read from numerals, if they are within bounds. -/
theorem readInteger_eq_ok_iff {below above : Nat} {s : List Char} {n : Int} :
    readInteger below above s = .ok n ↔ Numeral s n ∧ -(below : Int) ≤ n ∧ n ≤ above := by
  constructor
  · intro h
    unfold readInteger at h
    split at h
    · cases h
    · obtain ⟨hne, hdigits, rfl, hlimit⟩ := map_readDigits_eq_ok_iff.1 h
      exact ⟨.minus hne hdigits, by omega, by omega⟩
    · obtain ⟨hne, hdigits, rfl, hlimit⟩ := map_readDigits_eq_ok_iff.1 h
      exact ⟨.plus hne hdigits, by omega, by omega⟩
    · obtain ⟨hne, hdigits, rfl, hlimit⟩ := map_readDigits_eq_ok_iff.1 h
      exact ⟨.unsigned hne hdigits, by omega, by omega⟩
  · rintro ⟨hnumeral, hbelow, habove⟩
    cases hnumeral with
    | @unsigned digits hne hdigits =>
      obtain ⟨d, rest, rfl⟩ := List.exists_cons_of_ne_nil hne
      rw [readInteger_of_isDigit (hdigits d List.mem_cons_self)]
      refine map_readDigits_eq_ok_iff.2 ⟨hne, hdigits, rfl, ?_⟩
      omega
    | plus hne hdigits =>
      refine map_readDigits_eq_ok_iff.2 ⟨hne, hdigits, rfl, ?_⟩
      omega
    | minus hne hdigits =>
      refine map_readDigits_eq_ok_iff.2 ⟨hne, hdigits, rfl, ?_⟩
      omega

/-- An integer is written as the digits of its magnitude, after a minus sign if it is negative. -/
theorem toList_toString (n : Int) :
    (toString n).toList = (if n < 0 then ['-'] else []) ++ Nat.toDigits 10 n.natAbs := by
  rw [Int.toString_eq_repr, Int.repr_eq_if]
  by_cases hn : n < 0
  · rw [if_pos hn, if_neg (by omega), String.toList_append, Nat.toList_repr,
      show (-n).toNat = n.natAbs by omega]
    rfl
  · rw [if_neg hn, if_pos (by omega), Nat.toList_repr, show n.toNat = n.natAbs by omega]
    rfl

theorem isDigit_of_mem_toDigits {n : Nat} {c : Char} (hc : c ∈ Nat.toDigits 10 n) :
    c.isDigit = true :=
  Nat.isDigit_of_mem_toDigits (b := 10) (by decide) (by decide) hc

/-- An integer is written as a numeral. -/
theorem numeral_toString (n : Int) : Numeral (toString n).toList n := by
  have hdigits : ∀ d ∈ Nat.toDigits 10 n.natAbs, d.isDigit = true :=
    fun _ => isDigit_of_mem_toDigits
  have hvalue : Nat.ofDigitChars 10 (Nat.toDigits 10 n.natAbs) 0 = n.natAbs :=
    Nat.ofDigitChars_ten_toDigits
  rw [toList_toString]
  by_cases hn : n < 0
  · have hnumeral := Numeral.minus Nat.toDigits_ne_nil hdigits
    rw [hvalue, show -(n.natAbs : Int) = n by omega] at hnumeral
    rwa [if_pos hn]
  · have hnumeral := Numeral.unsigned Nat.toDigits_ne_nil hdigits
    rw [hvalue, Int.natAbs_of_nonneg (by omega)] at hnumeral
    rwa [if_neg hn]

end Parley
