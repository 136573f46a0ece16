import Parley.Text.Utf8

/-!
# Text that travels as bytes arrives

## Main results

- `headOf_encodeChar` — the bytes of a character are read as this character
- `decodeLossy_encode` — the bytes of a text are read as this text
- `eq_ofNat_of_mem_encodeChar` — a byte below 128 stands for itself only
-/

namespace Parley.Text

theorem toNat_byte {n : Nat} (h : n < 256) : (UInt8.ofNat n).toNat = n := by
  rw [UInt8.toNat_ofNat', Nat.mod_eq_of_lt h]

theorem isTail_byte {n : Nat} (h : n < 64) : isTail (UInt8.ofNat (n + 128)) = true := by
  simp only [isTail, Bool.and_eq_true, decide_eq_true_eq, UInt8.le_iff_toNat_le]
  rw [toNat_byte (by omega)]
  simp only [UInt8.reduceToNat]
  omega

theorem tailBits_byte {n : Nat} (h : n < 64) : tailBits (UInt8.ofNat (n + 128)) = n := by
  rw [tailBits, toNat_byte (by omega)]
  omega

theorem headOf_two {a : UInt8} (hlo : 0xC2 ≤ a.toNat) (hhi : a.toNat ≤ 0xDF) (bs : List UInt8) :
    headOf a bs = head2 a bs := by
  have h1 : ¬ a ≤ 0x7F := by
    simp only [UInt8.le_iff_toNat_le, UInt8.reduceToNat]
    omega
  have h2 : 0xC2 ≤ a ∧ a ≤ 0xDF := by
    simp only [UInt8.le_iff_toNat_le, UInt8.reduceToNat]
    omega
  rw [headOf, if_neg h1, if_pos (by simpa using h2)]

theorem headOf_three {a : UInt8} (hlo : 0xE0 ≤ a.toNat) (hhi : a.toNat ≤ 0xEF) (bs : List UInt8) :
    headOf a bs = head3 a (if a.toNat = 0xE0 then 0xA0 else 0x80)
      (if a.toNat = 0xED then 0x9F else 0xBF) bs := by
  have h1 : ¬ a ≤ 0x7F := by
    simp only [UInt8.le_iff_toNat_le, UInt8.reduceToNat]
    omega
  have h2 : ¬ (0xC2 ≤ a ∧ a ≤ 0xDF) := by
    simp only [UInt8.le_iff_toNat_le, UInt8.reduceToNat]
    omega
  have h3 : 0xE1 ≤ a ∧ a ≤ 0xEF ∨ a.toNat = 0xE0 := by
    simp only [UInt8.le_iff_toNat_le, UInt8.reduceToNat]
    omega
  rw [headOf, if_neg h1, if_neg (by simpa using h2)]
  simp only [beq_iff_eq, ← UInt8.toNat_inj, UInt8.reduceToNat]
  by_cases hE0 : a.toNat = 0xE0
  · simp [hE0]
  · by_cases hED : a.toNat = 0xED
    · simp [hED]
    · have hmiddle := h3.resolve_right hE0
      simp [hE0, hED, hmiddle]

theorem headOf_four {a : UInt8} (hlo : 0xF0 ≤ a.toNat) (hhi : a.toNat ≤ 0xF4) (bs : List UInt8) :
    headOf a bs = head4 a (if a.toNat = 0xF0 then 0x90 else 0x80)
      (if a.toNat = 0xF4 then 0x8F else 0xBF) bs := by
  have h1 : ¬ a ≤ 0x7F := by
    simp only [UInt8.le_iff_toNat_le, UInt8.reduceToNat]
    omega
  have h2 : ¬ (0xC2 ≤ a ∧ a ≤ 0xDF) := by
    simp only [UInt8.le_iff_toNat_le, UInt8.reduceToNat]
    omega
  have h3 : ¬ (0xE1 ≤ a ∧ a ≤ 0xEF) := by
    simp only [UInt8.le_iff_toNat_le, UInt8.reduceToNat]
    omega
  have hE0 : a.toNat ≠ 0xE0 := by omega
  have hED : a.toNat ≠ 0xED := by omega
  rw [headOf, if_neg h1, if_neg (by simpa using h2)]
  simp only [beq_iff_eq, ← UInt8.toNat_inj, UInt8.reduceToNat]
  by_cases hF0 : a.toNat = 0xF0
  · simp [hF0, h3]
  · by_cases hF4 : a.toNat = 0xF4
    · simp [hF4, UInt8.le_iff_toNat_le]
    · have hmiddle : 0xF1 ≤ a ∧ a ≤ 0xF3 := by
        simp only [UInt8.le_iff_toNat_le, UInt8.reduceToNat]
        omega
      simp [hE0, hED, hF0, hF4, h3, hmiddle]

theorem between_byte {n : Nat} (lo hi : UInt8) (h : n < 64) (hlo : lo.toNat ≤ n + 128)
    (hhi : n + 128 ≤ hi.toNat) :
    (lo ≤ UInt8.ofNat (n + 128) && UInt8.ofNat (n + 128) ≤ hi) = true := by
  simp only [Bool.and_eq_true, decide_eq_true_eq, UInt8.le_iff_toNat_le]
  rw [toNat_byte (by omega)]
  exact ⟨hlo, hhi⟩

/-- The bytes of a character, by their number. -/
theorem encodeChar_cases (c : Char) :
    let n := c.toNat
    (n ≤ 0x7F ∧ String.utf8EncodeChar c = [UInt8.ofNat n]) ∨
      (0x7F < n ∧ n ≤ 0x7FF ∧ String.utf8EncodeChar c =
        [UInt8.ofNat (n / 64 % 32 + 192), UInt8.ofNat (n % 64 + 128)]) ∨
      (0x7FF < n ∧ n ≤ 0xFFFF ∧ String.utf8EncodeChar c =
        [UInt8.ofNat (n / 4096 % 16 + 224), UInt8.ofNat (n / 64 % 64 + 128),
          UInt8.ofNat (n % 64 + 128)]) ∨
      (0xFFFF < n ∧ String.utf8EncodeChar c =
        [UInt8.ofNat (n / 262144 % 8 + 240), UInt8.ofNat (n / 4096 % 64 + 128),
          UInt8.ofNat (n / 64 % 64 + 128), UInt8.ofNat (n % 64 + 128)]) := by
  intro n
  have hn : c.val.toNat = n := rfl
  simp only [String.utf8EncodeChar, hn]
  by_cases h1 : n ≤ 127
  · exact .inl ⟨h1, if_pos h1⟩
  · by_cases h2 : n ≤ 2047
    · exact .inr (.inl ⟨by omega, h2, by rw [if_neg h1, if_pos h2]⟩)
    · by_cases h3 : n ≤ 65535
      · exact .inr (.inr (.inl ⟨by omega, h3, by rw [if_neg h1, if_neg h2, if_pos h3]⟩))
      · exact .inr (.inr (.inr ⟨by omega, by rw [if_neg h1, if_neg h2, if_neg h3]⟩))

/-- The bytes of a character are read as this character, whatever follows. -/
theorem headOf_encodeChar (c : Char) (rest : List UInt8) :
    ∃ a bs, String.utf8EncodeChar c = a :: bs ∧ headOf a (bs ++ rest) = .char c rest := by
  have hvalid : c.toNat < 0xD800 ∨ 0xDFFF < c.toNat ∧ c.toNat < 0x110000 := c.valid
  have h0 : c.toNat % 64 < 64 := Nat.mod_lt _ (by omega)
  have h1 : c.toNat / 64 % 64 < 64 := Nat.mod_lt _ (by omega)
  have h2 : c.toNat / 4096 % 64 < 64 := Nat.mod_lt _ (by omega)
  rcases encodeChar_cases c with ⟨h, hbytes⟩ | ⟨hlo, hhi, hbytes⟩ | ⟨hlo, hhi, hbytes⟩ |
    ⟨hlo, hbytes⟩
  · refine ⟨_, _, hbytes, ?_⟩
    have hbyte := toNat_byte (n := c.toNat) (by omega)
    have hle : UInt8.ofNat c.toNat ≤ 0x7F := by
      rw [UInt8.le_iff_toNat_le, hbyte]
      exact h
    rw [headOf, if_pos hle, hbyte, Char.ofNat_toNat, List.nil_append]
  · refine ⟨_, _, hbytes, ?_⟩
    have hbyte := toNat_byte (n := c.toNat / 64 % 32 + 192) (by omega)
    have hsum : (c.toNat / 64 % 32 + 192) % 0x20 * 0x40 + c.toNat % 64 = c.toNat := by omega
    rw [headOf_two (by omega) (by omega), List.singleton_append, head2, if_pos (isTail_byte h0),
      tailBits_byte h0, hbyte, hsum, Char.ofNat_toNat]
  · refine ⟨_, _, hbytes, ?_⟩
    have hbyte := toNat_byte (n := c.toNat / 4096 % 16 + 224) (by omega)
    have hsecond := between_byte (if c.toNat / 4096 % 16 + 224 = 0xE0 then 0xA0 else 0x80)
      (if c.toNat / 4096 % 16 + 224 = 0xED then 0x9F else 0xBF) h1
      (by split <;> simp <;> omega) (by split <;> simp <;> omega)
    have hsum : (c.toNat / 4096 % 16 + 224) % 0x10 * 0x1000 + c.toNat / 64 % 64 * 0x40 +
        c.toNat % 64 = c.toNat := by omega
    rw [headOf_three (by omega) (by omega), hbyte]
    simp only [List.cons_append, List.nil_append, head3]
    rw [if_pos hsecond, if_pos (isTail_byte h0), tailBits_byte h0, tailBits_byte h1, hbyte, hsum,
      Char.ofNat_toNat]
  · refine ⟨_, _, hbytes, ?_⟩
    have hbyte := toNat_byte (n := c.toNat / 262144 % 8 + 240) (by omega)
    have hsecond := between_byte (if c.toNat / 262144 % 8 + 240 = 0xF0 then 0x90 else 0x80)
      (if c.toNat / 262144 % 8 + 240 = 0xF4 then 0x8F else 0xBF) h2
      (by split <;> simp <;> omega) (by split <;> simp <;> omega)
    have hsum : (c.toNat / 262144 % 8 + 240) % 0x8 * 0x40000 + c.toNat / 4096 % 64 * 0x1000 +
        c.toNat / 64 % 64 * 0x40 + c.toNat % 64 = c.toNat := by omega
    rw [headOf_four (by omega) (by omega), hbyte]
    simp only [List.cons_append, List.nil_append, head4]
    rw [if_pos hsecond, if_pos (isTail_byte h1), if_pos (isTail_byte h0), tailBits_byte h0,
      tailBits_byte h1, tailBits_byte h2, hbyte, hsum, Char.ofNat_toNat]

/-- A byte below 128 stands for itself only. -/
theorem eq_ofNat_of_mem_encodeChar {c : Char} {b : UInt8} (hmem : b ∈ String.utf8EncodeChar c)
    (hb : b.toNat < 128) : c = Char.ofNat b.toNat := by
  -- every byte of a character of several bytes has its highest bit set
  have hhigh : ∀ n, n < 128 → b = UInt8.ofNat (n + 128) → c = Char.ofNat b.toNat := by
    rintro n hn rfl
    rw [toNat_byte (by omega)] at hb
    omega
  rcases encodeChar_cases c with ⟨h, hbytes⟩ | ⟨-, -, hbytes⟩ | ⟨-, -, hbytes⟩ | ⟨-, hbytes⟩
  · rw [hbytes] at hmem
    obtain rfl := List.mem_singleton.1 hmem
    rw [toNat_byte (by omega), Char.ofNat_toNat]
  · simp only [hbytes, List.mem_cons, List.not_mem_nil, or_false] at hmem
    rcases hmem with h | h
    · exact hhigh (c.toNat / 64 % 32 + 64) (by omega) h
    · exact hhigh (c.toNat % 64) (by omega) h
  · simp only [hbytes, List.mem_cons, List.not_mem_nil, or_false] at hmem
    rcases hmem with h | h | h
    · exact hhigh (c.toNat / 4096 % 16 + 96) (by omega) h
    · exact hhigh (c.toNat / 64 % 64) (by omega) h
    · exact hhigh (c.toNat % 64) (by omega) h
  · simp only [hbytes, List.mem_cons, List.not_mem_nil, or_false] at hmem
    rcases hmem with h | h | h | h
    · exact hhigh (c.toNat / 262144 % 8 + 112) (by omega) h
    · exact hhigh (c.toNat / 4096 % 64) (by omega) h
    · exact hhigh (c.toNat / 64 % 64) (by omega) h
    · exact hhigh (c.toNat % 64) (by omega) h

@[simp]
theorem encode_nil : encode [] = [] :=
  rfl

@[simp]
theorem encode_cons (c : Char) (s : List Char) :
    encode (c :: s) = String.utf8EncodeChar c ++ encode s :=
  rfl

@[simp]
theorem encode_append (s t : List Char) : encode (s ++ t) = encode s ++ encode t :=
  List.flatMap_append

theorem length_le_length_encode (s : List Char) : s.length ≤ (encode s).length := by
  induction s with
  | nil => simp
  | cons c s ih =>
    obtain ⟨a, bs, hbytes, -⟩ := headOf_encodeChar c []
    simp only [encode_cons, hbytes, List.cons_append, List.length_cons, List.length_append]
    omega

theorem decodeLossyFrom_encode (s : List Char) {fuel : Nat} (hfuel : s.length ≤ fuel) :
    decodeLossyFrom fuel (encode s) = s := by
  induction s generalizing fuel with
  | nil => cases fuel <;> rfl
  | cons c s ih =>
    obtain ⟨a, bs, hbytes, hhead⟩ := headOf_encodeChar c (encode s)
    rw [List.length_cons] at hfuel
    obtain ⟨fuel, rfl⟩ : ∃ n, fuel = n + 1 := ⟨fuel - 1, by omega⟩
    rw [encode_cons, hbytes, List.cons_append, decodeLossyFrom, hhead]
    exact congrArg (c :: ·) (ih (by omega))

/-- The bytes of a text are read as this text. -/
theorem decodeLossy_encode (s : List Char) : decodeLossy (encode s) = s :=
  decodeLossyFrom_encode s (length_le_length_encode s)

end Parley.Text
