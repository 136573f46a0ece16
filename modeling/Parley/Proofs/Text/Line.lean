import Mathlib.Data.List.TakeWhile
import Parley.Proofs.Text.Utf8
import Parley.Text.Blank

/-!
# Lines of bytes and the text in them

Input comes as bytes. They are cut into lines, a line is text if it is the bytes of one, and what
is said on it is what stands between the blanks around it.

## Main definitions

- `Cut` — the lines of bytes
- `Trims` — a text without the blanks around it

## Main results

- `decode_eq_ok_iff` — bytes are decoded exactly if they are those of a text
- `cut_iff` — the lines of bytes are found
- `trims_iff` — blanks are trimmed
-/

namespace Parley.Text

-- ════════════════════════════════════════════════════════════════════════
-- Bytes that are text
-- ════════════════════════════════════════════════════════════════════════

theorem toNat_ofNat {n : Nat} (h : n < 0xD800 ∨ 0xDFFF < n ∧ n < 0x110000) :
    (Char.ofNat n).toNat = n := by
  have hvalid : n.isValidChar := h
  rw [Char.ofNat, dif_pos hvalid]
  rfl

theorem eq_byte {b : UInt8} {n : Nat} (h : b.toNat = n) : b = UInt8.ofNat n := by
  rw [← h, UInt8.ofNat_toNat]

/-- The bytes of the character with a given number. -/
theorem encodeChar_ofNat {n : Nat} (h : n < 0xD800 ∨ 0xDFFF < n ∧ n < 0x110000) :
    (n ≤ 0x7F → String.utf8EncodeChar (Char.ofNat n) = [UInt8.ofNat n]) ∧
      (0x7F < n → n ≤ 0x7FF → String.utf8EncodeChar (Char.ofNat n) =
        [UInt8.ofNat (n / 64 % 32 + 192), UInt8.ofNat (n % 64 + 128)]) ∧
      (0x7FF < n → n ≤ 0xFFFF → String.utf8EncodeChar (Char.ofNat n) =
        [UInt8.ofNat (n / 4096 % 16 + 224), UInt8.ofNat (n / 64 % 64 + 128),
          UInt8.ofNat (n % 64 + 128)]) ∧
      (0xFFFF < n → String.utf8EncodeChar (Char.ofNat n) =
        [UInt8.ofNat (n / 262144 % 8 + 240), UInt8.ofNat (n / 4096 % 64 + 128),
          UInt8.ofNat (n / 64 % 64 + 128), UInt8.ofNat (n % 64 + 128)]) := by
  have hcases := encodeChar_cases (Char.ofNat n)
  simp only [toNat_ofNat h] at hcases
  rcases hcases with ⟨h, hbytes⟩ | ⟨hlo, hhi, hbytes⟩ | ⟨hlo, hhi, hbytes⟩ | ⟨hlo, hbytes⟩
  · exact ⟨fun _ => hbytes, by omega, by omega, by omega⟩
  · exact ⟨by omega, fun _ _ => hbytes, by omega, by omega⟩
  · exact ⟨by omega, by omega, fun _ _ => hbytes, by omega⟩
  · exact ⟨by omega, by omega, by omega, fun _ => hbytes⟩

theorem isTail_iff {b : UInt8} : isTail b = true ↔ 0x80 ≤ b.toNat ∧ b.toNat ≤ 0xBF := by
  simp only [isTail, Bool.and_eq_true, decide_eq_true_eq, UInt8.le_iff_toNat_le,
    UInt8.reduceToNat]

theorem eq_of_head2 {a : UInt8} {bs rest : List UInt8} {c : Char} (hlo : 0xC2 ≤ a.toNat)
    (hhi : a.toNat ≤ 0xDF) (h : head2 a bs = .char c rest) :
    a :: bs = String.utf8EncodeChar c ++ rest := by
  unfold head2 at h
  split at h
  · cases h
  · next b tail =>
    split at h
    · next hb =>
      obtain ⟨rfl, rfl⟩ := Head.char.inj h
      rw [isTail_iff] at hb
      simp only [tailBits]
      rw [(encodeChar_ofNat (by omega)).2.1 (by omega) (by omega), ← eq_byte (b := a) (by omega),
        ← eq_byte (b := b) (by omega)]
      rfl
    · cases h

theorem eq_of_head3 {a lo hi : UInt8} {bs rest : List UInt8} {c : Char} (hlo : 0xE0 ≤ a.toNat)
    (hhi : a.toNat ≤ 0xEF) (hsecond : ∀ b, lo ≤ b → b ≤ hi → isTail b = true ∧
      (a.toNat = 0xE0 → 0xA0 ≤ b.toNat) ∧ (a.toNat = 0xED → b.toNat ≤ 0x9F))
    (h : head3 a lo hi bs = .char c rest) :
    a :: bs = String.utf8EncodeChar c ++ rest := by
  unfold head3 at h
  split at h
  · cases h
  · next b bs =>
    split at h
    · next hb =>
      simp only [Bool.and_eq_true, decide_eq_true_eq] at hb
      obtain ⟨htail, hleast, hmost⟩ := hsecond b hb.1 hb.2
      rw [isTail_iff] at htail
      split at h
      · cases h
      · next d tail =>
        split at h
        · next hd =>
          obtain ⟨rfl, rfl⟩ := Head.char.inj h
          rw [isTail_iff] at hd
          simp only [tailBits]
          rw [(encodeChar_ofNat (by omega)).2.2.1 (by omega) (by omega),
            ← eq_byte (b := a) (by omega), ← eq_byte (b := b) (by omega),
            ← eq_byte (b := d) (by omega)]
          rfl
        · cases h
    · cases h

theorem eq_of_head4 {a lo hi : UInt8} {bs rest : List UInt8} {c : Char} (hlo : 0xF0 ≤ a.toNat)
    (hhi : a.toNat ≤ 0xF4) (hsecond : ∀ b, lo ≤ b → b ≤ hi → isTail b = true ∧
      (a.toNat = 0xF0 → 0x90 ≤ b.toNat) ∧ (a.toNat = 0xF4 → b.toNat ≤ 0x8F))
    (h : head4 a lo hi bs = .char c rest) :
    a :: bs = String.utf8EncodeChar c ++ rest := by
  unfold head4 at h
  split at h
  · cases h
  · next b bs =>
    split at h
    · next hb =>
      simp only [Bool.and_eq_true, decide_eq_true_eq] at hb
      obtain ⟨htail, hleast, hmost⟩ := hsecond b hb.1 hb.2
      rw [isTail_iff] at htail
      split at h
      · cases h
      · next d bs =>
        split at h
        · next hd =>
          split at h
          · cases h
          · next e tail =>
            split at h
            · next he =>
              obtain ⟨rfl, rfl⟩ := Head.char.inj h
              rw [isTail_iff] at hd he
              simp only [tailBits]
              rw [(encodeChar_ofNat (by omega)).2.2.2 (by omega), ← eq_byte (b := a) (by omega),
                ← eq_byte (b := b) (by omega), ← eq_byte (b := d) (by omega),
                ← eq_byte (b := e) (by omega)]
              rfl
            · cases h
        · cases h
    · cases h

/-- Bytes that start with a character start with its bytes. -/
theorem eq_of_headOf {a : UInt8} {bs rest : List UInt8} {c : Char}
    (h : headOf a bs = .char c rest) : a :: bs = String.utf8EncodeChar c ++ rest := by
  by_cases h1 : a.toNat ≤ 0x7F
  · rw [headOf, if_pos (UInt8.le_iff_toNat_le.2 h1)] at h
    obtain ⟨rfl, rfl⟩ := Head.char.inj h
    rw [(encodeChar_ofNat (by omega)).1 h1, ← eq_byte rfl]
    rfl
  · by_cases h2 : 0xC2 ≤ a.toNat ∧ a.toNat ≤ 0xDF
    · rw [headOf_two h2.1 h2.2] at h
      exact eq_of_head2 h2.1 h2.2 h
    · by_cases h3 : 0xE0 ≤ a.toNat ∧ a.toNat ≤ 0xEF
      · rw [headOf_three h3.1 h3.2] at h
        refine eq_of_head3 h3.1 h3.2 (fun b hlo hhi => ?_) h
        rw [UInt8.le_iff_toNat_le, apply_ite UInt8.toNat] at hlo hhi
        simp only [UInt8.reduceToNat] at hlo hhi
        rw [isTail_iff]
        split at hlo <;> split at hhi <;> omega
      · by_cases h4 : 0xF0 ≤ a.toNat ∧ a.toNat ≤ 0xF4
        · rw [headOf_four h4.1 h4.2] at h
          refine eq_of_head4 h4.1 h4.2 (fun b hlo hhi => ?_) h
          rw [UInt8.le_iff_toNat_le, apply_ite UInt8.toNat] at hlo hhi
          simp only [UInt8.reduceToNat] at hlo hhi
          rw [isTail_iff]
          split at hlo <;> split at hhi <;> omega
        · have hfault : headOf a bs = .fault 1 := by
            simp only [headOf, UInt8.le_iff_toNat_le, beq_iff_eq, ← UInt8.toNat_inj,
              UInt8.reduceToNat, Bool.and_eq_true, decide_eq_true_eq]
            simp only [h1, h2, if_false]
            rw [if_neg (by omega), if_neg (by omega), if_neg (by omega), if_neg (by omega),
              if_neg (by omega), if_neg (by omega)]
          rw [hfault] at h
          cases h

theorem encode_of_decodeFrom {fuel before : Nat} {bs : List UInt8} {s : List Char}
    (h : decodeFrom fuel before bs = .ok s) : bs = encode s := by
  induction fuel generalizing before bs s with
  | zero =>
    cases bs with
    | nil =>
      cases h
      rfl
    | cons a bs => cases h
  | succ fuel ih =>
    cases bs with
    | nil =>
      cases h
      rfl
    | cons a bs =>
      rw [decodeFrom] at h
      split at h
      · next c rest hhead =>
        cases hrest : decodeFrom fuel (before + c.utf8Size) rest with
        | error e =>
          rw [hrest] at h
          cases h
        | ok t =>
          rw [hrest] at h
          cases h
          rw [encode_cons, ← ih hrest, eq_of_headOf hhead]
      · cases h
      · cases h

theorem decodeFrom_encode (s : List Char) {fuel : Nat} (before : Nat) (hfuel : s.length ≤ fuel) :
    decodeFrom fuel before (encode s) = .ok s := by
  induction s generalizing fuel before with
  | nil => cases fuel <;> rfl
  | cons c s ih =>
    obtain ⟨a, bs, hbytes, hhead⟩ := headOf_encodeChar c (encode s)
    rw [List.length_cons] at hfuel
    obtain ⟨fuel, rfl⟩ : ∃ n, fuel = n + 1 := ⟨fuel - 1, by omega⟩
    rw [encode_cons, hbytes, List.cons_append, decodeFrom, hhead]
    simp only [ih _ (show s.length ≤ fuel by omega)]
    rfl

/-- Bytes are decoded exactly if they are those of a text. -/
theorem decode_eq_ok_iff {bs : List UInt8} {s : List Char} :
    decode bs = .ok s ↔ bs = encode s := by
  constructor
  · exact encode_of_decodeFrom
  · rintro rfl
    exact decodeFrom_encode s 0 (length_le_length_encode s)

-- ════════════════════════════════════════════════════════════════════════
-- Lines
-- ════════════════════════════════════════════════════════════════════════

/-- Bytes are cut into lines at line feeds. A carriage return before the line feed belongs to
neither line; what is left after the last line feed is a line unless it is empty. -/
inductive Cut : List UInt8 → List (List UInt8) → Prop
  | nil : Cut [] []
  | last {line : List UInt8} (hne : line ≠ []) (hline : 10 ∉ line) : Cut line [line]
  | line {line rest : List UInt8} {lines : List (List UInt8)} (hline : 10 ∉ line)
      (hreturn : line.getLast? ≠ some 13) (later : Cut rest lines) :
      Cut (line ++ 10 :: rest) (line :: lines)
  | returned {line rest : List UInt8} {lines : List (List UInt8)} (hline : 10 ∉ line)
      (later : Cut rest lines) : Cut (line ++ 13 :: 10 :: rest) (line :: lines)

theorem splitLinesFrom_append {line : List UInt8} (hline : 10 ∉ line) (rest before : List UInt8) :
    splitLinesFrom (line ++ rest) before = splitLinesFrom rest (line.reverse ++ before) := by
  induction line generalizing before with
  | nil => rfl
  | cons b line ih =>
    rw [List.mem_cons, not_or] at hline
    rw [List.cons_append, splitLinesFrom, if_neg (Ne.symm hline.1), ih hline.2]
    simp

theorem closeLine_reverse {line : List UInt8} (h : line.getLast? ≠ some 13) :
    closeLine line.reverse = line := by
  unfold closeLine
  split
  · next rest hrest =>
    rw [← List.head?_reverse, hrest] at h
    exact absurd rfl h
  · exact List.reverse_reverse line

theorem splitLines_of_cut {bs : List UInt8} {lines : List (List UInt8)} (h : Cut bs lines) :
    splitLines bs = lines := by
  induction h with
  | nil => rfl
  | @last line hne hline =>
    have hfull : line.reverse.isEmpty = false := by simpa using hne
    have hsplit := splitLinesFrom_append hline [] []
    rw [List.append_nil, List.append_nil] at hsplit
    rw [splitLines, hsplit, splitLinesFrom, hfull, if_neg Bool.false_ne_true,
      List.reverse_reverse]
  | @line line rest lines hline hreturn later ih =>
    rw [splitLines, splitLinesFrom_append hline, splitLinesFrom, if_pos rfl, List.append_nil,
      closeLine_reverse hreturn, ← ih, splitLines]
  | @returned line rest lines hline later ih =>
    rw [splitLines, splitLinesFrom_append hline, splitLinesFrom, if_neg (by decide),
      splitLinesFrom, if_pos rfl, closeLine, List.append_nil, List.reverse_reverse, ← ih,
      splitLines]

theorem exists_cut (bs : List UInt8) : ∃ lines, Cut bs lines := by
  -- each line feed leaves less to be cut
  induction hlength : bs.length using Nat.strongRecOn generalizing bs with
  | ind n ih =>
    subst hlength
    by_cases hfeed : 10 ∈ bs
    · obtain ⟨line, rest, rfl, hline⟩ := List.eq_append_cons_of_mem hfeed
      obtain ⟨lines, hlines⟩ := ih rest.length (by simp; omega) rest rfl
      by_cases hreturn : line.getLast? = some 13
      · obtain ⟨init, rfl⟩ := List.getLast?_eq_some_iff.1 hreturn
        rw [List.append_assoc]
        exact ⟨_, .returned (fun h => hline (List.mem_append_left _ h)) hlines⟩
      · exact ⟨_, .line hline hreturn hlines⟩
    · rcases eq_or_ne bs [] with rfl | hne
      · exact ⟨[], .nil⟩
      · exact ⟨[bs], .last hne hfeed⟩

/-- The lines of bytes are found. -/
theorem cut_iff {bs : List UInt8} {lines : List (List UInt8)} :
    Cut bs lines ↔ splitLines bs = lines := by
  constructor
  · exact splitLines_of_cut
  · rintro rfl
    obtain ⟨lines, hlines⟩ := exists_cut bs
    rwa [splitLines_of_cut hlines]

-- ════════════════════════════════════════════════════════════════════════
-- Blanks around a text
-- ════════════════════════════════════════════════════════════════════════

/-- Letters and digits are no blanks. -/
theorem isBlank_of_isAlphanum {c : Char} (hc : c.isAlphanum) : isBlank c = false := by
  have hcode : (65 ≤ c.toNat ∧ c.toNat ≤ 90 ∨ 97 ≤ c.toNat ∧ c.toNat ≤ 122) ∨
      48 ≤ c.toNat ∧ c.toNat ≤ 57 := by
    obtain hc | hc := Bool.or_eq_true_iff.mp hc
    · obtain hc | hc := Bool.or_eq_true_iff.mp hc
      · exact .inl (.inl (of_decide_eq_true hc))
      · obtain ⟨hfirst, hlast⟩ := Bool.and_eq_true_iff.mp hc
        exact .inl (.inr ⟨of_decide_eq_true hfirst, of_decide_eq_true hlast⟩)
    · obtain ⟨hfirst, hlast⟩ := Bool.and_eq_true_iff.mp hc
      exact .inr ⟨of_decide_eq_true hfirst, of_decide_eq_true hlast⟩
  clear hc
  simp only [isBlank, Bool.or_eq_false_iff, Bool.and_eq_false_iff, decide_eq_false_iff_not,
    beq_eq_false_iff_ne]
  omega

/-- Of a text that is known, it is computed which characters are blanks. -/
theorem isBlank_of_all {s : List Char} {blank : Bool}
    (h : s.all (fun c => isBlank c == blank) = true) : ∀ c ∈ s, isBlank c = blank :=
  fun c hc => beq_iff_eq.mp (List.all_eq_true.mp h c hc)

theorem isBlank_of_isDigit {c : Char} (hc : c.isDigit = true) : isBlank c = false :=
  isBlank_of_isAlphanum (Bool.or_eq_true_iff.mpr (.inr hc))

/-- The text is what is left of `s` without the blanks before and after it. -/
structure Trims (s text : List Char) : Prop where
  /-- Nothing but blanks is left out. -/
  around : ∃ before after, s = before ++ text ++ after ∧ (∀ c ∈ before, isBlank c = true) ∧
    ∀ c ∈ after, isBlank c = true
  /-- The text starts with no blank. -/
  first : ∀ c, text.head? = some c → isBlank c = false
  /-- The text ends in no blank. -/
  last : ∀ c, text.getLast? = some c → isBlank c = false

theorem dropWhile_append {p : Char → Bool} {before s : List Char} (hbefore : ∀ c ∈ before, p c = true)
    (hs : ∀ c, s.head? = some c → p c = false) : (before ++ s).dropWhile p = s := by
  rw [List.dropWhile_append_of_pos hbefore]
  cases s with
  | nil => rfl
  | cons c s => rw [List.dropWhile_cons_of_neg (by simp [hs c rfl])]

theorem trim_of_trims {s text : List Char} (h : Trims s text) : trim s = text := by
  obtain ⟨before, after, rfl, hbefore, hafter⟩ := h.around
  have hlast : ∀ c, text.reverse.head? = some c → isBlank c = false := by
    rw [List.head?_reverse]
    exact h.last
  rw [trim, trimStart, trimEnd, List.append_assoc]
  cases text with
  | nil =>
    have hblank : ∀ c ∈ before ++ after, isBlank c = true := by
      simpa [or_imp, forall_and] using ⟨hbefore, hafter⟩
    have hnone : (before ++ after ++ []).dropWhile isBlank = [] := dropWhile_append hblank nofun
    rw [List.append_nil] at hnone
    rw [List.nil_append, hnone]
    rfl
  | cons c text =>
    have hfirst : ∀ d, (c :: text ++ after).head? = some d → isBlank d = false := h.first
    rw [dropWhile_append hbefore hfirst, List.reverse_append,
      dropWhile_append (by simpa using hafter) hlast, List.reverse_reverse]

theorem trim_eq_self {s : List Char} (hfirst : ∀ c, s.head? = some c → isBlank c = false)
    (hlast : ∀ c, s.getLast? = some c → isBlank c = false) : trim s = s :=
  trim_of_trims ⟨⟨[], [], (List.append_nil s).symm, nofun, nofun⟩, hfirst, hlast⟩

/-- A text without blanks is left between blanks. -/
theorem trims_append {before text after : List Char} (hbefore : ∀ c ∈ before, isBlank c = true)
    (htext : ∀ c ∈ text, isBlank c = false) (hafter : ∀ c ∈ after, isBlank c = true) :
    Trims (before ++ text ++ after) text :=
  ⟨⟨before, after, rfl, hbefore, hafter⟩, fun c hc => htext c (List.mem_of_head? hc),
    fun c hc => htext c (List.mem_of_getLast? hc)⟩

theorem head?_dropWhile {p : Char → Bool} {s : List Char} {c : Char}
    (h : (s.dropWhile p).head? = some c) : p c = false := by
  have hnot := List.head?_dropWhile_not p s
  rw [h] at hnot
  simpa using hnot

theorem trims_trim (s : List Char) : Trims s (trim s) := by
  have hstart : s = s.takeWhile isBlank ++ trimStart s := List.takeWhile_append_dropWhile.symm
  have hend : trimStart s = trim s ++ ((trimStart s).reverse.takeWhile isBlank).reverse := by
    rw [trim, trimEnd, ← List.reverse_append, List.takeWhile_append_dropWhile,
      List.reverse_reverse]
  refine ⟨⟨s.takeWhile isBlank, ((trimStart s).reverse.takeWhile isBlank).reverse, ?_,
    fun c hc => List.mem_takeWhile_imp hc, fun c hc => ?_⟩, fun c hc => ?_, fun c hc => ?_⟩
  · rw [List.append_assoc, ← hend]
    exact hstart
  · exact List.mem_takeWhile_imp (List.mem_reverse.1 hc)
  · have hfirst : (trimStart s).head? = some c := by
      rw [hend, List.head?_append, hc]
      rfl
    exact head?_dropWhile hfirst
  · rw [trim, trimEnd, List.getLast?_reverse] at hc
    exact head?_dropWhile hc

/-- What has been trimmed has no blanks around it. -/
theorem trims_self {s text : List Char} (h : Trims s text) : Trims text text :=
  ⟨⟨[], [], (List.append_nil _).symm, nofun, nofun⟩, h.first, h.last⟩

/-- Trimming leaves out the blanks around a text and nothing else. -/
theorem trims_iff {s text : List Char} : Trims s text ↔ trim s = text := by
  constructor
  · exact trim_of_trims
  · rintro rfl
    exact trims_trim s

end Parley.Text
