import Mathlib.Data.List.Nodup
import Parley.Json.Quote
import Parley.Json.Reader

/-!
# What is written is read back

A text that is written as a JSON string is read back whatever its characters are, and so are the
members of an object that are asked for. The others are passed over.

## Main results

- `readStringFrom_quote`, `skipStringFrom_quote` — a written text, up to the quote that closes it
- `readString_quote`, `skipValue_quote` — a written string, followed by anything
- `readObject_members` — a written object
-/

namespace Parley.Json

theorem hexValue?_hexDigit {n : Nat} (h : n < 16) : hexValue? (hexDigit n) = some n := by
  have hall : ∀ k < 16, hexValue? (hexDigit k) = some k := by decide
  exact hall n h

/-- The four digits that a control character is written with give its number. -/
theorem readHex4_control {n : Nat} (h : n < 0x20) (s : List Char) :
    readHex4 ('0' :: '0' :: hexDigit (n / 16) :: hexDigit (n % 16) :: s) = some (n, s) := by
  have hzero : hexValue? '0' = some 0 := rfl
  have hhigh : hexValue? (hexDigit (n / 16)) = _ := hexValue?_hexDigit (by omega)
  have hlow : hexValue? (hexDigit (n % 16)) = _ := hexValue?_hexDigit (by omega)
  have hnumber : ((0 * 16 + 0) * 16 + n / 16) * 16 + n % 16 = n := by omega
  simp only [readHex4, hzero, hhigh, hlow, Option.bind_eq_bind, Option.bind_some, hnumber]
  rfl

/-- A character is written as a letter after a backslash, as a number, or as it is. -/
theorem quoteChar_cases (c : Char) :
    (∃ e, quoteChar c = ['\\', e] ∧ e ≠ 'u' ∧ letterEscape? e = some c) ∨
      (c.toNat < 0x20 ∧ quoteChar c =
        ['\\', 'u', '0', '0', hexDigit (c.toNat / 16), hexDigit (c.toNat % 16)]) ∨
      (c ≠ '"' ∧ c ≠ '\\' ∧ ¬ c.toNat < 0x20 ∧ quoteChar c = [c]) := by
  rw [quoteChar]
  split
  · next h => exact .inl ⟨'"', rfl, by decide, by rw [h]; rfl⟩
  split
  · next h => exact .inl ⟨'\\', rfl, by decide, by rw [h]; rfl⟩
  split
  · next h => exact .inl ⟨'b', rfl, by decide, by rw [h]; rfl⟩
  split
  · next h => exact .inl ⟨'f', rfl, by decide, by rw [h]; rfl⟩
  split
  · next h => exact .inl ⟨'n', rfl, by decide, by rw [h]; rfl⟩
  split
  · next h => exact .inl ⟨'r', rfl, by decide, by rw [h]; rfl⟩
  split
  · next h => exact .inl ⟨'t', rfl, by decide, by rw [h]; rfl⟩
  split
  · next h => exact .inr (.inl ⟨h, rfl⟩)
  · next hquote hback _ _ _ _ _ hcontrol => exact .inr (.inr ⟨hquote, hback, hcontrol, rfl⟩)

/-- A written character is read back. -/
theorem readStringFrom_quoteChar (c : Char) (fuel : Nat) (s : List Char) :
    readStringFrom (fuel + 1) (quoteChar c ++ s) =
      (readStringFrom fuel s).map fun (cs, rest) => (c :: cs, rest) := by
  rcases quoteChar_cases c with ⟨e, hwritten, hu, hletter⟩ | ⟨hcontrol, hwritten⟩ |
    ⟨hmark, hback, hcontrol, hwritten⟩
  · rw [hwritten, List.cons_append, List.cons_append, List.nil_append,
      readStringFrom.eq_5 _ _ _ (by simpa using hu), hletter]
    cases readStringFrom fuel s <;> rfl
  · have hunit : readUnit c.toNat s = some (c, s) := by
      unfold readUnit
      rw [if_neg (by omega), if_neg (by omega), Char.ofNat_toNat]
    simp only [hwritten, List.cons_append, List.nil_append, readStringFrom,
      readHex4_control hcontrol, Option.bind_eq_bind, Option.bind_some, hunit]
    cases readStringFrom fuel s <;> rfl
  · have hplain : ¬ (c = '\\' ∨ c.toNat < 0x20) := not_or.2 ⟨hback, hcontrol⟩
    rw [hwritten, List.singleton_append, readStringFrom, if_neg hplain]
    · cases readStringFrom fuel s <;> rfl
    · exact hmark
    · exact fun _ h _ => hback h
    · exact fun _ _ h _ => hback h

/-- A written character is passed over. -/
theorem skipStringFrom_quoteChar (c : Char) (fuel : Nat) (s : List Char) :
    skipStringFrom (fuel + 1) (quoteChar c ++ s) = skipStringFrom fuel s := by
  rcases quoteChar_cases c with ⟨e, hwritten, hu, hletter⟩ | ⟨hcontrol, hwritten⟩ |
    ⟨hmark, hback, hcontrol, hwritten⟩
  · rw [hwritten, List.cons_append, List.cons_append, List.nil_append,
      skipStringFrom.eq_5 _ _ _ (by simpa using hu), hletter]
    rfl
  · simp only [hwritten, List.cons_append, List.nil_append, skipStringFrom,
      readHex4_control hcontrol, Option.bind_eq_bind, Option.bind_some]
  · have hplain : ¬ (c = '\\' ∨ c.toNat < 0x20) := not_or.2 ⟨hback, hcontrol⟩
    rw [hwritten, List.singleton_append, skipStringFrom, if_neg hplain]
    · exact hmark
    · exact fun _ h _ => hback h
    · exact fun _ _ h _ => hback h

/-- A written text is read back up to the quote that closes it. -/
theorem readStringFrom_quote (cs rest : List Char) {fuel : Nat} (h : cs.length < fuel) :
    readStringFrom fuel (cs.flatMap quoteChar ++ '"' :: rest) = some (cs, rest) := by
  induction cs generalizing fuel with
  | nil =>
    obtain ⟨fuel, rfl⟩ := Nat.exists_eq_succ_of_ne_zero (Nat.ne_zero_of_lt h)
    rfl
  | cons c cs ih =>
    obtain ⟨fuel, rfl⟩ := Nat.exists_eq_succ_of_ne_zero (Nat.ne_zero_of_lt h)
    rw [List.flatMap_cons, List.append_assoc, readStringFrom_quoteChar,
      ih (Nat.lt_of_succ_lt_succ h)]
    rfl

/-- A written text is passed over up to the quote that closes it. -/
theorem skipStringFrom_quote (cs rest : List Char) {fuel : Nat} (h : cs.length < fuel) :
    skipStringFrom fuel (cs.flatMap quoteChar ++ '"' :: rest) = some rest := by
  induction cs generalizing fuel with
  | nil =>
    obtain ⟨fuel, rfl⟩ := Nat.exists_eq_succ_of_ne_zero (Nat.ne_zero_of_lt h)
    rfl
  | cons c cs ih =>
    obtain ⟨fuel, rfl⟩ := Nat.exists_eq_succ_of_ne_zero (Nat.ne_zero_of_lt h)
    rw [List.flatMap_cons, List.append_assoc, skipStringFrom_quoteChar,
      ih (Nat.lt_of_succ_lt_succ h)]

theorem quoteChar_ne_nil (c : Char) : quoteChar c ≠ [] := by
  rcases quoteChar_cases c with ⟨e, hwritten, -⟩ | ⟨-, hwritten⟩ | ⟨-, -, -, hwritten⟩ <;>
    simp [hwritten]

/-- No character is lost in writing. -/
theorem length_le_length_quote (cs : List Char) : cs.length ≤ (cs.flatMap quoteChar).length := by
  induction cs with
  | nil => exact Nat.le_refl 0
  | cons c cs ih =>
    have hc := List.length_pos_iff.2 (quoteChar_ne_nil c)
    rw [List.flatMap_cons, List.length_append, List.length_cons]
    omega

theorem quote_append (s rest : List Char) :
    quote s ++ rest = '"' :: (s.flatMap quoteChar ++ '"' :: rest) := by
  simp [quote]

theorem skipBlanks_cons {c : Char} (h : isBlank c = false) (s : List Char) :
    skipBlanks (c :: s) = c :: s := by
  rw [skipBlanks, List.dropWhile_cons_of_neg (by simp [h])]

theorem readString_quote (s : String) (rest : List Char) :
    readString (quote s.toList ++ rest) = some (s, rest) := by
  have hlength := length_le_length_quote s.toList
  rw [quote_append, readString, skipBlanks_cons rfl]
  simp only
  rw [readStringFrom_quote _ _ (by simp only [List.length_append, List.length_cons]; omega),
    Option.map_some, String.ofList_toList]

/-- A value that is a string is passed over as one. -/
theorem skipValue_of_string {s rest : List Char} (h : skipStringFrom s.length s = some rest) :
    skipValue ('"' :: s) = some rest := by
  have hfuel : 2 * ('"' :: s).length + 2 = 2 * s.length + 2 + 1 + 1 := by
    rw [List.length_cons]
    omega
  have hclose : skipFrom (2 * s.length + 2 + 1) .close [] rest = some rest := by
    rw [skipFrom]
  have hvalue : skipFrom (2 * s.length + 2 + 1 + 1) .value [] ('"' :: s) =
      skipFrom (2 * s.length + 2 + 1) .close [] rest := by
    unfold skipFrom
    rw [skipBlanks_cons rfl]
    simp only [h, Option.bind_eq_bind, Option.bind_some]
    rfl
  rw [skipValue, hfuel, hvalue, hclose]

theorem skipValue_quote (s rest : List Char) : skipValue (quote s ++ rest) = some rest := by
  have hlength := length_le_length_quote s
  rw [quote_append]
  refine skipValue_of_string (skipStringFrom_quote s rest ?_)
  simp only [List.length_append, List.length_cons]
  omega

/-- What follows a member: the other members, or the end of the object. -/
def afterMember (ms : List (String × String)) (rest : List Char) : List Char :=
  match ms with
  | [] => '}' :: rest
  | m :: ms => ',' :: (members (m :: ms) ++ '}' :: rest)

theorem members_append (k v : String) (ms : List (String × String)) (rest : List Char) :
    members ((k, v) :: ms) ++ '}' :: rest =
      quote k.toList ++ ':' :: (quote v.toList ++ afterMember ms rest) := by
  cases ms <;> simp [members, afterMember]

/-- One member is read, and then what follows it. -/
theorem readMembers_cons {wanted : List String} {k v : String} {ms found : List (String × String)}
    (hnew : found.lookup k = none) (fuel : Nat) (rest : List Char) :
    readMembers wanted (fuel + 1) found (members ((k, v) :: ms) ++ '}' :: rest) =
      let found' := if wanted.contains k then (k, v) :: found else found
      match ms with
      | [] => some (found', rest)
      | m :: ms => readMembers wanted fuel found' (members (m :: ms) ++ '}' :: rest) := by
  rw [members_append, readMembers, readString_quote]
  simp only [Option.bind_eq_bind, Option.bind_some]
  rw [skipBlanks_cons rfl]
  simp only
  by_cases hk : wanted.contains k = true
  · simp only [hk, if_true, hnew, readString_quote, Option.map_some]
    cases ms <;> rfl
  · simp only [hk]
    rw [skipValue_quote]
    cases ms <;> rfl

/-- Written members are read one after the other; the ones that are not asked for are left out. -/
theorem readMembers_members {wanted : List String} {m : String × String}
    {ms found : List (String × String)} (hnodup : ((m :: ms).map Prod.fst).Nodup)
    (hnew : ∀ e ∈ m :: ms, found.lookup e.1 = none) {fuel : Nat} (hfuel : ms.length < fuel)
    (rest : List Char) :
    readMembers wanted fuel found (members (m :: ms) ++ '}' :: rest) =
      some (((m :: ms).filter fun e => wanted.contains e.1).reverse ++ found, rest) := by
  induction ms generalizing m found fuel with
  | nil =>
    obtain ⟨fuel, rfl⟩ := Nat.exists_eq_succ_of_ne_zero (Nat.ne_zero_of_lt hfuel)
    rw [readMembers_cons (hnew m List.mem_cons_self), List.filter_cons]
    by_cases hwanted : wanted.contains m.1 = true
    · rw [if_pos hwanted, if_pos hwanted]
      rfl
    · rw [if_neg hwanted, if_neg hwanted]
      rfl
  | cons m' ms ih =>
    obtain ⟨fuel, rfl⟩ := Nat.exists_eq_succ_of_ne_zero (Nat.ne_zero_of_lt hfuel)
    obtain ⟨hm, hnodup⟩ := List.nodup_cons.1 hnodup
    rw [readMembers_cons (hnew m List.mem_cons_self)]
    simp only
    rw [ih hnodup ?_ (Nat.lt_of_succ_lt_succ hfuel)]
    · rw [List.filter_cons (x := m)]
      by_cases hwanted : wanted.contains m.1 = true
      · rw [if_pos hwanted, if_pos hwanted, List.reverse_cons, List.append_assoc]
        rfl
      · rw [if_neg hwanted, if_neg hwanted]
    · intro e he
      have hold := hnew e (List.mem_cons_of_mem m he)
      split
      · have hne : e.1 ≠ m.1 := fun h => hm (h ▸ List.mem_map_of_mem he)
        rw [List.lookup_cons, beq_eq_false_iff_ne.2 hne]
        exact hold
      · exact hold

theorem length_le_length_members (ms : List (String × String)) :
    ms.length ≤ (members ms).length := by
  induction ms with
  | nil => exact Nat.le_refl 0
  | cons m ms ih =>
    cases ms with
    | nil =>
      simp only [members, List.length_append, List.length_cons, List.length_nil]
      omega
    | cons m' ms =>
      simp only [members, List.length_cons, List.length_append] at ih ⊢
      omega

/-- A written object gives the members that are asked for, the last one first. -/
theorem readObject_members {wanted : List String} {ms : List (String × String)}
    (hnodup : (ms.map Prod.fst).Nodup) (rest : List Char) :
    readObject wanted (members ms ++ '}' :: rest) =
      some ((ms.filter fun e => wanted.contains e.1).reverse, rest) := by
  cases ms with
  | nil => rfl
  | cons m ms =>
    obtain ⟨s, hs⟩ : ∃ s, members (m :: ms) ++ '}' :: rest = '"' :: s :=
      ⟨_, by rw [members_append, quote_append]⟩
    have hlength := length_le_length_members (m :: ms)
    have hfuel : ms.length < ('"' :: s).length := by
      rw [← hs, List.length_append, List.length_cons]
      rw [List.length_cons] at hlength
      omega
    have hread : readMembers wanted _ [] (members (m :: ms) ++ '}' :: rest) = _ :=
      readMembers_members hnodup (fun _ _ => rfl) hfuel rest
    rw [hs] at hread ⊢
    rw [readObject, skipBlanks_cons rfl]
    exact hread.trans (by rw [List.append_nil])

end Parley.Json
