import Parley.Proofs.Template.RoundTrip

/-!
# The values of the placeholders

The groups of a match are given to the placeholders in order. If the pattern has further groups, of
constraints or of literals, some groups are passed over: those that took no part in the match, and
those with an empty text as long as more than one group follows. A placeholder has the value of its
own group exactly if these are the further groups. They need not be: a further group may take part in
the match, and an own group may have an empty text.

## Main definitions

- `Template.isTaken`, `Template.takenGroups` — the groups that are not passed over
- `Template.Aligned` — exactly the further groups are passed over

## Main results

- `Template.captures_ofGroups` — the placeholders are given the taken groups in order
- `Template.own_prefix_takenGroups_iff` — they are given their own groups if the match is aligned
- `Template.aligned_of_count` — a match is aligned if there are no further groups
- `Template.values_of_own_groups` — what an aligned match reports
- `Template.empty_or_nested_groups_mislead` — matches that are not aligned
-/

namespace Parley

open Regex Frames

/-- A match has a text or none for each of the groups, and for the whole. -/
theorem Regex.length_of_search {r : Regex} {s : List Char} {groups : List (Option (List Char))}
    (h : r.search s = some groups) : groups.length = r.lastGroup + 1 := by
  obtain ⟨slots, -, rfl⟩ := Option.map_eq_some_iff.mp h
  rw [List.length_map, List.length_range]

namespace Template

-- ════════════════════════════════════════════════════════════════════════
-- The groups that are given to placeholders
-- ════════════════════════════════════════════════════════════════════════

/-- The text of a group, empty if the group took no part in the match. -/
def textOf (groups : List (Option (List Char))) (g : Nat) : List Char :=
  (groups[g]?.join).getD []

/-- Whether a group of a match is given to a placeholder and not passed over: all are, unless the
pattern has groups besides those of the placeholders; then the group has a text, and the text is
not empty if more than one group follows. -/
def isTaken (ambiguous : Bool) (groups : List (Option (List Char))) (g : Nat) : Bool :=
  !ambiguous ||
    match groups[g]?.join with
    | none => false
    | some text => !text.isEmpty || groups.length < g + 3

/-- Where there is one group for each of `n` names, and one for the remainder, all are taken. -/
theorem isTaken_of_count {n : Nat} {groups : List (Option (List Char))}
    (hcount : groups.length = n + 2) (g : Nat) : isTaken (n + 2 < groups.length) groups g := by
  rw [hcount, decide_eq_false (Nat.lt_irrefl _)]
  rfl

/-- The groups of a match that are not passed over, in order; the whole match is none of them. -/
def takenGroups (names : List String) (groups : List (Option (List Char))) : List Nat :=
  (List.range' 1 (groups.length - 1)).filter (isTaken (names.length + 2 < groups.length) groups)

section Assign

variable {ambiguous : Bool} {names : List String} {groups : List (Option (List Char))}

@[simp]
theorem assign_nil_right : assign ambiguous names [] = [] := by
  induction names with
  | nil => rfl
  | cons name names ih => simp [assign, nextGroup, ih]

/-- The next group is taken or passed over. -/
theorem assign_drop {g : Nat} (hg : g < groups.length) (name : String) :
    assign ambiguous (name :: names) (groups.drop g) =
      if isTaken ambiguous groups g then
        (name, String.ofList (textOf groups g)) :: assign ambiguous names (groups.drop (g + 1))
      else assign ambiguous (name :: names) (groups.drop (g + 1)) := by
  have hget : groups[g]?.join = groups[g] := by
    rw [List.getElem?_eq_getElem hg, Option.join_some]
  rw [List.drop_eq_getElem_cons hg, isTaken, textOf, hget]
  cases groups[g] with
  | none => cases ambiguous <;> simp [assign, nextGroup]
  | some text =>
    have hskip : text = [] ∧ 2 ≤ groups.length - (g + 1) ↔
        ¬(¬text = [] ∨ groups.length < g + 3) := by
      rw [not_or, not_not]
      exact and_congr_right' (by omega)
    cases ambiguous with
    | false => simp [assign, nextGroup]
    | true =>
      by_cases h : ¬text = [] ∨ groups.length < g + 3
      · simp [assign, nextGroup, hskip, h]
      · simp [assign, nextGroup, hskip, h]

/-- The placeholders are given the taken groups in order. -/
theorem assign_drop_eq {g n : Nat} (hn : groups.length = g + n) :
    assign ambiguous names (groups.drop g) =
      names.zip (((List.range' g n).filter (isTaken ambiguous groups)).map fun g =>
        String.ofList (textOf groups g)) := by
  induction n generalizing g names with
  | zero =>
    rw [List.drop_eq_nil_of_le (show groups.length ≤ g by omega), assign_nil_right]
    exact List.zip_nil_right.symm
  | succ n ih =>
    cases names with
    | nil => rfl
    | cons name names =>
      rw [assign_drop (by omega), List.range'_succ, List.filter_cons, ih (by omega), ih (by omega)]
      split <;> rfl

/-- What a match reports: the placeholders are given the taken groups in order. -/
theorem captures_ofGroups (names : List String) (hgroups : groups ≠ []) :
    (ofGroups names groups).captures =
      names.zip ((takenGroups names groups).map fun g => String.ofList (textOf groups g)) := by
  have hlength : groups.length = 1 + (groups.length - 1) := by
    have := List.length_pos_of_ne_nil hgroups
    omega
  have hambiguous : (names.length + 1 < (groups.drop 1).length) =
      (names.length + 2 < groups.length) := by
    rw [List.length_drop, eq_iff_iff]
    omega
  rw [takenGroups, ← assign_drop_eq hlength]
  simp only [ofGroups, hambiguous]

end Assign

/-- The taken groups are numbered in order. -/
theorem pairwise_takenGroups (names : List String) (groups : List (Option (List Char))) :
    (takenGroups names groups).Pairwise (· < ·) :=
  (List.pairwise_lt_range' ..).filter _

-- ════════════════════════════════════════════════════════════════════════
-- Own groups that are taken
-- ════════════════════════════════════════════════════════════════════════

variable {own : List Nat}

/-- Exactly the further groups are passed over: all own groups are taken, and so is no other
group before the last of them. -/
structure Aligned (own : List Nat) (groups : List (Option (List Char))) : Prop where
  /-- Every own group is one of the match, and it is not passed over. -/
  taken : ∀ g ∈ own, 0 < g ∧ g < groups.length ∧
    isTaken (own.length + 2 < groups.length) groups g
  /-- A group before an own one that is not passed over is an own one, too. -/
  passed : ∀ g, 0 < g → isTaken (own.length + 2 < groups.length) groups g →
    ∀ g' ∈ own, g < g' → g ∈ own

/-- Of two lists in order, one is the beginning of the other if it has the elements of the other up
to some place. -/
theorem prefix_iff_of_pairwise {xs ys : List Nat} (hxs : xs.Pairwise (· < ·))
    (hys : ys.Pairwise (· < ·)) :
    xs <+: ys ↔ (∀ x ∈ xs, x ∈ ys) ∧ ∀ y ∈ ys, ∀ x ∈ xs, y < x → y ∈ xs := by
  constructor
  · rintro ⟨zs, rfl⟩
    obtain ⟨-, -, hlt⟩ := List.pairwise_append.mp hys
    refine ⟨fun x hx => List.mem_append_left _ hx, fun y hy x hx hyx => ?_⟩
    rcases List.mem_append.mp hy with hy | hy
    · exact hy
    · have := hlt x hx y hy
      omega
  · rintro ⟨hsub, hdown⟩
    induction xs generalizing ys with
    | nil => exact List.nil_prefix
    | cons x xs ih =>
      obtain ⟨hx, hxs⟩ := List.pairwise_cons.mp hxs
      cases ys with
      | nil => cases hsub x (.head _)
      | cons y ys =>
        obtain ⟨hy, hordered⟩ := List.pairwise_cons.mp hys
        obtain rfl : x = y := by
          rcases List.mem_cons.mp (hsub x (.head _)) with heq | hmem
          · exact heq
          · have hlt := hy x hmem
            rcases List.mem_cons.mp (hdown y (.head _) x (.head _) hlt) with heq | hmem
            · exact heq.symm
            · have := hx y hmem
              omega
        refine List.cons_prefix_cons.mpr
          ⟨rfl, ih hxs hordered (fun z hz => ?_) fun z hz w hw hzw => ?_⟩
        · have := hx z hz
          exact List.mem_of_ne_of_mem (by omega) (hsub z (.tail _ hz))
        · have := hy z hz
          exact List.mem_of_ne_of_mem (by omega) (hdown z (.tail _ hz) w (.tail _ hw) hzw)

/-- The placeholders are given their own groups exactly if exactly the further groups are passed
over. -/
theorem own_prefix_takenGroups_iff {names : List String} {groups : List (Option (List Char))}
    (hown : own.Pairwise (· < ·)) (hlength : own.length = names.length) :
    own <+: takenGroups names groups ↔ Aligned own groups := by
  have hmem : ∀ g, g ∈ takenGroups names groups ↔
      0 < g ∧ g < groups.length ∧ isTaken (own.length + 2 < groups.length) groups g := by
    intro g
    rw [takenGroups, List.mem_filter, List.mem_range'_1, hlength, ← and_assoc]
    exact and_congr_left' (by omega)
  rw [prefix_iff_of_pairwise hown (pairwise_takenGroups names groups)]
  constructor
  · rintro ⟨htaken, hpassed⟩
    refine ⟨fun g hg => (hmem g).mp (htaken g hg), fun g hpos hg g' hg' hlt => ?_⟩
    obtain ⟨-, hlast, -⟩ := (hmem g').mp (htaken g' hg')
    exact hpassed g ((hmem g).mpr ⟨hpos, hlt.trans hlast, hg⟩) g' hg' hlt
  · rintro ⟨htaken, hpassed⟩
    refine ⟨fun g hg => (hmem g).mpr (htaken g hg), fun g hg g' hg' hlt => ?_⟩
    obtain ⟨hpos, -, hg⟩ := (hmem g).mp hg
    exact hpassed g hpos hg g' hg' hlt

/-- If exactly the further groups are passed over, then a match reports the texts of the own groups. -/
theorem captures_of_aligned {names : List String} {groups : List (Option (List Char))}
    (hgroups : groups ≠ []) (hown : own.Pairwise (· < ·)) (hlength : own.length = names.length)
    (haligned : Aligned own groups) :
    (ofGroups names groups).captures =
      names.zip ((own.map (textOf groups)).map String.ofList) := by
  obtain ⟨others, hothers⟩ := (own_prefix_takenGroups_iff hown hlength).mpr haligned
  have hcount : names.length = ((own.map (textOf groups)).map String.ofList).length := by
    rw [List.length_map, List.length_map, hlength]
  rw [captures_ofGroups names hgroups, ← hothers, List.map_append]
  calc names.zip _ = (names ++ []).zip ((own.map (textOf groups)).map String.ofList ++
        others.map fun g => String.ofList (textOf groups g)) := by
        rw [List.append_nil, List.map_map]
        rfl
    _ = _ := (List.zip_append hcount).trans (List.append_nil _)

-- ════════════════════════════════════════════════════════════════════════
-- Patterns without further groups
-- ════════════════════════════════════════════════════════════════════════

/-- The remainder of sound chunks is the last group. -/
theorem lastGroup_ownTrees {chunks : List Chunk} (hsound : ∀ c ∈ chunks, c.Sound) (index : Nat) :
    (cats (Chunk.ownTrees index chunks ++
      [remainderTree (index + Chunk.groupCount chunks)])).lastGroup =
        index + Chunk.groupCount chunks := by
  induction chunks generalizing index with
  | nil => exact Nat.max_zero _
  | cons c rest ih =>
    have hsounds := fun d hd => hsound d (List.mem_cons_of_mem c hd)
    cases c with
    | literal text =>
      rw [Chunk.ownTrees, List.append_assoc, lastGroup_cats_chars]
      exact ih hsounds index
    | placeholder p =>
      have hparse := p.parse?_of_sound (hsound _ (.head _))
      have hown := lastGroup_shift_le index p.tree
      have hcount := Reader.lastGroup_le_captureCount hparse
      have hindex : index + Chunk.groupCount (.placeholder p :: rest) =
          index + Reader.captureCount p.source + 1 + Chunk.groupCount rest := by
        rw [Chunk.groupCount]
        omega
      rw [hindex, Chunk.ownTrees, List.cons_append, lastGroup_cats_cons, ih hsounds, lastGroup]
      omega

/-- Where chunks can be read alone and no constraint has a group, there are no further groups. -/
theorem count_of_no_groups {pattern : String} {t : Template} (h : compile pattern = .ok t)
    (hline : '\n' ∉ Chunk.body t.chunks) (hsound : ∀ c ∈ t.chunks, c.Sound)
    (hnone : ∀ p ∈ t.placeholders, Reader.captureCount p.source = 0) :
    t.OpensRemainder (t.placeholders.length + 1) ∧
      t.regex.lastGroup = t.placeholders.length + 1 := by
  have hcount : Chunk.groupCount t.chunks = t.placeholders.length := (Chunk.ownGroups_eq hnone 1).2
  have htree := lastGroup_ownTrees (Chunk.sound_trim hsound) 1
  rw [Chunk.groupCount_trim, Nat.add_comm 1, hcount] at htree
  refine ⟨hcount ▸ opensRemainder_of_sound h (.inl hline) hsound, ?_⟩
  rw [(own_of_sound h (.inl hline) hsound).2, hcount]
  simpa [between, lastGroup] using htree

/-- Where the only groups are those of the placeholders and of the remainder, none is passed over. -/
theorem aligned_of_count {t : Template} (hown : t.Owns own)
    (hremainder : t.OpensRemainder (t.placeholders.length + 1))
    (hlast : t.regex.lastGroup = t.placeholders.length + 1) {s : List Char}
    {groups : List (Option (List Char))} (hsearch : t.regex.search s = some groups) :
    Aligned own groups := by
  have hlength : groups.length = t.placeholders.length + 2 := by
    rw [length_of_search hsearch, hlast]
  have htaken := isTaken_of_count hlength
  rw [hown.eq_range' hremainder]
  refine ⟨fun g hg => ?_, fun g hpos _ g' hg' hlt => ?_⟩
  · rw [List.length_range']
    obtain ⟨hfirst, hbefore⟩ := List.mem_range'_1.mp hg
    exact ⟨hfirst, by omega, htaken g⟩
  · have hbefore := (List.mem_range'_1.mp hg').2
    exact List.mem_range'_1.mpr ⟨hpos, by omega⟩

-- ════════════════════════════════════════════════════════════════════════
-- The match of a template
-- ════════════════════════════════════════════════════════════════════════

/-- A match reports for every placeholder the text of the group that its own parenthesis opens if
exactly the further groups are passed over. So it is for every match if there are none, that is, if
the only groups are those of the placeholders and of the remainder. In a template on one line, of
which every chunk can be read alone, the placeholders have own groups, and if no constraint has a
group then there are no further ones. -/
theorem values_of_own_groups {pattern : String} {t : Template} (h : compile pattern = .ok t)
    (hnames : ∀ p ∈ t.placeholders, p.name ≠ finalGroupName) :
    (∀ own, t.Owns own → ∀ s groups, t.regex.search s.toList = some groups →
      (own <+: takenGroups t.variableNames groups ↔ Aligned own groups) ∧
      (t.OpensRemainder (t.placeholders.length + 1) →
        t.regex.lastGroup = t.placeholders.length + 1 → Aligned own groups) ∧
      (Aligned own groups → ∃ m, t.matchInput (some s) = some m ∧
        ∀ p ∈ t.placeholders,
          m.get? p.name = some (t.valuesOf (own.map (textOf groups)) p.name))) ∧
    ('\n' ∉ Chunk.body t.chunks → (∀ c ∈ t.chunks, c.Sound) →
      t.Owns (Chunk.ownGroups 1 t.chunks) ∧
      ((∀ p ∈ t.placeholders, Reader.captureCount p.source = 0) →
        t.OpensRemainder (t.placeholders.length + 1) ∧
        t.regex.lastGroup = t.placeholders.length + 1)) := by
  refine ⟨fun own hown s groups hsearch => ?_, fun hline hsound =>
    ⟨(own_of_sound h (.inl hline) hsound).1, count_of_no_groups h hline hsound⟩⟩
  have hordered := hown.pairwise
  have hlength : own.length = t.variableNames.length := by
    rw [variableNames, List.length_map, hown.length_eq]
  refine ⟨own_prefix_takenGroups_iff hordered hlength,
    fun hremainder hlast => aligned_of_count hown hremainder hlast hsearch, fun haligned => ?_⟩
  have hgroups : groups ≠ [] := by
    obtain ⟨slots, -, rfl⟩ := Option.map_eq_some_iff.mp hsearch
    simp
  have hmatch : t.matchInput (some s) = some (ofGroups t.variableNames groups) := by
    simp [matchInput, matchText, hsearch]
  refine ⟨_, hmatch, fun p hp => ?_⟩
  have hcaptures := captures_of_aligned hgroups hordered hlength haligned
  have hm : ofGroups t.variableNames groups =
      t.matchOf (own.map (textOf groups)) ((groups.getLast?.join).getD []) := by
    rw [matchOf, ← hcaptures]
    rfl
  rw [hm]
  exact get?_matchOf _ (by rw [List.length_map, hown.length_eq]) hp (hnames p hp)

-- ════════════════════════════════════════════════════════════════════════
-- A group that is optional
-- ════════════════════════════════════════════════════════════════════════

/-- What follows the first placeholder of `optionalGroup`. -/
def afterOptional : Regex :=
  cats [char '-', group 3 segmentTree, remainderTree 4]

/-- A template with an optional group in its first constraint. -/
def optionalGroup : Template :=
  let constraint (index : Nat) : Regex :=
    cat (rep true 0 (some 1) (group index (char 'x'))) (rep true 0 none (char 'y'))
  let a : Placeholder := ⟨"a", some ⟨"(x)?y*", (constraint 1).between⟩⟩
  ⟨"\x7ba:(x)?y*\x7d-\x7bb\x7d", [.placeholder a, .literal "-", .placeholder ⟨"b", none⟩],
    (cat (group 1 (constraint 2)) afterOptional).between⟩

theorem compile_optionalGroup : compile "\x7ba:(x)?y*\x7d-\x7bb\x7d" = .ok optionalGroup := by
  decide +kernel

theorem names_optionalGroup : ∀ p ∈ optionalGroup.placeholders, p.name ≠ finalGroupName := by
  decide

theorem owns_optionalGroup : optionalGroup.Owns [1, 3] := by
  have hline : '\n' ∉ Chunk.body optionalGroup.chunks := by decide
  have hsound : ∀ c ∈ optionalGroup.chunks, c.Sound := by
    intro c hc
    simp only [optionalGroup, List.mem_cons, List.not_mem_nil, or_false] at hc
    obtain rfl | rfl | rfl := hc
    · intro c hc
      cases hc
      show (parse? "(x)?y*".toList).isSome
      decide +kernel
    · show ∀ c ∈ "-".toList, c ∉ meaningful
      simp [meaningful]
    · intro c hc
      cases hc
  have hown : Chunk.ownGroups 1 optionalGroup.chunks = [1, 3] := by decide +kernel
  rw [← hown]
  exact (own_of_sound compile_optionalGroup (.inl hline) hsound).1

section Picks

variable {m : Reading} {w : List Char}

/-- Between a character and the end, one character is all of the segment. -/
theorem picks_char_segment {c d : Char} (i : Nat) (hd : d ≠ '/') (hrest : m.rest = [c, d]) :
    Picks m.toCursor
      ⟨.tree (cats [char c, group i segmentTree, remainderTree (i + 1)]) :: closing, m.slots⟩
      (((m.skip [c]).capture i [d]).record 1).slots := by
  have hsegment : (m.skip [c]).rest = [d] := rest_skip (w := [c]) hrest
  have hend : ((m.skip [c]).capture i [d]).rest = [] := rest_skip (w := [d]) hsegment
  have hremainder := @picks_remainder ((m.skip [c]).capture i [d]) (i + 1) (.inl hend)
  rw [Reading.finish, if_pos hend] at hremainder
  refine .cats (List.cons_ne_nil _ _) ?_
  refine .char hrest (CharClass.contains_single.mpr rfl) ?_
  refine .cats (m := m.skip [c]) (List.cons_ne_nil _ _) ?_
  refine .lazy_group (w := [d]) (by simp) hsegment (by simpa [CharClass.contains_compl_single])
    (fun v after hv hne hafter => ?_) hremainder
  -- a text of one character has no part that ends before it
  have hlength := congrArg List.length hv
  have hv := List.length_pos_of_ne_nil hne
  have hafter := List.length_pos_of_ne_nil hafter
  rw [List.length_append, List.length_singleton] at hlength
  omega

/-- The letters of the first placeholder are all taken. -/
theorem picks_letters (hw : ∀ c ∈ w, c = 'y') (hrest : m.rest = w ++ ['-', 'z']) :
    Picks m.toCursor
      ⟨.tree (rep true 0 none (char 'y')) :: .close 1 :: .tree afterOptional :: closing, m.slots⟩
      (((((m.skip w).record 3).skip ['-']).capture 3 ['z']).record 1).slots := by
  refine .greedy hrest (fun c hc => CharClass.contains_single.mpr (hw c hc)) ?_ (.close ?_)
  · intro c hc hy
    cases hc
    exact absurd (CharClass.contains_single.mp hy) (by decide)
  · exact picks_char_segment (m := (m.skip w).record 3) 3 (by decide) (rest_skip hrest)

/-- The optional group takes no part in a match of letters only. -/
theorem searchSlots_without_optional (hw : ∀ c ∈ w, c = 'y') :
    let m := (optionalGroup.regex.startReading (w ++ ['-', 'z']) []).record 2
    optionalGroup.regex.searchSlots (w ++ ['-', 'z']) =
      some (((((m.skip w).record 3).skip ['-']).capture 3 ['z']).record 1).slots := by
  intro m
  have hhopeless : ∀ k, Hopeless m.toCursor (.tree (group 2 (char 'x')) :: k) := fun k => by
    refine .of_not_spans fun slots n hspan => ?_
    obtain ⟨_, ⟨c, cs, hrest, hx, -⟩, -⟩ := hspan
    obtain rfl := CharClass.contains_single.mp hx
    have hmem : 'x' ∈ w ++ ['-', 'z'] := by
      rw [show w ++ ['-', 'z'] = 'x' :: cs from hrest]
      exact .head _
    rcases List.mem_append.mp hmem with hmem | hmem
    · exact absurd (hw 'x' hmem) (by decide)
    · exact absurd hmem (by decide)
  exact Regex.searchSlots_between_of_picks (.only rfl (.group (.only (m := m) rfl
    (.second (m := m) rfl (hhopeless _) (picks_letters (m := m) hw rfl)))))

theorem searchSlots_with_optional :
    let m := (optionalGroup.regex.startReading "xy-z".toList []).record 2
    let n := ((m.capture 2 ['x']).skip ['y']).record 3
    optionalGroup.regex.searchSlots "xy-z".toList =
      some (((n.skip ['-']).capture 3 ['z']).record 1).slots := by
  intro m n
  have hletters := picks_letters (m := m.capture 2 ['x']) (w := ['y']) (by simp) rfl
  exact Regex.searchSlots_between_of_picks (.only rfl (.group (.only (m := m) rfl
    (.first (m := m) rfl (.group (.char (m := m.record 4) rfl (CharClass.contains_single.mpr rfl)
      (.close (.only (m := m.capture 2 ['x']) rfl hletters))))))))

end Picks

/-- A further group that takes no part in the match is passed over. -/
theorem optional_group_is_passed_over :
    ∃ t own groups m, compile "\x7ba:(x)?y*\x7d-\x7bb\x7d" = .ok t ∧
      (∀ p ∈ t.placeholders, p.name ≠ finalGroupName) ∧ t.Owns own ∧
      t.regex.search "y-z".toList = some groups ∧ Aligned own groups ∧
      t.matchInput (some "y-z") = some m ∧ m.get? "a" = some ["y"] ∧ m.get? "b" = some ["z"] := by
  have hsearch : optionalGroup.regex.search "y-z".toList =
      some [some "y-z".toList, some ['y'], none, some ['z'], none] := by
    have hslots := @searchSlots_without_optional ['y'] (by simp)
    rw [search, show "y-z".toList = ['y'] ++ ['-', 'z'] from rfl, hslots]
    rfl
  have hprefix : [1, 3] <+:
      takenGroups ["a", "b"] [some "y-z".toList, some ['y'], none, some ['z'], none] := by decide
  have haligned := (own_prefix_takenGroups_iff (by decide) rfl).mp hprefix
  obtain ⟨hall, -⟩ := values_of_own_groups compile_optionalGroup names_optionalGroup
  obtain ⟨-, -, hvalues⟩ := hall _ owns_optionalGroup "y-z" _ hsearch
  obtain ⟨m, hm, hget⟩ := hvalues haligned
  exact ⟨_, _, _, m, compile_optionalGroup, names_optionalGroup, owns_optionalGroup, hsearch,
    haligned, hm, hget _ (.head _), hget ⟨"b", none⟩ (.tail _ (.head _))⟩

/-- An own group with an empty text is passed over as well: its placeholder has the text of the next
one, which has no value. And a further group that takes part in the match is not passed over: the
next placeholder has its text. -/
theorem empty_or_nested_groups_mislead :
    ∃ t, compile "\x7ba:(x)?y*\x7d-\x7bb\x7d" = .ok t ∧
      (∀ p ∈ t.placeholders, p.name ≠ finalGroupName) ∧ t.Owns [1, 3] ∧
      (∃ groups m, t.regex.search "-z".toList = some groups ∧ t.matchInput (some "-z") = some m ∧
        t.valuesOf ([1, 3].map (textOf groups)) "a" = [""] ∧ m.get? "a" = some ["z"] ∧
        t.valuesOf ([1, 3].map (textOf groups)) "b" = ["z"] ∧ m.get? "b" = none) ∧
      ∃ groups m, t.regex.search "xy-z".toList = some groups ∧
        t.matchInput (some "xy-z") = some m ∧
        t.valuesOf ([1, 3].map (textOf groups)) "b" = ["z"] ∧ m.get? "b" = some ["x"] := by
  refine ⟨_, compile_optionalGroup, names_optionalGroup, owns_optionalGroup, ?_, ?_⟩
  · let groups := [some "-z".toList, some [], none, some ['z'], none]
    have hsearch : optionalGroup.regex.search "-z".toList = some groups := by
      have hslots := @searchSlots_without_optional [] (by simp)
      rw [search, show "-z".toList = [] ++ ['-', 'z'] from rfl, hslots]
      rfl
    have hmatch : optionalGroup.matchInput (some "-z") = some (ofGroups ["a", "b"] groups) := by
      rw [matchInput, Option.bind_some, matchText, hsearch]
      rfl
    exact ⟨groups, _, hsearch, hmatch, by decide +kernel⟩
  · let groups := [some "xy-z".toList, some ['x', 'y'], some ['x'], some ['z'], none]
    have hsearch : optionalGroup.regex.search "xy-z".toList = some groups := by
      rw [search, searchSlots_with_optional]
      rfl
    have hmatch : optionalGroup.matchInput (some "xy-z") = some (ofGroups ["a", "b"] groups) := by
      rw [matchInput, Option.bind_some, matchText, hsearch]
      rfl
    exact ⟨groups, _, hsearch, hmatch, by decide +kernel⟩

end Template

end Parley
