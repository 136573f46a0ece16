import Parley.Proofs.Template.Grammar
import Parley.Proofs.Template.OwnGroup

/-!
# The matches of a template

A template matches the texts of its grammar, and the values that a match reports are those of one
way to read the text by the grammar. The groups of the pattern are numbered as the placeholders,
and the last one is the remainder.

## Main definitions

- `Template.reading` — the positions recorded by a match with these values
- `Template.valuesOf` — the values of a name, in order

## Main results

- `Template.ofGroups_reading` — the groups of a match are its values and its remainder
- `Template.isMatch_iff_parses`, `Template.isMatch_iff_of_literal` — what a template matches
- `Template.match_iff_parses` — a template matches its grammar, and its captures are a parse
-/

namespace Parley

open Regex

-- ════════════════════════════════════════════════════════════════════════
-- Recorded texts
-- ════════════════════════════════════════════════════════════════════════

namespace Regex

/-- A group depends on its own two positions only. -/
theorem groupText_set_of_ne {text : List Char} {slots : Slots} {g slot : Nat} {x : Option Nat}
    (hstart : slot ≠ 2 * g) (hstop : slot ≠ 2 * g + 1) :
    groupText text (slots.set slot x) g = groupText text slots g := by
  rw [groupText, groupText, List.getElem?_set_ne hstart, List.getElem?_set_ne hstop]

/-- Before a match no group is recorded but the whole. -/
theorem groupText_startSlots {r : Regex} {text : List Char} {index g : Nat} (h : 0 < g) :
    groupText text (r.startSlots index) g = none := by
  have hslot : (r.startSlots index)[2 * g]? = none ∨ (r.startSlots index)[2 * g]? = some none := by
    obtain ⟨k, hk⟩ : ∃ k, 2 * g = k + 1 := ⟨2 * g - 1, by omega⟩
    rw [startSlots, hk, List.getElem?_cons_succ, List.getElem?_replicate]
    split
    · exact .inr rfl
    · exact .inl rfl
  obtain h | h := hslot
  · rw [groupText, h]
  · rw [groupText, h]

end Regex

namespace Reading

variable {text : List Char} {m : Reading}

/-- The reading is of this text. -/
def IsOf (m : Reading) (text : List Char) : Prop :=
  text.drop m.index = m.rest

theorem isOf_startReading {r : Regex} {text : List Char} : (r.startReading text []).IsOf text := by
  simp [IsOf, startReading, Cursor.start]

theorem IsOf.skip (h : m.IsOf text) (w : List Char) : (m.skip w).IsOf text := by
  rw [IsOf] at h ⊢
  rw [skip_toCursor, Cursor.skip_index, Cursor.skip_rest, ← h, List.drop_drop]

theorem IsOf.capture (h : m.IsOf text) (group : Nat) (w : List Char) :
    (m.capture group w).IsOf text :=
  h.skip w

/-- A captured text is the text of its group. -/
theorem groupText_capture {group : Nat} {w rest : List Char} (hm : m.IsOf text)
    (hrest : m.rest = w ++ rest) (hslots : 2 * group + 1 < m.slots.length) :
    groupText text (m.capture group w).slots group = some w := by
  have hstart : ((m.capture group w).slots)[2 * group]? = some (some m.index) := by
    rw [capture_slots, List.getElem?_set_ne (by omega), List.getElem?_set_self (by omega)]
  have hstop : ((m.capture group w).slots)[2 * group + 1]? = some (some (m.index + w.length)) := by
    rw [capture_slots, List.getElem?_set_self (by rw [List.length_set]; exact hslots)]
  rw [IsOf, hrest] at hm
  simp only [groupText, hstart, hstop, hm, Nat.add_sub_cancel_left, List.take_left]

/-- Another group keeps its text. -/
theorem groupText_capture_of_ne {group g : Nat} (h : g ≠ group) (w : List Char) :
    groupText text (m.capture group w).slots g = groupText text m.slots g := by
  rw [capture_slots, groupText_set_of_ne (by omega) (by omega),
    groupText_set_of_ne (by omega) (by omega)]

@[simp]
theorem capture_slots_length (m : Reading) (group : Nat) (w : List Char) :
    (m.capture group w).slots.length = m.slots.length := by
  simp [capture_slots]

@[simp]
theorem across_slots_length (m : Reading) (index : Nat) (chunks : List Chunk)
    (values : List (List Char)) : (m.across index chunks values).slots.length = m.slots.length := by
  induction chunks generalizing m index values with
  | nil => rfl
  | cons c rest ih =>
    cases c with
    | literal text => rw [across, ih, skip_slots]
    | placeholder p =>
      cases values with
      | nil => rw [across, ih]
      | cons v values => rw [across, ih, capture_slots_length]

theorem IsOf.across (h : m.IsOf text) (index : Nat) (chunks : List Chunk)
    (values : List (List Char)) : (m.across index chunks values).IsOf text := by
  rw [IsOf, across_toCursor]
  exact h.skip _

/-- The chunks record no groups but those of their placeholders. -/
theorem groupText_across_of_lt {g index : Nat} {chunks : List Chunk} {values : List (List Char)}
    (h : g < index ∨ index + (Chunk.placeholders chunks).length ≤ g) :
    groupText text (m.across index chunks values).slots g = groupText text m.slots g := by
  induction chunks generalizing m index values with
  | nil => rfl
  | cons c rest ih =>
    cases c with
    | literal text' => rw [across, ih h, skip_slots]
    | placeholder p =>
      rw [Chunk.placeholders_placeholder, List.length_cons] at h
      cases values with
      | nil => rw [across, ih (by omega)]
      | cons v values => rw [across, ih (by omega), groupText_capture_of_ne (by omega)]

/-- The groups of the placeholders have the values. -/
theorem groups_across {index : Nat} {chunks : List Chunk} {values : List (List Char)}
    (hm : m.IsOf text) (hbegins : Chunk.fillWith chunks values <+: m.rest)
    (hcount : values.length = (Chunk.placeholders chunks).length)
    (hslots : 2 * (index + values.length) ≤ m.slots.length) :
    (List.range' index values.length).map (groupText text (m.across index chunks values).slots) =
      values.map some := by
  induction chunks generalizing m index values with
  | nil =>
    obtain rfl := List.length_eq_zero_iff.mp hcount
    rfl
  | cons c rest ih =>
    obtain ⟨left, hleft⟩ := hbegins
    cases c with
    | literal text' =>
      rw [Chunk.fillWith, List.append_assoc] at hleft
      refine ih (hm.skip _) ?_ hcount hslots
      rw [rest_skip hleft.symm]
      exact List.prefix_append ..
    | placeholder p =>
      cases values with
      | nil => rfl
      | cons v values =>
        rw [Chunk.fillWith, List.append_assoc] at hleft
        rw [List.length_cons] at hcount hslots
        have hrest : (m.capture index v).rest = Chunk.fillWith rest values ++ left :=
          rest_skip (m := m) hleft.symm
        have hroom : 2 * (index + 1 + values.length) ≤ (m.capture index v).slots.length := by
          rw [capture_slots_length]
          omega
        have hnext := ih (hm.capture index v) ⟨left, hrest.symm⟩ (Nat.succ.inj hcount) hroom
        rw [List.length_cons, List.range'_succ, List.map_cons, List.map_cons, across, hnext,
          groupText_across_of_lt (.inl (Nat.lt_succ_self _)),
          groupText_capture hm hleft.symm (by omega)]

/-- The last group has the text that is left, if it has a text. -/
theorem groupText_finish {group : Nat} (hm : m.IsOf text)
    (hnone : groupText text m.slots group = none) (hslots : 2 * group + 1 < m.slots.length) :
    (groupText text (m.finish group).slots group).getD [] = m.rest := by
  unfold finish
  split
  · next hrest => rw [hnone, hrest, Option.getD_none]
  · rw [groupText_capture hm (List.append_nil _).symm hslots, Option.getD_some]

theorem groupText_finish_of_ne {group g : Nat} (h : g ≠ group) :
    groupText text (m.finish group).slots g = groupText text m.slots g := by
  unfold finish
  split
  · rfl
  · exact groupText_capture_of_ne h _

end Reading

-- ════════════════════════════════════════════════════════════════════════
-- The number of groups
-- ════════════════════════════════════════════════════════════════════════

theorem Regex.lastGroup_cats_cons {r : Regex} {rs : List Regex} :
    (cats (r :: rs)).lastGroup = max r.lastGroup (cats rs).lastGroup := by
  cases rs with
  | nil => exact (Nat.max_zero _).symm
  | cons s rs => rfl

theorem Regex.lastGroup_cats_chars {text : List Char} {rs : List Regex} :
    (cats (text.map char ++ rs)).lastGroup = (cats rs).lastGroup := by
  induction text with
  | nil => rfl
  | cons c cs ih =>
    rw [List.map_cons, List.cons_append, lastGroup_cats_cons, ih]
    exact Nat.zero_max _

/-- The remainder is the last group. -/
theorem Chunk.lastGroup_trees {chunks : List Chunk} {index : Nat}
    (hreadable : ∀ c ∈ chunks, c.Readable) :
    (cats (trees index chunks ++
      [remainderTree (index + (Chunk.placeholders chunks).length)])).lastGroup =
        index + (Chunk.placeholders chunks).length := by
  induction chunks generalizing index with
  | nil => exact Nat.max_zero _
  | cons c rest ih =>
    have hrest := fun d hd => hreadable d (List.mem_cons_of_mem c hd)
    cases c with
    | literal text =>
      rw [trees, List.append_assoc, lastGroup_cats_chars]
      exact ih hrest
    | placeholder p =>
      have hfree := p.groupFree_tree (hreadable _ (List.mem_cons_self ..))
      rw [placeholders_placeholder, List.length_cons, Nat.add_comm _ 1, ← Nat.add_assoc, trees,
        List.cons_append, lastGroup_cats_cons, ih hrest, lastGroup, lastGroup_of_groupFree hfree]
      omega

theorem Template.lastGroup_tree {chunks : List Chunk} (hreadable : ∀ c ∈ chunks, c.Readable) :
    (tree chunks).lastGroup = (Chunk.placeholders chunks).length + 1 := by
  have hlast : (tree chunks).lastGroup = 1 + (Chunk.placeholders (Chunk.trim chunks)).length := by
    rw [← Chunk.lastGroup_trees (Chunk.readable_trim hreadable), Chunk.placeholders_trim,
      Nat.add_comm 1]
    rfl
  rw [hlast, Chunk.placeholders_trim, Nat.add_comm 1]

-- ════════════════════════════════════════════════════════════════════════
-- Captures
-- ════════════════════════════════════════════════════════════════════════

namespace Template

/-- Where there are no other groups, the placeholders have their own. -/
theorem assign_map_some {names : List String} {values : List (List Char)}
    (h : values.length = names.length) (groups : List (Option (List Char))) :
    assign false names (values.map some ++ groups) = names.zip (values.map String.ofList) := by
  induction names generalizing values with
  | nil =>
    obtain rfl := List.length_eq_zero_iff.mp h
    rfl
  | cons name names ih =>
    obtain ⟨v, values, rfl⟩ := List.exists_cons_of_length_eq_add_one h
    rw [List.map_cons, List.cons_append, assign, nextGroup, Bool.false_and, if_neg (by decide)]
    exact congrArg _ (ih (Nat.succ.inj h))

/-- One group for each placeholder and one for the remainder. -/
theorem ofGroups_append {names : List String} {values : List (List Char)}
    (h : values.length = names.length) (whole last : Option (List Char)) :
    ofGroups names (whole :: (values.map some ++ [last])) =
      ⟨names.zip (values.map String.ofList), String.ofList (last.getD [])⟩ := by
  have hambiguous : ¬(names.length + 1 < (values.map some ++ [last]).length) := by
    simp [h]
  have hlast : (whole :: (values.map some ++ [last])).getLast? = some last := by
    rw [List.getLast?_cons, List.getLast?_concat, Option.getD_some]
  simp only [ofGroups, List.drop_succ_cons, List.drop_zero, decide_eq_false hambiguous,
    assign_map_some h, hlast, Option.join_some]

/-- The positions that a match with these values records. -/
def reading (chunks : List Chunk) (input : List Char) (values : List (List Char)) : Reading :=
  (((tree chunks).startReading input []).across 1 (Chunk.trim chunks) values).finish
    ((Chunk.placeholders chunks).length + 1)

section Reading

variable {chunks : List Chunk} {input remainder : List Char} {values : List (List Char)}

/-- Room for every group: the whole, the placeholders and the remainder. -/
theorem slots_startReading_length (hreadable : ∀ c ∈ chunks, c.Readable) :
    ((tree chunks).startReading input []).slots.length =
      2 * ((Chunk.placeholders chunks).length + 1) + 2 := by
  simp [startReading, startSlots, lastGroup_tree hreadable]

/-- The input begins with the chunks without a final slash. -/
theorem Parses.rest_startReading (h : Parses chunks input values remainder) :
    ((tree chunks).startReading input []).rest =
      Chunk.fillWith (Chunk.trim chunks) values ++ remainder := by
  rw [← Chunk.stem_eq]
  exact h.text

theorem Parses.length_eq (h : Parses chunks input values remainder) :
    values.length = (Chunk.placeholders chunks).length :=
  h.admitted.length_eq.symm

/-- The groups of the placeholders have the values. -/
theorem groups_reading (hreadable : ∀ c ∈ chunks, c.Readable)
    (h : Parses chunks input values remainder) :
    (List.range' 1 values.length).map (groupText input (reading chunks input values).slots) =
      values.map some := by
  have hcount := h.length_eq
  let start := (tree chunks).startReading input []
  let filled := start.across 1 (Chunk.trim chunks) values
  have hslots : start.slots.length = _ := slots_startReading_length hreadable
  have hfilled : (List.range' 1 values.length).map (groupText input filled.slots) =
      values.map some :=
    Reading.groups_across Reading.isOf_startReading ⟨remainder, h.rest_startReading.symm⟩
      (by rw [hcount, Chunk.placeholders_trim]) (by omega)
  rw [← hfilled]
  refine List.map_congr_left fun g hg => Reading.groupText_finish_of_ne ?_
  have hg := (List.mem_range'_1.mp hg).2
  omega

/-- The last group has the remainder. -/
theorem groupText_reading_last (hreadable : ∀ c ∈ chunks, c.Readable)
    (h : Parses chunks input values remainder) :
    (groupText input (reading chunks input values).slots (values.length + 1)).getD [] =
      remainder := by
  let start := (tree chunks).startReading input []
  have hslots : start.slots.length = _ := slots_startReading_length hreadable
  have hnone : groupText input (start.across 1 (Chunk.trim chunks) values).slots
      (values.length + 1) = none := by
    rw [Reading.groupText_across_of_lt
      (.inr (by rw [Chunk.placeholders_trim, h.length_eq]; omega))]
    exact groupText_startSlots (Nat.succ_pos _)
  have hrest : (start.across 1 (Chunk.trim chunks) values).rest = remainder := by
    rw [Reading.across_toCursor]
    exact rest_skip h.rest_startReading
  rw [reading, ← h.length_eq, ← hrest]
  refine Reading.groupText_finish (Reading.isOf_startReading.across 1 _ values) hnone ?_
  rw [Reading.across_slots_length, hslots, h.length_eq]
  omega

/-- The groups of a match are its values and its remainder. -/
theorem ofGroups_reading (hreadable : ∀ c ∈ chunks, c.Readable)
    (h : Parses chunks input values remainder) (stop : Option Nat) :
    ofGroups ((Chunk.placeholders chunks).map Placeholder.name)
      ((List.range ((tree chunks).between.lastGroup + 1)).map
        (groupText input ((reading chunks input values).slots.set 1 stop))) =
      ⟨((Chunk.placeholders chunks).map Placeholder.name).zip (values.map String.ofList),
        String.ofList remainder⟩ := by
  -- the end of the whole match is in no other group
  have hwhole : ∀ g, 0 < g → groupText input ((reading chunks input values).slots.set 1 stop) g =
      groupText input (reading chunks input values).slots g :=
    fun g hg => groupText_set_of_ne (by omega) (by omega)
  have hvalues : (List.range' 1 values.length).map
      (groupText input ((reading chunks input values).slots.set 1 stop)) = values.map some := by
    rw [← groups_reading hreadable h]
    exact List.map_congr_left fun g hg => hwhole g (List.mem_range'_1.mp hg).1
  have hgroups : (tree chunks).between.lastGroup = values.length + 1 := by
    simp [between, lastGroup, lastGroup_tree hreadable, h.length_eq]
  have hrange : List.range (values.length + 1 + 1) =
      0 :: (List.range' 1 values.length ++ [values.length + 1]) := by
    rw [List.range_eq_range', List.range'_succ, List.range'_concat, Nat.one_mul, Nat.zero_add,
      Nat.add_comm 1]
  rw [hgroups, hrange, List.map_cons, List.map_append, hvalues, List.map_singleton,
    ofGroups_append (by rw [List.length_map, h.length_eq]), hwhole _ (Nat.succ_pos _),
    groupText_reading_last hreadable h]

end Reading

-- ════════════════════════════════════════════════════════════════════════
-- Matches
-- ════════════════════════════════════════════════════════════════════════

/-- The values of the placeholders of a name, in order. -/
def valuesOf (t : Template) (values : List (List Char)) (name : String) : List String :=
  ((t.placeholders.zip values).filter fun x => x.1.name == name).map fun x => String.ofList x.2

/-- The match that reports these values and this remainder. -/
def matchOf (t : Template) (values : List (List Char)) (remainder : List Char) : TemplateMatch :=
  ⟨t.variableNames.zip (values.map String.ofList), String.ofList remainder⟩

/-- The values of a name are found under it. -/
theorem get?_matchOf {t : Template} {values : List (List Char)} (remainder : List Char)
    (hcount : t.placeholders.length = values.length) {p : Placeholder} (hp : p ∈ t.placeholders)
    (hname : p.name ≠ finalGroupName) :
    (t.matchOf values remainder).get? p.name = some (t.valuesOf values p.name) := by
  have hvalues : ((t.matchOf values remainder).captures.filter fun c =>
      c.1 == p.name).map Prod.snd = t.valuesOf values p.name := by
    rw [matchOf, variableNames, List.zip_map, List.filter_map, List.map_map]
    rfl
  have hne : t.valuesOf values p.name ≠ [] := by
    obtain ⟨i, hi, rfl⟩ := List.getElem_of_mem hp
    have hmem : (t.placeholders[i], values[i]) ∈ t.placeholders.zip values := by
      rw [← List.getElem_zip (h := by rw [List.length_zip]; omega)]
      exact List.getElem_mem _
    have hfilter : (t.placeholders[i], values[i]) ∈
        (t.placeholders.zip values).filter fun x => x.1.name == t.placeholders[i].name :=
      List.mem_filter.mpr ⟨hmem, beq_self_eq_true _⟩
    exact List.ne_nil_of_mem (List.mem_map_of_mem hfilter)
  rw [TemplateMatch.get?, if_neg hname, hvalues]
  split
  · next hnil => exact absurd hnil hne
  · rfl

variable {pattern : String} {t : Template}

/-- A match is a way to read the input by the grammar. -/
theorem parses_of_matchText (h : compile pattern = .ok t) (hreadable : ∀ c ∈ t.chunks, c.Readable)
    {s : String} {m : TemplateMatch} (hm : t.matchText s = some m) :
    ∃ values remainder, Parses t.chunks s.toList values remainder ∧
      m = t.matchOf values remainder := by
  obtain ⟨groups, hgroups, rfl⟩ := Option.map_eq_some_iff.mp hm
  obtain ⟨slots, hslots, rfl⟩ := Option.map_eq_some_iff.mp hgroups
  rw [regex_eq h hreadable] at hslots ⊢
  obtain ⟨n, hspan, hend, rfl⟩ := searchSlots_between hslots
  obtain ⟨values, remainder, hparses, rfl⟩ := (spans_tree hreadable).mp ⟨hspan, hend⟩
  exact ⟨values, remainder, hparses, ofGroups_reading hreadable hparses _⟩

/-- The regex matches the inputs of the grammar. -/
theorem isMatch_iff_parses (h : compile pattern = .ok t) (hreadable : ∀ c ∈ t.chunks, c.Readable)
    (s : String) : t.isMatch s ↔ ∃ values remainder, Parses t.chunks s.toList values remainder := by
  rw [isMatch, regex_eq h hreadable, isMatch_between]
  constructor
  · rintro ⟨n, hn⟩
    obtain ⟨values, remainder, hparses, -⟩ := (spans_tree hreadable).mp hn
    exact ⟨values, remainder, hparses⟩
  · rintro ⟨values, remainder, hparses⟩
    exact ⟨_, (spans_tree hreadable).mpr ⟨values, remainder, hparses, rfl⟩⟩

/-- A template without placeholders matches its text with a remainder. -/
theorem isMatch_iff_of_literal {text : String} (h : compile pattern = .ok t)
    (hchunks : t.chunks = [.literal text]) (hplain : ∀ c ∈ text.toList, c ∉ meaningful)
    (hslash : text.toList.getLast? ≠ some '/') (s : String) :
    t.isMatch s ↔ ∃ rest, s.toList = text.toList ++ rest ∧ IsRemainder rest := by
  have hreadable : ∀ c ∈ t.chunks, c.Readable := by
    rw [hchunks]
    rintro c (_ | ⟨_, ⟨⟩⟩)
    exact hplain
  have hstem : Chunk.stem [.literal text] [] = text.toList := by
    rw [Chunk.stem, if_neg (mt (Chunk.endsInSlash_literal text).mp hslash)]
    exact List.append_nil _
  rw [isMatch_iff_parses h hreadable, hchunks]
  constructor
  · rintro ⟨values, rest, hadmitted, htext, hrest⟩
    obtain rfl := List.forall₂_nil_left_iff.mp hadmitted
    rw [hstem] at htext
    exact ⟨rest, htext, hrest⟩
  · rintro ⟨rest, htext, hrest⟩
    exact ⟨[], rest, .nil, by rwa [hstem], hrest⟩

theorem matchInput_isSome (t : Template) (s : String) :
    (t.matchInput (some s)).isSome = t.isMatch s := by
  simp [matchInput, matchText, isMatch, Regex.search, Regex.isMatch]

/-- If an input can be read, and every way to read it begins with the same value of a placeholder,
then a match finds this value. -/
theorem first?_of_parses (h : compile pattern = .ok t) (hreadable : ∀ c ∈ t.chunks, c.Readable)
    {p : Placeholder} (hp : p ∈ t.placeholders) (hname : p.name ≠ finalGroupName) {s v : String}
    (hsome : ∃ values remainder, Parses t.chunks s.toList values remainder)
    (hall : ∀ values remainder, Parses t.chunks s.toList values remainder →
      (t.valuesOf values p.name).head? = some v) :
    (t.matchInput (some s)).bind (fun m => m.first? p.name) = some v := by
  have hmatch : (t.matchInput (some s)).isSome := by
    rw [matchInput_isSome]
    exact (isMatch_iff_parses h hreadable s).mpr hsome
  obtain ⟨m, hm⟩ := Option.isSome_iff_exists.mp hmatch
  obtain ⟨values, remainder, hparses, rfl⟩ := parses_of_matchText h hreadable hm
  rw [hm, Option.bind_some, TemplateMatch.first?,
    get?_matchOf remainder hparses.admitted.length_eq hp hname]
  exact hall values remainder hparses

/-- A template matches exactly the inputs of its grammar, and what a match reports is a way to read
the input by the grammar, if every constraint is a pattern on its own. -/
theorem match_iff_parses (h : compile pattern = .ok t) (hreadable : ∀ c ∈ t.chunks, c.Readable)
    (hnames : ∀ p ∈ t.placeholders, p.name ≠ finalGroupName) (s : String) :
    ((t.matchInput (some s)).isSome ↔
      ∃ values remainder, Parses t.chunks s.toList values remainder) ∧
    (t.isMatch s ↔ (t.matchInput (some s)).isSome) ∧
    ∀ m, t.matchInput (some s) = some m →
      ∃ values remainder, Parses t.chunks s.toList values remainder ∧
        (∀ p ∈ t.placeholders, m.get? p.name = some (t.valuesOf values p.name)) ∧
        m.get? finalGroupName = some [String.ofList remainder] := by
  refine ⟨?_, ?_, fun m hm => ?_⟩
  · rw [matchInput_isSome]
    exact isMatch_iff_parses h hreadable s
  · rw [matchInput_isSome]
  · obtain ⟨values, remainder, hparses, rfl⟩ := parses_of_matchText h hreadable hm
    have hcount := hparses.admitted.length_eq
    refine ⟨values, remainder, hparses, fun p hp => ?_, if_pos rfl⟩
    exact get?_matchOf remainder hcount hp (hnames p hp)

/-- A greeting with a constraint, and an input with a remainder. -/
theorem greeting_matches_its_grammar :
    ∃ t, compile "hi \x7bwho:[a-z]+\x7d/" = .ok t ∧ (∀ c ∈ t.chunks, c.Readable) ∧
      (∀ p ∈ t.placeholders, p.name ≠ finalGroupName) ∧
      ((t.matchInput (some "hi ann/now")).isSome ↔
        ∃ values remainder, Parses t.chunks "hi ann/now".toList values remainder) := by
  let who : Placeholder := ⟨"who", some ⟨"[a-z]+",
    (rep true 1 none (chars (.range 'a' 'z'))).between⟩⟩
  let chunks : List Chunk := [.literal "hi ", .placeholder who, .literal "/"]
  have hcompile : compile "hi \x7bwho:[a-z]+\x7d/" =
      .ok ⟨"hi \x7bwho:[a-z]+\x7d/", chunks, (tree chunks).between⟩ := by decide +kernel
  have hparse : parse? "[a-z]+".toList = some (rep true 1 none (chars (.range 'a' 'z'))) := by
    decide +kernel
  have hreadable : ∀ c ∈ chunks, c.Readable := by
    intro c hc
    simp only [chunks, List.mem_cons, List.not_mem_nil, or_false] at hc
    obtain rfl | rfl | rfl := hc
    · show ∀ c ∈ "hi ".toList, c ∉ meaningful
      simp [meaningful]
    · intro c hc
      cases hc
      exact ⟨by decide, _, hparse, rfl⟩
    · show ∀ c ∈ "/".toList, c ∉ meaningful
      simp [meaningful]
  have hnames : ∀ p ∈ Chunk.placeholders chunks, p.name ≠ finalGroupName := by decide
  exact ⟨_, hcompile, hreadable, hnames, (match_iff_parses hcompile hreadable hnames _).1⟩

/-- A constraint that ends in a backslash takes the parenthesis after it as text, so that one
before it can close the group: it is no pattern on its own, nothing may stand for the placeholder,
and yet an input matches. -/
theorem broken_constraint_matches :
    ∃ t, compile "\x7bv:a)\\\x7d" = .ok t ∧
      (∀ text, .literal text ∈ t.chunks → ∀ c ∈ text.toList, c ∉ meaningful) ∧
      (∀ p ∈ t.placeholders, p.name ≠ finalGroupName ∧
        ∀ c, p.constraint = some c → '(' ∉ c.source.toList ∧ parse? c.source.toList = none) ∧
      (t.matchInput (some "a)")).isSome ∧
      ¬∃ values remainder, Parses t.chunks "a)".toList values remainder := by
  let v : Placeholder := ⟨"v", some ⟨"a)\\",
    cats [look .textStart, char 'a', char ')', look .textEnd]⟩⟩
  let body := cats [group 1 (char 'a'), char ')', remainderTree 2]
  have hcompile : compile "\x7bv:a)\\\x7d" =
      .ok ⟨"\x7bv:a)\\\x7d", [.placeholder v], body.between⟩ := by decide +kernel
  have hparse : parse? "a)\\".toList = none := by decide +kernel
  refine ⟨_, hcompile, ?_, ?_, ?_, ?_⟩
  · intro text htext
    cases List.mem_singleton.mp htext
  · intro p hp
    obtain rfl := List.mem_singleton.mp hp
    refine ⟨by decide, fun c hc => ?_⟩
    cases hc
    exact ⟨by decide, hparse⟩
  · rw [matchInput_isSome, isMatch, isMatch_between]
    let start := body.startReading "a)".toList []
    have hgroup : (group 1 (char 'a')).Spans start (start.capture 1 ['a']) :=
      ⟨_, ⟨'a', [')'], rfl, CharClass.contains_single.mpr rfl, rfl⟩, rfl⟩
    have hparen : (char ')').Spans (start.capture 1 ['a']) ((start.capture 1 ['a']).skip [')']) :=
      ⟨')', [], rfl, CharClass.contains_single.mpr rfl, rfl⟩
    obtain ⟨hremainder, hend⟩ := spans_remainderTree.mpr
      ⟨.inl (show ((start.capture 1 ['a']).skip [')']).rest = [] from rfl), rfl⟩
    exact ⟨_, ⟨_, hgroup, _, hparen, hremainder⟩, hend⟩
  · rintro ⟨values, remainder, hparses⟩
    obtain ⟨w, _, ⟨r, hr, -⟩, -⟩ := List.forall₂_cons_left_iff.mp hparses.admitted
    have hr : parse? "a)\\".toList = some r := hr
    rw [hparse] at hr
    cases hr

end Template

end Parley
