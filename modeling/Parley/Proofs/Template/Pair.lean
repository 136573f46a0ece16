import Parley.Proofs.Template.RoundTrip

/-!
# Two values with a separator between them

A template may be written with a regular expression between two placeholders. What it matches is a
text in front, a value, a text of the separator and another value; and the first value ends at the
first place where the separator can match.

## Main definitions

- `Regex.Reads` — all that trees in order can match
- `Regex.Takes` — what the preferred run through trees in order takes
- `Template.pairTree` — the tree of two placeholders with a separator between them

## Main results

- `Regex.Reads.append`, `Regex.Takes.append` — trees in order, one part after the other
- `Regex.Reads.of_isMatch` — what trees in order match between the ends of a text
- `Template.exists_split_of_isMatch` — what such a tree matches
- `Template.matchText_of_takes` — the values that a match gives
-/

namespace Parley

open Regex Frames

namespace Regex

-- ════════════════════════════════════════════════════════════════════════
-- Trees in order
-- ════════════════════════════════════════════════════════════════════════

/-- The tree of a character that may be missing. -/
def optional (c : Char) : Regex :=
  .rep true 0 (some 1) (.char c)

/-- Whatever the trees match in order, before others, is a text of the language. -/
def Reads (rs : List Regex) (language : List Char → Prop) : Prop :=
  ∀ (ss : List Regex) (m n : Reading), (cats (rs ++ ss)).Spans m n →
    ∃ w rest, language w ∧ m.rest = w ++ rest ∧ (cats ss).Spans (m.skip w) n

/-- Before the text `u`, the preferred run through the trees in order takes the text `w`. -/
def Takes (rs : List Regex) (w u : List Char) : Prop :=
  ∀ (ss : List Regex) (m : Reading) (k : Frames) (out : Slots), ss ≠ [] → m.rest = w ++ u →
    Picks (m.skip w).toCursor ⟨.tree (cats ss) :: k, m.slots⟩ out →
    Picks m.toCursor ⟨.tree (cats (rs ++ ss)) :: k, m.slots⟩ out

theorem reads_chars (text : List Char) : Reads (text.map char) (· = text) := by
  intro ss m n h
  obtain ⟨rest, hrest, h⟩ := spans_cats_chars.1 h
  exact ⟨text, rest, rfl, hrest, h⟩

theorem reads_class (cls : CharClass) :
    Reads [.chars cls] fun w => ∃ c, cls.contains c = true ∧ w = [c] := by
  intro ss m n h
  obtain ⟨_, ⟨c, cs, hrest, hc, rfl⟩, h⟩ := spans_cats_cons.1 h
  exact ⟨[c], cs, ⟨c, hc, rfl⟩, hrest, h⟩

theorem reads_optional (c : Char) : Reads [optional c] fun w => w = [] ∨ w = [c] := by
  intro ss m n h
  obtain ⟨mid, hspan, h⟩ := spans_cats_cons.1 h
  obtain ⟨count, -, hcount, htimes⟩ := hspan
  have hcount : count ≤ 1 := hcount 1 rfl
  obtain ⟨w, hlength, hrest, rfl, hw⟩ := times_chars.1 htimes
  refine ⟨w, _, ?_, hrest, h⟩
  match w, hlength with
  | [], _ => exact .inl rfl
  | [d], _ => exact .inr (by rw [CharClass.contains_single.1 (hw d (.head _))])
  | _ :: _ :: _, hlength => simp at hlength; omega

/-- If all characters of what a tree matches are such, so are those of its repetitions. -/
theorem Reads.rep {r : Regex} {p : Char → Prop} (h : Reads [r] fun w => ∀ c ∈ w, p c)
    (greedy : Bool) (lo : Nat) (hi : Option Nat) :
    Reads [.rep greedy lo hi r] fun w => ∀ c ∈ w, p c := by
  have hround : ∀ {m n}, r.Spans m n →
      ∃ w rest, (∀ c ∈ w, p c) ∧ m.rest = w ++ rest ∧ n = m.skip w :=
    fun hspan => h [] _ _ hspan
  have htimes : ∀ (count : Nat) {m n}, Times r.Spans count m n →
      ∃ w rest, (∀ c ∈ w, p c) ∧ m.rest = w ++ rest ∧ n = m.skip w := by
    intro count
    induction count with
    | zero =>
      rintro m n rfl
      exact ⟨[], n.rest, nofun, rfl, n.skip_nil.symm⟩
    | succ count ih =>
      rintro m n ⟨mid, hspan, hlater⟩
      obtain ⟨w, rest, hw, hrest, rfl⟩ := hround hspan
      obtain ⟨w', rest', hw', hrest', rfl⟩ := ih hlater
      rw [rest_skip hrest] at hrest'
      exact ⟨w ++ w', rest', List.forall_mem_append.2 ⟨hw, hw'⟩,
        by rw [hrest, hrest', List.append_assoc], (m.skip_append w w').symm⟩
  intro ss m n hspan
  obtain ⟨mid, ⟨count, -, -, hcount⟩, hspan⟩ := spans_cats_cons.1 hspan
  obtain ⟨w, rest, hw, hrest, rfl⟩ := htimes count hcount
  exact ⟨w, rest, hw, hrest, hspan⟩

theorem Reads.imp {rs : List Regex} {language language' : List Char → Prop}
    (h : Reads rs language) (himp : ∀ w, language w → language' w) : Reads rs language' := by
  intro ss m n hspan
  obtain ⟨w, rest, hw, hrest, hspan⟩ := h _ _ _ hspan
  exact ⟨w, rest, himp w hw, hrest, hspan⟩

theorem Reads.append {rs rs' : List Regex} {language language' : List Char → Prop}
    (h : Reads rs language) (h' : Reads rs' language') :
    Reads (rs ++ rs') fun w => ∃ v v', language v ∧ language' v' ∧ w = v ++ v' := by
  intro ss m n hspan
  rw [List.append_assoc] at hspan
  obtain ⟨v, rest, hv, hrest, hspan⟩ := h _ _ _ hspan
  obtain ⟨v', rest', hv', hrest', hspan⟩ := h' _ _ _ hspan
  rw [rest_skip hrest] at hrest'
  refine ⟨v ++ v', rest', ⟨v, v', hv, hv', rfl⟩, by rw [hrest, hrest', List.append_assoc], ?_⟩
  rwa [m.skip_append]

/-- Between the ends of a text the trees match texts of the language only. -/
theorem Reads.of_isMatch {rs : List Regex} {language : List Char → Prop} (h : Reads rs language)
    {text : List Char} (hmatch : (cats rs).between.isMatch text = true) : language text := by
  obtain ⟨n, hspan, hend⟩ := isMatch_between.1 hmatch
  have hwhole : (cats (rs ++ [])).Spans ((cats rs).startReading text []) n := by
    rwa [List.append_nil]
  obtain ⟨w, rest, hw, hrest, rfl⟩ := h _ _ _ hwhole
  rw [rest_skip hrest] at hend
  have htext : text = w ++ rest := hrest
  rwa [htext, hend, List.append_nil]

/-- With a remainder after them the trees match texts of the language with remainders only. -/
theorem Reads.of_isMatch_remainder {rs : List Regex} {language : List Char → Prop}
    (h : Reads rs language) {g : Nat} {text : List Char}
    (hmatch : (cats (rs ++ [remainderTree g])).between.isMatch text = true) :
    ∃ w remainder, text = w ++ remainder ∧ language w ∧ IsRemainder remainder := by
  obtain ⟨n, hspan, hend⟩ := isMatch_between.1 hmatch
  obtain ⟨w, rest, hw, hrest, hspan⟩ := h _ _ _ hspan
  obtain ⟨hremainder, -⟩ := spans_remainderTree.1 ⟨hspan, hend⟩
  rw [rest_skip hrest] at hremainder
  exact ⟨w, rest, hrest, hw, hremainder⟩

theorem takes_chars (text u : List Char) : Takes (text.map char) text u := by
  intro ss m k out hss hrest h
  exact .literal hss hrest h

theorem takes_class {cls : CharClass} {c : Char} (hc : cls.contains c = true) (u : List Char) :
    Takes [.chars cls] [c] u := by
  intro ss m k out hss hrest h
  exact .cats hss (.char hrest hc h)

theorem takes_optional (c : Char) (u : List Char) : Takes [optional c] [c] u := by
  intro ss m k out hss hrest h
  have hhere : Picks m.toCursor
      ⟨.tree (.char c) :: .tree (.rep true 0 (some 0) (.char c)) :: .tree (cats ss) :: k,
        m.slots⟩ out :=
    .char hrest (CharClass.contains_single.2 rfl) (.only (m := m.skip [c]) rfl h)
  exact .cats hss (.first rfl hhere)

theorem takes_optional_of_ne {c : Char} {u : List Char} (hu : u.head? ≠ some c) :
    Takes [optional c] [] u := by
  intro ss m k out hss hrest h
  rw [m.skip_nil] at h
  refine .cats hss (.second rfl (.of_not_spans fun slots n hspan => ?_) h)
  obtain ⟨d, ds, hd, hcd, -⟩ := hspan
  obtain rfl := CharClass.contains_single.1 hcd
  rw [show m.rest = d :: ds from hd] at hrest
  exact hu (by rw [← List.nil_append u, ← hrest]; rfl)

theorem Takes.append {rs rs' : List Regex} {w w' u : List Char} (h : Takes rs w (w' ++ u))
    (h' : Takes rs' w' u) : Takes (rs ++ rs') (w ++ w') u := by
  intro ss m k out hss hrest hpicks
  rw [List.append_assoc] at hrest ⊢
  refine h _ _ _ _ (List.append_ne_nil_of_right_ne_nil _ hss) hrest ?_
  refine h' _ (m.skip w) _ _ hss (rest_skip hrest) ?_
  rwa [← m.skip_append]

/-- A text that the trees take is matched by them between its ends. -/
theorem Takes.isMatch {rs : List Regex} {w : List Char} (h : Takes rs w []) (g : Nat) :
    (cats (rs ++ [remainderTree g])).between.isMatch w = true := by
  let start := (cats (rs ++ [remainderTree g])).startReading w []
  have hstart : start.rest = w ++ [] := (List.append_nil w).symm
  have hend : (start.skip w).rest = [] := rest_skip hstart
  have hpicks := h [remainderTree g] start closing _ (List.cons_ne_nil _ _) hstart
    (Template.picks_remainder (.inl hend))
  rw [Regex.isMatch, searchSlots_between_of_picks hpicks]
  rfl

end Regex

namespace Template

variable {front v w u : List Char} {sep : List Regex} {language : List Char → Prop}

/-- The tree of a text, a placeholder, a separator and another placeholder, with the remainder. -/
def pairTree (front : List Char) (sep : List Regex) : Regex :=
  cats (front.map char ++
    .group 1 segmentTree :: (sep ++ [.group 2 segmentTree, remainderTree 3]))

/-- What the tree matches has a text of the separator after the first value. -/
theorem exists_split_of_isMatch (hsep : Reads sep language) {text : List Char}
    (h : (pairTree front sep).between.isMatch text = true) :
    ∃ v w rest, text = front ++ (v ++ (w ++ rest)) ∧ v ≠ [] ∧ language w := by
  obtain ⟨n, hspan, -⟩ := isMatch_between.1 h
  obtain ⟨rest, hfront, hspan⟩ := spans_cats_chars.1 hspan
  obtain ⟨mid, hfirst, hspan⟩ := spans_cats_cons.1 hspan
  obtain ⟨v, hv, rfl, hvalue⟩ := (spans_group rfl rfl).1 hfirst
  obtain ⟨w, left, hw, hleft, -⟩ := hsep _ _ _ hspan
  rw [rest_skip hfront] at hv
  refine ⟨v, w, left, ?_, (matchesWhole_segmentTree.1 hvalue).1, hw⟩
  rw [← hleft, ← hv]
  exact hfront

/-- The text without a slash after the second value is nothing. -/
theorem hopeless_remainder {m : Cursor} (hne : m.rest ≠ []) (hslash : '/' ∉ m.rest) (g : Nat) :
    Hopeless m (.tree (remainderTree g) :: closing) := by
  have hnil : ∀ values remainder, m.rest = Chunk.fillWith [] values ++ remainder →
      ¬IsRemainder remainder := by
    rintro values _ hrest (rfl | ⟨line, rfl, -⟩)
    · exact hne hrest
    · exact hslash (by rw [hrest]; exact List.mem_append_right _ List.mem_cons_self)
  have hreadable : ∀ c ∈ ([] : List Chunk), c.Readable := by simp
  have hpast : Hopeless m (.tree (cats (Chunk.trees 0 [] ++ [remainderTree g])) :: closing) :=
    Chunk.hopeless_trees hreadable hnil
  exact hpast

/-- The positions recorded where the values are these. -/
def pairReading (front v w u : List Char) (sep : List Regex) : Reading :=
  (((((pairTree front sep).startReading (front ++ (v ++ (w ++ u))) []).skip front).capture
    1 v).skip w).capture 2 u

/-- The groups of the placeholders have the values, and there is no remainder. -/
theorem groups_pairReading (hgroups : (pairTree front sep).lastGroup = 3) :
    let text := front ++ (v ++ (w ++ u))
    let slots := ((pairReading front v w u sep).record 1).slots
    groupText text slots 1 = some v ∧ groupText text slots 2 = some u ∧
      groupText text slots 3 = none := by
  intro text slots
  let start := (pairTree front sep).startReading text []
  have hvalue : (start.skip front).rest = v ++ (w ++ u) := rest_skip rfl
  have hafter : ((start.skip front).capture 1 v).rest = w ++ u :=
    rest_skip (m := start.skip front) hvalue
  have hlast : (((start.skip front).capture 1 v).skip w).rest = u ++ [] := by
    rw [rest_skip hafter, List.append_nil]
  have hof : (start.skip front).IsOf text := Reading.isOf_startReading.skip front
  have hroom : start.slots.length = 8 := by
    simp [start, startReading, startSlots, hgroups]
  have hroom' : ((start.skip front).capture 1 v).slots.length = 8 := by
    rw [Reading.capture_slots_length]
    exact hroom
  -- the end of the whole match is in no other group
  have hwhole : ∀ g, 0 < g →
      groupText text slots g = groupText text (pairReading front v w u sep).slots g :=
    fun g hg => groupText_set_of_ne (by omega) (by omega)
  refine ⟨?_, ?_, ?_⟩
  · rw [hwhole 1 (by decide), pairReading, Reading.groupText_capture_of_ne (by decide)]
    refine Reading.groupText_capture hof hvalue ?_
    change 2 * 1 + 1 < start.slots.length
    omega
  · rw [hwhole 2 (by decide), pairReading]
    refine Reading.groupText_capture ((hof.capture 1 v).skip w) hlast ?_
    change 2 * 2 + 1 < ((start.skip front).capture 1 v).slots.length
    omega
  · rw [hwhole 3 (by decide), pairReading, Reading.groupText_capture_of_ne (by decide),
      Reading.skip_slots, Reading.groupText_capture_of_ne (by decide)]
    exact groupText_startSlots (by decide)

section Values

variable (hv : v ≠ [] ∧ '/' ∉ v) (hu : u ≠ [] ∧ '/' ∉ u) (hsep : Reads sep language)
  (htakes : Takes sep w u)
  (hfirst : ∀ b after, v = b ++ after → b ≠ [] → after ≠ [] →
    ∀ x, language x → ¬x <+: after ++ (w ++ u))

include hv hu hsep htakes hfirst

theorem searchSlots_of_takes :
    (pairTree front sep).between.searchSlots (front ++ (v ++ (w ++ u))) =
      some ((pairReading front v w u sep).record 1).slots := by
  have hmember : ∀ {x : List Char}, '/' ∉ x → ∀ c ∈ x,
      (CharClass.compl (.single '/')).contains c = true :=
    fun hx c hc => CharClass.contains_compl_single.2 fun h => hx (h ▸ hc)
  refine searchSlots_between_of_picks ?_
  let start := (pairTree front sep).startReading (front ++ (v ++ (w ++ u))) []
  have hstart : start.rest = front ++ (v ++ (w ++ u)) := rfl
  have hvalue : (start.skip front).rest = v ++ (w ++ u) := rest_skip hstart
  have hafter : ((start.skip front).capture 1 v).rest = w ++ u :=
    rest_skip (m := start.skip front) hvalue
  have hlast : (((start.skip front).capture 1 v).skip w).rest = u ++ [] := by
    rw [rest_skip hafter, List.append_nil]
  refine .literal (List.cons_ne_nil _ _) hstart (.cats ?_ (.lazy_group hv.1 hvalue (hmember hv.2)
    (fun b after hb hbne hne => .of_not_spans fun slots n hspan => ?_) ?_))
  · simp
  · -- the separator would have to match within the value
    obtain ⟨x, rest, hx, hrest, -⟩ := hsep _ _ _ hspan
    have hleft : ((start.skip front).skip b).rest = after ++ (w ++ u) :=
      rest_skip (by rw [hvalue, hb, List.append_assoc])
    exact hfirst b after hb hbne hne x hx ⟨rest, hrest.symm.trans hleft⟩
  · refine htakes _ _ _ _ (List.cons_ne_nil _ _) hafter (.cats (List.cons_ne_nil _ _)
      (.lazy_group (m := ((start.skip front).capture 1 v).skip w) hu.1 hlast (hmember hu.2)
        (fun b after hb _ hne => ?_) ?_))
    · have hrest : ((((start.skip front).capture 1 v).skip w).skip b).rest = after :=
        rest_skip (by rw [hlast, hb, List.append_nil])
      refine hopeless_remainder (by rw [hrest]; exact hne) ?_ 3
      rw [hrest]
      exact fun h => hu.2 (by rw [hb]; exact List.mem_append_right _ h)
    · have hend : (pairReading front v w u sep).rest = [] := rest_skip (m := _) hlast
      have hpicks : Picks _ _ (((pairReading front v w u sep).finish 3).record 1).slots :=
        picks_remainder (.inl hend)
      rwa [Reading.finish, if_pos hend] at hpicks

/-- A match gives the value up to the first place where the separator can match, and the value
after the separator. -/
theorem matchText_of_takes {t : Template} {first second : String}
    (hregex : t.regex = (pairTree front sep).between)
    (hgroups : (pairTree front sep).lastGroup = 3)
    (hnames : t.variableNames = [first, second]) :
    t.matchText (String.ofList (front ++ (v ++ (w ++ u)))) =
      some ⟨[(first, String.ofList v), (second, String.ofList u)], ""⟩ := by
  obtain ⟨hvalue, hsecond, hremainder⟩ := groups_pairReading (v := v) (w := w) (u := u) hgroups
  have hbetween : (pairTree front sep).between.lastGroup = 3 := by
    simp [between, lastGroup, hgroups]
  have hrange : List.range (3 + 1) = [0, 1, 2, 3] := rfl
  rw [matchText, String.toList_ofList, hregex, Regex.search,
    searchSlots_of_takes hv hu hsep htakes hfirst, Option.map_some, Option.map_some, hbetween,
    hrange, hnames]
  simp only [List.map_cons, List.map_nil, hvalue, hsecond, hremainder]
  have hlength : [v, u].length = [first, second].length := rfl
  exact congrArg some (ofGroups_append hlength _ none)

end Values

end Template

end Parley
