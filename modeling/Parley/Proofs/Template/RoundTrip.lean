import Parley.Proofs.Regex.Preference
import Parley.Proofs.Template.Match

/-!
# Putting values in and matching them again

Values put into a template are found again where they were put, if each of them ends at the first
place where the literal after it can begin. A placeholder is a lazy group, so the preferred run
ends it as soon as the rest of the template can match; the condition says that this is not before
the end of the value.

## Main definitions

- `EndsBefore`, `Chunk.Separated` — the literal after a value begins nowhere within it
- `Template.written` — the text that stands for a name in the output

## Main results

- `Chunk.picks_trees` — the preferred run through the chunks reads the values that were put in
- `Template.fill_eq` — the output of a substitution
- `Template.match_substitute` — a match of the output reports the values that were put in
-/

namespace Parley

open Regex Frames

-- ════════════════════════════════════════════════════════════════════════
-- The remainder
-- ════════════════════════════════════════════════════════════════════════

/-- A remainder that is a slash or nothing is matched as such. -/
theorem Template.picks_remainder {m : Reading} {index : Nat} (h : m.rest = [] ∨ m.rest = ['/']) :
    Picks m.toCursor ⟨.tree (remainderTree index) :: closing, m.slots⟩
      ((m.finish index).record 1).slots := by
  obtain hend | hslash := h
  · have hhopeless : Hopeless m.toCursor
        (.tree (group index lineTree) :: .tree (rep true 0 (some 0) (group index lineTree)) ::
          closing) := by
      refine .of_not_spans fun slots n hspan => ?_
      obtain ⟨w, hrest, -, hwhole⟩ := (spans_group rfl rfl).mp hspan
      obtain ⟨line, rfl, -⟩ := matchesWhole_lineTree.mp hwhole
      rw [show m.rest = _ from hrest] at hend
      cases hend
    rw [Reading.finish, if_pos hend]
    exact .second rfl hhopeless (.closing hend)
  · rw [Reading.finish, if_neg (by simp [hslash]), hslash]
    have hend : ((m.record (2 * index)).skip ['/']).rest = [] :=
      rest_skip (m := m) (w := ['/']) hslash
    have hclose : Picks ((m.record (2 * index)).skip ['/']).toCursor
        ⟨.close index :: .tree (rep true 0 (some 0) (group index lineTree)) :: closing,
          ((m.record (2 * index)).skip ['/']).slots⟩
        ((m.capture index ['/']).record 1).slots :=
      .close (.only (m := m.capture index ['/']) rfl (.closing hend))
    refine .first rfl (.group (.only (m := m.record (2 * index)) rfl ?_))
    refine .char hslash (CharClass.contains_single.mpr rfl) ?_
    exact .only rfl (.second rfl (.chars_of_end hend _) hclose)

-- ════════════════════════════════════════════════════════════════════════
-- Values before literals
-- ════════════════════════════════════════════════════════════════════════

/-- A literal does not begin within the value before it, but for its start. -/
def EndsBefore (v text : List Char) : Prop :=
  ∀ i, 0 < i → i < v.length → ¬text <+: (v ++ text).drop i

namespace Chunk

/-- After each value comes the end, or a literal that does not begin within the value. -/
def Separated : List Chunk → List (List Char) → Prop
  | [], _ => True
  | .literal _ :: rest, values => Separated rest values
  | .placeholder _ :: rest, [] => Separated rest []
  | .placeholder _ :: rest, v :: values =>
    (∀ c, rest.head? = some c → ∃ text, c = .literal text ∧ EndsBefore v text.toList) ∧
      Separated rest values

/-- Where a text cannot be read as chunks and a remainder, their trees are hopeless. -/
theorem hopeless_trees {chunks : List Chunk} {index g : Nat} {m : Cursor}
    (hreadable : ∀ c ∈ chunks, c.Readable)
    (h : ∀ values remainder, m.rest = fillWith chunks values ++ remainder →
      ¬IsRemainder remainder) :
    Hopeless m (.tree (cats (trees index chunks ++ [remainderTree g])) :: closing) := by
  refine hopeless_of_not_completes fun slots n hn => ?_
  obtain ⟨_, hspan, last, ⟨hend, rfl⟩, -⟩ := hn
  have hend : last.rest = [] := by simpa [Assertion.holds] using hend
  obtain ⟨values, -, ⟨remainder, hm⟩, hspan⟩ := (spans_trees hreadable).mp hspan
  obtain ⟨hremainder, -⟩ := spans_remainderTree.mp ⟨hspan, hend⟩
  rw [Reading.across_toCursor] at hremainder
  have hrest := rest_skip hm.symm
  exact h values remainder hm.symm (hrest ▸ hremainder)

/-- If a literal and what follows it are read later than they were put, then the literal begins
there. -/
theorem prefix_of_fillWith_trim {text : String} {rest : List Chunk}
    {values values' : List (List Char)} {after remainder : List Char}
    (h : after ++ fillWith (.literal text :: rest) values =
      fillWith (trim (.literal text :: rest)) values' ++ remainder)
    (hremainder : IsRemainder remainder) : text.toList <+: after ++ text.toList := by
  by_cases hrest : rest = []
  · subst hrest
    simp only [trim, fillWith, List.append_nil, String.toList_ofList] at h
    by_cases hslash : text.toList.getLast? = some '/'
    · -- the slash that is no part of the pattern is the one that begins the remainder
      have htext := dropFinalSlash_of_getLast? hslash
      obtain rfl | ⟨line, rfl, -⟩ := hremainder
      · have hlength := congrArg List.length h
        rw [htext] at hlength
        simp [dropFinalSlash_concat] at hlength
        omega
      · refine ⟨line, ?_⟩
        rw [h]
        nth_rewrite 1 [htext]
        simp
    · rw [dropFinalSlash_of_ne hslash] at h
      exact ⟨remainder, h.symm⟩
  · rw [trim_cons hrest, fillWith, fillWith, List.append_assoc] at h
    have hbegins : text.toList <+: (after ++ text.toList) ++ fillWith rest values := by
      rw [List.append_assoc, h]
      exact List.prefix_append ..
    exact List.prefix_of_prefix_length_le hbegins (List.prefix_append ..) (by simp)

/-- A placeholder without a constraint takes its value, unless what follows can match before. -/
theorem picks_placeholder {p : Placeholder} {m : Reading} {index : Nat} {v rest : List Char}
    {rs : List Regex} {k : Frames} {out : Slots} (hp : p.constraint = none) (hv : p.Admits v)
    (hrs : rs ≠ []) (hrest : m.rest = v ++ rest)
    (hshorter : ∀ b after, v = b ++ after → b ≠ [] → after ≠ [] →
      Hopeless (m.skip b).toCursor (.tree (cats rs) :: k))
    (h : Picks (m.capture index v).toCursor ⟨.tree (cats rs) :: k, (m.capture index v).slots⟩ out) :
    Picks m.toCursor ⟨.tree (cats (.group index p.tree :: rs)) :: k, m.slots⟩ out := by
  obtain ⟨hne, hslash⟩ := (Placeholder.admits_of_unconstrained hp).mp hv
  rw [p.tree_of_unconstrained hp]
  refine .cats hrs (.lazy_group hne hrest (fun c hc => ?_) hshorter h)
  exact CharClass.contains_compl_single.mpr fun heq => hslash (heq ▸ hc)

/-- The preferred run through the chunks reads the values that were put in. -/
theorem picks_trees {chunks : List Chunk} {values : List (List Char)} {index g : Nat} {m : Reading}
    (hreadable : ∀ c ∈ chunks, c.Readable)
    (hunconstrained : ∀ p ∈ Chunk.placeholders chunks, p.constraint = none)
    (hadmitted : List.Forall₂ Placeholder.Admits (Chunk.placeholders chunks) values)
    (hseparated : Separated chunks values) (hrest : m.rest = fillWith chunks values) :
    Picks m.toCursor
      ⟨.tree (cats (trees index (trim chunks) ++ [remainderTree g])) :: closing, m.slots⟩
      (((m.across index (trim chunks) values).finish g).record 1).slots := by
  induction chunks using lastInduction generalizing values index m with
  | nil => exact Template.picks_remainder (.inl hrest)
  | literal text =>
    have hsplit := fillWith_trim [.literal text] values
    rw [← hrest] at hsplit
    simp only [trim, fillWith, List.append_nil] at hsplit
    simp only [trim, trees, Reading.across, List.append_nil]
    refine .literal (by simp) hsplit (Template.picks_remainder ?_)
    rw [rest_skip hsplit]
    split
    · exact .inr rfl
    · exact .inl rfl
  | placeholder p =>
    obtain ⟨v, _, hv, hnil, rfl⟩ := List.forall₂_cons_left_iff.mp hadmitted
    cases hnil
    have hp := hunconstrained p (.head _)
    refine picks_placeholder hp hv (by simp) hrest (fun b after hb _ hafter => ?_) ?_
    · -- only a slash can follow the value, and there is none in it
      have hreadables : ∀ c ∈ ([] : List Chunk), c.Readable := by simp
      refine hopeless_trees hreadables fun _ remainder hm => ?_
      rw [fillWith, fillWith, List.append_nil, hb] at hrest
      obtain rfl : after = remainder := (rest_skip hrest).symm.trans hm
      rintro (rfl | ⟨line, rfl, -⟩)
      · exact hafter rfl
      · have hslash := ((Placeholder.admits_of_unconstrained hp).mp hv).2
        exact hslash (by simp [hb])
    · exact Template.picks_remainder (.inl (rest_skip hrest))
  | cons c rest hne ih =>
    have hreadables := fun d hd => hreadable d (List.mem_cons_of_mem c hd)
    rw [trim_cons hne]
    cases c with
    | literal text =>
      rw [trees, List.append_assoc]
      refine .literal (by simp) hrest ?_
      exact ih hreadables hunconstrained hadmitted hseparated (rest_skip hrest)
    | placeholder p =>
      obtain ⟨v, others, hv, hothers, rfl⟩ := List.forall₂_cons_left_iff.mp hadmitted
      obtain ⟨hnext, hseparated⟩ := hseparated
      have hp := hunconstrained p (.head _)
      refine picks_placeholder hp hv (by simp) hrest (fun b after hb hne' hafter => ?_) ?_
      · refine hopeless_trees (readable_trim hreadables) fun values remainder hm hremainder => ?_
        obtain ⟨d, ds, rfl⟩ := List.exists_cons_of_ne_nil hne
        obtain ⟨text, rfl, hends⟩ := hnext d rfl
        rw [fillWith, hb, List.append_assoc] at hrest
        have hm := (rest_skip hrest).symm.trans hm
        refine hends b.length (List.length_pos_of_ne_nil hne') ?_ ?_
        · have := List.length_pos_of_ne_nil hafter
          rw [hb, List.length_append]
          omega
        · rw [hb, List.append_assoc, List.drop_left]
          exact prefix_of_fillWith_trim hm hremainder
      · exact ih hreadables (fun q hq => hunconstrained q (.tail _ hq)) hothers hseparated
          (rest_skip (m := m) hrest)

end Chunk

-- ════════════════════════════════════════════════════════════════════════
-- Substitution
-- ════════════════════════════════════════════════════════════════════════

/-- Values that depend on the placeholder are separated if the literals after them are. -/
theorem Chunk.separated_of_infix {chunks : List Chunk} {e : Placeholder → List Char}
    (hadjacent : ∀ p q, ¬[.placeholder p, .placeholder q] <:+: chunks)
    (hends : ∀ p text, [.placeholder p, .literal text] <:+: chunks → EndsBefore (e p) text.toList) :
    Separated chunks ((Chunk.placeholders chunks).map e) := by
  induction chunks with
  | nil => trivial
  | cons c rest ih =>
    have hrest := ih (fun p q hpq => hadjacent p q (List.infix_cons hpq))
      (fun p text hp => hends p text (List.infix_cons hp))
    cases c with
    | literal text => exact hrest
    | placeholder p =>
      refine ⟨fun d hd => ?_, hrest⟩
      obtain ⟨ds, rfl⟩ := List.head?_eq_some_iff.mp hd
      have hpair : [.placeholder p, d] <:+: .placeholder p :: d :: ds :=
        (List.prefix_append [.placeholder p, d] ds).isInfix
      cases d with
      | literal text => exact ⟨text, rfl, hends p text hpair⟩
      | placeholder q => exact absurd hpair (hadjacent p q)

/-- There is no slash in an encoded value. -/
theorem not_mem_encodeSlashes (s : String) : '/' ∉ (encodeSlashes s).toList := by
  rw [encodeSlashes, String.toList_ofList, List.mem_flatMap]
  rintro ⟨c, -, hc⟩
  split at hc
  · exact absurd hc (by decide)
  · next hne => exact hne (List.mem_singleton.mp hc).symm

theorem encodeSlashes_ne_nil {s : String} (h : s ≠ "") : (encodeSlashes s).toList ≠ [] := by
  have hs : s.toList ≠ [] := by rwa [ne_eq, String.toList_eq_nil_iff]
  obtain ⟨c, cs, hc⟩ := List.exists_cons_of_ne_nil hs
  rw [encodeSlashes, String.toList_ofList, hc, List.flatMap_cons]
  split <;> simp

/-- Chunks without constraints are readable if their literals stand for themselves. -/
theorem Chunk.readable_of_unconstrained {chunks : List Chunk}
    (hliterals : ∀ text, .literal text ∈ chunks → ∀ c ∈ text.toList, c ∉ meaningful)
    (hunconstrained : ∀ p ∈ Chunk.placeholders chunks, p.constraint = none) :
    ∀ c ∈ chunks, c.Readable := by
  intro c hc
  cases c with
  | literal text => exact hliterals text hc
  | placeholder p =>
    intro constraint hconstraint
    rw [hunconstrained p (mem_placeholders.mpr hc)] at hconstraint
    cases hconstraint

namespace Template

/-- The text that stands for a name in the output. -/
def written (value? : String → Option String) (encode : List String) (name : String) : String :=
  if encode.contains name then encodeSlashes ((value? name).getD "") else (value? name).getD ""

variable {value? : String → Option String} {encode : List String}

/-- A value that is not empty is written as a text that may stand for the placeholder, if its
slashes are encoded. -/
theorem admits_written {p : Placeholder} {v : String} (hp : p.constraint = none)
    (hvalue : value? p.name = some v) (hne : v ≠ "") (hslash : '/' ∈ v.toList → p.name ∈ encode) :
    p.Admits (written value? encode p.name).toList := by
  rw [Placeholder.admits_of_unconstrained hp, written, hvalue, Option.getD_some]
  split
  · exact ⟨encodeSlashes_ne_nil hne, not_mem_encodeSlashes v⟩
  · next hencode =>
    refine ⟨by rwa [ne_eq, String.toList_eq_nil_iff], fun hmem => hencode ?_⟩
    exact List.contains_iff_mem.mpr (hslash hmem)

/-- The output of a substitution where no value is missing and none is constrained. -/
theorem fill_eq {chunks : List Chunk} {allowUnresolved : Bool}
    (hunconstrained : ∀ p ∈ Chunk.placeholders chunks, p.constraint = none)
    (hvalue : ∀ p ∈ Chunk.placeholders chunks, ∃ v, value? p.name = some v) :
    fill value? encode allowUnresolved chunks =
      .ok (String.ofList (Chunk.fillWith chunks
        ((Chunk.placeholders chunks).map fun p => (written value? encode p.name).toList))) := by
  induction chunks with
  | nil => rfl
  | cons c rest ih =>
    cases c with
    | literal text =>
      rw [fill, ih hunconstrained hvalue, Chunk.placeholders_literal, Chunk.fillWith,
        String.ofList_append, String.ofList_toList]
      rfl
    | placeholder p =>
      obtain ⟨v, hv⟩ := hvalue p (.head _)
      have hcheck : p.check v = .ok v := by
        simp [Placeholder.check, Placeholder.accepts, hunconstrained p (.head _)]
      rw [Chunk.placeholders_placeholder, List.map_cons, Chunk.fillWith, String.ofList_append,
        String.ofList_toList, fill, ih (fun q hq => hunconstrained q (.tail _ hq))
          (fun q hq => hvalue q (.tail _ hq)), written, hv]
      simp only [hcheck]
      rfl

/-- Each occurrence of a name has the value of the name. -/
theorem valuesOf_map (t : Template) (e : String → String) (name : String) :
    t.valuesOf (t.placeholders.map fun p => (e p.name).toList) name =
      List.replicate (t.variableNames.count name) (e name) := by
  unfold valuesOf variableNames
  induction t.placeholders with
  | nil => rfl
  | cons p ps ih =>
    rw [List.map_cons, List.zip_cons_cons, List.map_cons]
    by_cases hp : p.name = name
    · rw [List.filter_cons_of_pos (by simpa using hp), List.map_cons, ih, hp, List.count_cons_self,
        List.replicate_succ, String.ofList_toList]
    · rw [List.filter_cons_of_neg (by simpa using hp), ih, List.count_cons_of_ne hp]

/-- The chunks with admitted values are an input of the grammar; only a final slash is left. -/
theorem parses_fillWith {chunks : List Chunk} {values : List (List Char)}
    (h : List.Forall₂ Placeholder.Admits (Chunk.placeholders chunks) values) :
    Parses chunks (Chunk.fillWith chunks values) values
      (if Chunk.endsInSlash chunks then ['/'] else []) := by
  refine ⟨h, ?_, ?_⟩
  · rw [Chunk.stem_eq]
    exact Chunk.fillWith_trim chunks values
  · split
    · exact .inr ⟨[], rfl, List.not_mem_nil⟩
    · exact .inl rfl

variable {pattern : String} {t : Template}

/-- An input is matched with the values of the preferred run through the tree of the template. -/
theorem matchInput_of_picks (h : compile pattern = .ok t) (hreadable : ∀ c ∈ t.chunks, c.Readable)
    {input : List Char} {values : List (List Char)} {remainder : List Char}
    (hparses : Parses t.chunks input values remainder)
    (hpicks : Picks ((tree t.chunks).startReading input []).toCursor
      ⟨.tree (tree t.chunks) :: closing, ((tree t.chunks).startReading input []).slots⟩
      ((reading t.chunks input values).record 1).slots) :
    t.matchInput (some (String.ofList input)) = some (t.matchOf values remainder) := by
  have hsearch : t.regex.searchSlots input =
      some ((reading t.chunks input values).record 1).slots := by
    rw [regex_eq h hreadable]
    exact searchSlots_between_of_picks hpicks
  rw [matchInput, Option.bind_some, matchText, String.toList_ofList, Regex.search, hsearch,
    Option.map_some, Option.map_some, regex_eq h hreadable]
  exact congrArg some (ofGroups_reading hreadable hparses _)

/-- Values put into a template are found again by a match of the output, each name with what was
written for it at every occurrence, if the literal after a value begins nowhere within it. -/
theorem match_substitute (value? : String → Option String) (encode : List String)
    (h : compile pattern = .ok t)
    (hliterals : ∀ text, .literal text ∈ t.chunks → ∀ c ∈ text.toList, c ∉ meaningful)
    (hunconstrained : ∀ p ∈ t.placeholders, p.constraint = none)
    (hnames : ∀ p ∈ t.placeholders, p.name ≠ finalGroupName)
    (hadjacent : ∀ p q, ¬[.placeholder p, .placeholder q] <:+: t.chunks)
    (hvalues : ∀ p ∈ t.placeholders, ∃ v, value? p.name = some v ∧ v ≠ "" ∧
      ('/' ∈ v.toList → p.name ∈ encode))
    (hends : ∀ p text, [.placeholder p, .literal text] <:+: t.chunks →
      EndsBefore (written value? encode p.name).toList text.toList)
    (allowUnresolved : Bool) :
    ∃ out m, t.substitute value? encode allowUnresolved = .ok out ∧
      t.matchInput (some out) = some m ∧
      (∀ p ∈ t.placeholders, m.get? p.name =
        some (List.replicate (t.variableNames.count p.name) (written value? encode p.name))) ∧
      m.get? finalGroupName = some [if Chunk.endsInSlash t.chunks then "/" else ""] := by
  have hreadable := Chunk.readable_of_unconstrained hliterals hunconstrained
  let values := t.placeholders.map fun p => (written value? encode p.name).toList
  let input := Chunk.fillWith t.chunks values
  let remainder : List Char := if Chunk.endsInSlash t.chunks then ['/'] else []
  have hadmitted : List.Forall₂ Placeholder.Admits t.placeholders values := by
    refine List.forall₂_map_right_iff.mpr (List.forall₂_same.mpr fun p hp => ?_)
    obtain ⟨v, hv, hne, hslash⟩ := hvalues p hp
    exact admits_written (hunconstrained p hp) hv hne hslash
  have hmatch : t.matchInput (some (String.ofList input)) = some (t.matchOf values remainder) :=
    matchInput_of_picks h hreadable (parses_fillWith hadmitted)
      (Chunk.picks_trees hreadable hunconstrained hadmitted
        (Chunk.separated_of_infix hadjacent hends) rfl)
  refine ⟨String.ofList input, _, ?_, hmatch, fun p hp => ?_, ?_⟩
  · exact fill_eq hunconstrained fun p hp => (hvalues p hp).imp fun _ hv => hv.1
  · rw [get?_matchOf remainder hadmitted.length_eq hp (hnames p hp)]
    exact congrArg some (valuesOf_map t (written value? encode) p.name)
  · rw [TemplateMatch.get?, if_pos rfl, matchOf]
    show some [String.ofList (if _ then _ else _)] = _
    split <;> rfl

/-- A name that occurs twice, with a slash in its value. -/
theorem repeated_name_round_trips :
    ∃ t out m, compile "\x7ba\x7d-\x7ba\x7d/" = .ok t ∧
      t.substitute (fun _ => some "x/y") ["a"] false = .ok out ∧ t.matchInput (some out) = some m ∧
      m.get? "a" = some ["x%2Fy", "x%2Fy"] ∧ m.get? finalGroupName = some ["/"] := by
  let chunks : List Chunk :=
    [.placeholder ⟨"a", none⟩, .literal "-", .placeholder ⟨"a", none⟩, .literal "/"]
  let t : Template := ⟨"\x7ba\x7d-\x7ba\x7d/", chunks, (tree chunks).between⟩
  have hcompile : compile "\x7ba\x7d-\x7ba\x7d/" = .ok t := by decide +kernel
  have hliterals : ∀ text, .literal text ∈ t.chunks → ∀ c ∈ text.toList, c ∉ meaningful := by
    intro text htext
    simp only [t, chunks, List.mem_cons, reduceCtorEq, Chunk.literal.injEq, List.not_mem_nil,
      false_or, or_false] at htext
    obtain rfl | rfl := htext
    · simp [meaningful]
    · simp [meaningful]
  have hadjacent : ∀ p q, ¬[.placeholder p, .placeholder q] <:+: t.chunks := by
    intro p q
    simp [t, chunks, List.infix_cons_iff, List.cons_prefix_cons]
  have hends : ∀ p text, [.placeholder p, .literal text] <:+: t.chunks →
      EndsBefore (written (fun _ => some "x/y") ["a"] p.name).toList text.toList := by
    intro p text hpair
    have hp : p = ⟨"a", none⟩ ∧ (text = "-" ∨ text = "/") := by
      simpa [t, chunks, List.infix_cons_iff, List.cons_prefix_cons, ← and_or_left] using hpair
    have hwritten : ∀ i < 5, 0 < i →
        ¬"-".toList <+: ("x%2Fy".toList ++ "-".toList).drop i ∧
        ¬"/".toList <+: ("x%2Fy".toList ++ "/".toList).drop i := by decide
    obtain ⟨rfl, rfl | rfl⟩ := hp
    · exact fun i hi hlength => (hwritten i hlength hi).1
    · exact fun i hi hlength => (hwritten i hlength hi).2
  have hvalues : ∀ p ∈ t.placeholders, ∃ v, some "x/y" = some v ∧ v ≠ "" ∧
      ('/' ∈ v.toList → p.name ∈ ["a"]) := by
    intro p hp
    refine ⟨"x/y", rfl, by decide, fun _ => ?_⟩
    simp only [t, chunks, placeholders, Chunk.placeholders_placeholder,
      Chunk.placeholders_literal, Chunk.placeholders_nil, List.mem_cons, List.not_mem_nil,
      or_false, or_self] at hp
    rw [hp]
    exact .head _
  obtain ⟨out, m, hout, hm, ha, hremainder⟩ := match_substitute (fun _ => some "x/y") ["a"]
    hcompile hliterals (by decide) (by decide) hadjacent hvalues hends false
  exact ⟨t, out, m, hcompile, hout, hm, ha ⟨"a", none⟩ (.head _), hremainder⟩

end Template

end Parley
