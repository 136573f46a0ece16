import Parley.Proofs.Dispatch.Binding
import Parley.Proofs.Dispatch.Order
import Parley.Proofs.Template.Numbering

/-!
# What is bound after a selection

A handler is selected if its patterns accept the facets of a message, in one of two readings. Its
arguments are bound with the reading as a template only, which is matched for a second time. If it
was the template that accepted, then every name that it declares has a text, if that of a group
that took no part in the match. If it was not, or if it does not declare the name, then what is
bound is the null value, and that is no failure.

## Main results

- `Handler.exists_matchPath` — a selected handler accepts the facet in some reading
- `FacetPattern.template_of_matchPath` — a template that accepts a value matches it
- `Handler.rawValue_of_isMatch` — the text of a name that the template declares
- `Handler.rawValue_eq_none` — a name without a text
- `captures_agree_with_selection` — what is bound for a selected handler
-/

namespace Parley

variable {γ : Type}

/-- A template that accepts a value matches it. -/
theorem FacetPattern.template_of_matchPath {p : FacetPattern} {value : Option String}
    (h : p.matchPath value = some .template) :
    ∃ t v, p.template = some t ∧ value = some v ∧ t.isMatch v := by
  unfold matchPath at h
  split at h
  · cases h
  · split at h
    · cases h
    · next v =>
      split at h
      · cases h
      · split at h
        · next hmatch =>
          cases ht : p.template with
          | none =>
            rw [ht] at hmatch
            cases hmatch
          | some t =>
            rw [ht] at hmatch
            exact ⟨t, v, rfl, rfl, hmatch⟩
        · cases h

namespace Handler

variable {h : Handler γ} {m : Message} {facet name : String} {p : FacetPattern}

/-- A selected handler accepts the facet in some reading. -/
theorem exists_matchPath {hs : List (Handler γ)} (hh : h ∈ selectCandidates m hs)
    (hp : h.patterns.get? facet = some p) : ∃ path, p.matchPath (m.get? facet) = some path := by
  have haccepts := List.all_eq_true.mp (mem_selectCandidates.mp hh).2
  obtain ⟨before, after, hentries, -⟩ := List.lookup_eq_some_iff.mp hp
  have hmem : (facet, p) ∈ h.patterns.entries := by simp [hentries]
  exact Option.isSome_iff_exists.mp (haccepts _ hmem)

theorem rawValue_capture (hp : h.patterns.get? facet = some p) (target : ValueType) :
    h.rawValue m (.capture facet name target) =
      (p.template.bind fun t => t.matchInput (m.get? facet)).bind fun t => t.first? name := by
  change (h.captures m facet).bind _ = _
  rw [captures, hp]
  rfl

/-- If the template matches, and has as many groups as it should, then a name that it declares has
the text of the group with its place. -/
theorem rawValue_of_isMatch (hp : h.patterns.get? facet = some p) {t : Template} {v : String}
    (ht : p.template = some t) (hv : m.get? facet = some v) (hmatch : t.isMatch v)
    (hcount : t.regex.lastGroup = t.placeholders.length + 1) (hname : name ≠ finalGroupName)
    (hmem : name ∈ t.variableNames) (target : ValueType) :
    ∃ groups, t.regex.search v.toList = some groups ∧
      h.rawValue m (.capture facet name target) = some (String.ofList
        (Template.textOf groups (t.variableNames.idxOf name + 1))) := by
  rw [← Template.matchInput_isSome, Option.isSome_iff_exists] at hmatch
  obtain ⟨found, hfound⟩ := hmatch
  obtain ⟨groups, hsearch, rfl⟩ := Option.map_eq_some_iff.mp hfound
  have hgroups : groups.length = t.variableNames.length + 2 := by
    rw [Regex.length_of_search hsearch, hcount, Template.variableNames, List.length_map]
  refine ⟨groups, hsearch, ?_⟩
  rw [rawValue_capture hp, ht, Option.bind_some, hv, hfound, Option.bind_some,
    Template.first?_of_count hgroups hname hmem]

/-- A name has no text if there is no template, the template does not match or it does not declare
the name. -/
theorem rawValue_eq_none (hp : h.patterns.get? facet = some p) (hname : name ≠ finalGroupName)
    (hnone : p.template = none ∨
      ∃ t, p.template = some t ∧
        ((∀ v, m.get? facet = some v → ¬t.isMatch v) ∨ name ∉ t.variableNames))
    (target : ValueType) : h.rawValue m (.capture facet name target) = none := by
  rw [rawValue_capture hp]
  obtain ht | ⟨t, ht, hnone⟩ := hnone
  · rw [ht]
    rfl
  rw [ht, Option.bind_some]
  cases hfound : t.matchInput (m.get? facet) with
  | none => rfl
  | some found =>
    obtain ⟨v, hv, hmatch⟩ := Option.bind_eq_some_iff.mp hfound
    obtain ⟨groups, hsearch, rfl⟩ := Option.map_eq_some_iff.mp hmatch
    have hmem : name ∉ t.variableNames := by
      refine hnone.resolve_left fun hno => hno v hv ?_
      rw [← Template.matchInput_isSome, ← hv, hfound]
      rfl
    have hgroups : groups ≠ [] :=
      List.ne_nil_of_length_eq_add_one (Regex.length_of_search hsearch)
    exact Template.first?_of_not_mem hgroups hname hmem

end Handler

/-- A selected handler accepts the facet in some reading, and what is bound for a name agrees with
it. If the template accepted, it matches. If it matches, and its pattern has one group for each
placeholder and one for the remainder, then a name that it declares is bound to what its first
place captured: the text of the group with that place, which is the group that the parenthesis of
the placeholder opens, if all of them and that of the remainder open groups. If there is no
template, if it does not match or if it does not declare the name, the null value is bound, and no
failure comes from it. -/
theorem captures_agree_with_selection {m : Message} {hs : List (Handler γ)} {h : Handler γ}
    (hh : h ∈ selectCandidates m hs) {facet name : String} {p : FacetPattern}
    (hp : h.patterns.get? facet = some p) (hname : name ≠ finalGroupName) (target : ValueType) :
    (∃ path, p.matchPath (m.get? facet) = some path) ∧
    (p.matchPath (m.get? facet) = some .template →
      ∃ t v, p.template = some t ∧ m.get? facet = some v ∧ t.isMatch v) ∧
    (∀ t v, p.template = some t → m.get? facet = some v → t.isMatch v →
      t.regex.lastGroup = t.placeholders.length + 1 → name ∈ t.variableNames →
      let first := t.variableNames.idxOf name
      ∃ groups text, t.regex.search v.toList = some groups ∧
        text = String.ofList (Template.textOf groups (first + 1)) ∧
        ((h.captures m facet).bind fun found => found.first? name) = some text ∧
        h.Binds m (.capture facet name target) (convert (some text) target) ∧
        ∀ own, t.Owns own → t.OpensRemainder t.regex.lastGroup → own[first]? = some (first + 1)) ∧
    ((p.template = none ∨ ∃ t, p.template = some t ∧
        ((∀ v, m.get? facet = some v → ¬t.isMatch v) ∨ name ∉ t.variableNames)) →
      h.Binds m (.capture facet name target) (.ok target.nullValue)) := by
  have hbinds := h.binds_value m (.capture facet name target)
  refine ⟨Handler.exists_matchPath hh hp, FacetPattern.template_of_matchPath,
    fun t v ht hv hmatch hcount hmem => ?_, fun hnone => ?_⟩
  · obtain ⟨groups, hsearch, hraw⟩ :=
      Handler.rawValue_of_isMatch hp ht hv hmatch hcount hname hmem target
    refine ⟨groups, _, hsearch, rfl, hraw, ?_, fun own hown hremainder => ?_⟩
    · rwa [Handler.value, hraw] at hbinds
    · have hplace : t.variableNames.idxOf name < t.placeholders.length := by
        have := List.idxOf_lt_length_of_mem hmem
        rwa [Template.variableNames, List.length_map] at this
      rw [hcount] at hremainder
      rw [hown.eq_range' hremainder, List.getElem?_range' hplace]
      simp [Nat.add_comm]
  · rwa [Handler.value, Handler.rawValue_eq_none hp hname hnone] at hbinds

-- ════════════════════════════════════════════════════════════════════════
-- A number after a hash
-- ════════════════════════════════════════════════════════════════════════

/-- The tree of the template below. -/
def issueTree : Regex :=
  .cats [.char '#', .group 1 segmentTree, remainderTree 2]

/-- A template that is no regular expression. -/
def issueTemplate : Template :=
  ⟨"#\x7bn\x7d", [.literal "#", .placeholder ⟨"n", none⟩], issueTree.between⟩

/-- The pattern of issues has the reading as a template only. -/
def issuePattern : FacetPattern :=
  ⟨"#\x7bn\x7d", none, some issueTemplate⟩

/-- A handler of issues. -/
def issueHandler : Handler Unit :=
  ⟨"issue", (∅ : Table FacetPattern).insert textFacet issuePattern,
    [.capture textFacet "n" .int, .capture textFacet "m" .int], false,
    fun _ => ⟨[], .reply .nothing⟩⟩

/-- A message about the third issue. -/
def issueMessage : Message :=
  Message.insert { channel := "chat" } textFacet "#3"

theorem compile_issuePattern : FacetPattern.compile "#\x7bn\x7d" = .ok issuePattern := by
  decide +kernel

theorem search_issueTemplate :
    issueTemplate.regex.search "#3".toList = some [some ['#', '3'], some ['3'], none] := by
  let m := issueTree.startReading "#3".toList []
  have hslots : issueTemplate.regex.searchSlots "#3".toList =
      some (((m.skip ['#']).capture 1 ['3']).record 1).slots :=
    Regex.searchSlots_between_of_picks
      (Template.picks_char_segment (m := m) 1 (show '3' ≠ '/' by decide) rfl)
  rw [Regex.search, hslots]
  rfl

/-- The number is bound, and so is the null value for a name that the template does not have. -/
theorem number_after_hash_is_bound :
    FacetPattern.compile "#\x7bn\x7d" = .ok issuePattern ∧
      issueHandler ∈ selectCandidates issueMessage [issueHandler] ∧
      issuePattern.matchPath (issueMessage.get? textFacet) = some .template ∧
      issueTemplate.Owns [1] ∧ issueTemplate.OpensRemainder 2 ∧
      issueHandler.Binds issueMessage (.capture textFacet "n" .int) (.ok (.int 3)) ∧
      issueHandler.Binds issueMessage (.capture textFacet "m" .int) (.ok (.int 0)) := by
  have hp : issueHandler.patterns.get? textFacet = some issuePattern :=
    (Table.get?_insert ..).trans (if_pos rfl)
  have hvalue : issueMessage.get? textFacet = some "#3" :=
    (Table.get?_insert ..).trans (if_pos rfl)
  have hmatch : issueTemplate.isMatch "#3" := by
    rw [← Template.matchInput_isSome, Template.matchInput, Option.bind_some, Template.matchText,
      search_issueTemplate]
    rfl
  have hpath : issuePattern.matchPath (issueMessage.get? textFacet) = some .template := by
    rw [hvalue, FacetPattern.matchPath, if_neg (by decide)]
    exact (if_neg Bool.false_ne_true).trans (if_pos hmatch)
  have hh : issueHandler ∈ selectCandidates issueMessage [issueHandler] := by
    refine mem_selectCandidates.mpr ⟨.head _, List.all_eq_true.mpr fun e he => ?_⟩
    obtain rfl : e = (textFacet, issuePattern) := List.mem_singleton.mp he
    rw [FacetPattern.accepts, hpath]
    rfl
  have hsound : ∀ c ∈ issueTemplate.chunks, c.Sound := by
    intro c hc
    simp only [issueTemplate, List.mem_cons, List.not_mem_nil, or_false] at hc
    obtain rfl | rfl := hc
    · show ∀ c ∈ "#".toList, c ∉ meaningful
      simp [meaningful]
    · intro c hc
      cases hc
  have hcompile : Template.compile "#\x7bn\x7d" = .ok issueTemplate := by decide +kernel
  have hline : '\n' ∉ Chunk.body issueTemplate.chunks := by decide
  have hown := (Template.own_of_sound hcompile (.inl hline) hsound).1
  have hremainder := Template.opensRemainder_of_sound hcompile (.inl hline) hsound
  have hcount : issueTemplate.regex.lastGroup = issueTemplate.placeholders.length + 1 := by decide
  obtain ⟨-, htemplate, hdeclared, -⟩ :=
    captures_agree_with_selection hh hp (show "n" ≠ finalGroupName by decide) .int
  obtain ⟨-, -, -, hundeclared⟩ :=
    captures_agree_with_selection hh hp (show "m" ≠ finalGroupName by decide) .int
  obtain ⟨t, v, ht, hv, hmatch⟩ := htemplate hpath
  cases ht
  rw [hvalue] at hv
  cases hv
  obtain ⟨groups, text, hsearch, rfl, -, hbinds, -⟩ :=
    hdeclared _ _ rfl hvalue hmatch hcount (by decide)
  rw [search_issueTemplate] at hsearch
  cases hsearch
  exact ⟨compile_issuePattern, hh, hpath, hown, hremainder, hbinds,
    hundeclared (.inr ⟨_, rfl, .inr (by decide)⟩)⟩

end Parley
