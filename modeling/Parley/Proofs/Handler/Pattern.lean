import Parley.Handler.Pattern
import Parley.Proofs.Regex.Parts
import Parley.Proofs.Template.Compile

/-!
# Patterns accept whole values

Patterns of facets and constraints of placeholders are put between the ends of the text to say that
they accept whole values only. They do if they can be read as patterns on their own; else a
parenthesis of their own can close the group that they are put into.

## Main results

- `Regex.isMatch_anchored` — a pattern between the ends of the text accepts what it matches whole
- `Placeholder.accepts_iff` — so does the constraint of a placeholder
- `FacetPattern.matchPath_eq_regex_iff` — so does the pattern of a facet, read as a regex
- `FacetPattern.accepts_whole_values` — what this means for facets, constraints and substitution
- `FacetPattern.parenthesis_escapes` — a text that is no pattern on its own may accept more
-/

namespace Parley

open Regex

/-- A pattern between the ends of the text accepts what it matches as a whole. -/
theorem Regex.isMatch_anchored {s text : List Char} {r r' : Regex} (h : parse? s = some r)
    (h' : anchored? s = some r') : r'.isMatch text ↔ r.MatchesWhole text := by
  rw [eq_between_of_anchored? h h', isMatch_between]
  rfl

/-- What has been read is the pattern between the ends of the text if no parenthesis is open and
the limits are kept. -/
theorem Regex.anchored?_eq_some {s : List Char} {r : Regex}
    (hrun : (Reader.run (s.length + 6) { rest := "^(?:".toList ++ s ++ ")$".toList }).map
      (fun p => (p.inner.close.1, p.groups.isEmpty && decide (p.inner.close.2 ≤ depthLimit))) =
        some (r, true))
    (hlimit : r.footprint ≤ footprintLimit) : anchored? s = some r := by
  obtain ⟨p, hp, hclosed⟩ := Option.map_eq_some_iff.1 hrun
  obtain ⟨hclose, hrest⟩ := Prod.mk.inj hclosed
  obtain ⟨hgroups, hdepth⟩ := Bool.and_eq_true_iff.1 hrest
  have hlength : ("^(?:".toList ++ s ++ ")$".toList).length = s.length + 6 := by
    simp
  change parse? ("^(?:".toList ++ s ++ ")$".toList) = some r
  rw [parse?, hlength, hp, Option.bind_eq_bind, Option.bind_some]
  simp only [hclose]
  exact if_pos ⟨hgroups, of_decide_eq_true hdepth, hlimit⟩

/-- The constraint of a placeholder accepts what it matches as a whole. -/
theorem Placeholder.accepts_iff {pattern : String} {chunks : List Chunk}
    (h : Chunk.ofText pattern = .ok chunks) {p : Placeholder} (hp : .placeholder p ∈ chunks)
    {c : Constraint} (hc : p.constraint = some c) {r : Regex}
    (hparse : parse? c.source.toList = some r) (v : String) :
    p.accepts v ↔ r.MatchesWhole v.toList := by
  rw [accepts, hc]
  exact isMatch_anchored hparse (Chunk.anchored_of_ofText h hp hc)

theorem Placeholder.check_eq_ok_iff {p : Placeholder} {v v' : String} :
    p.check v = .ok v' ↔ p.accepts v ∧ v' = v := by
  rw [check]
  split
  · next haccepts => simp [haccepts, eq_comm]
  · next hrejects => simp [hrejects]

/-- No value is put in that its placeholder does not accept. -/
theorem Template.accepts_of_fill {value? : String → Option String} {encode : List String}
    {allowUnresolved : Bool} {chunks : List Chunk} {out : String}
    (h : fill value? encode allowUnresolved chunks = .ok out) {p : Placeholder}
    (hp : p ∈ Chunk.placeholders chunks) {v : String} (hv : value? p.name = some v) :
    p.accepts v := by
  induction chunks generalizing out with
  | nil => cases hp
  | cons c rest ih =>
    cases c with
    | literal text =>
      obtain ⟨_, hrest, -⟩ := Except.exists_ok_of_bind h
      exact ih hrest hp
    | placeholder q =>
      rw [Chunk.placeholders_placeholder] at hp
      rw [fill] at h
      split at h
      · next value hvalue =>
        obtain ⟨_, hcheck, h⟩ := Except.exists_ok_of_bind h
        obtain ⟨_, -, h⟩ := Except.exists_ok_of_bind h
        obtain ⟨_, hrest, -⟩ := Except.exists_ok_of_bind h
        rcases List.mem_cons.mp hp with rfl | hp
        · obtain rfl : value = v := Option.some.inj (hvalue.symm.trans hv)
          exact (Placeholder.check_eq_ok_iff.mp hcheck).1
        · exact ih hrest hp
      · next hvalue =>
        have hp : p ∈ Chunk.placeholders rest := by
          rcases List.mem_cons.mp hp with rfl | hp
          · rw [hvalue] at hv
            cases hv
          · exact hp
        obtain ⟨_, hrest⟩ : ∃ out, fill value? encode allowUnresolved rest = .ok out := by
          split at h
          · obtain ⟨_, -, h⟩ := Except.exists_ok_of_bind h
            obtain ⟨out, hrest, -⟩ := Except.exists_ok_of_bind h
            exact ⟨out, hrest⟩
          · obtain ⟨_, herror, -⟩ := Except.exists_ok_of_bind h
            cases herror
        exact ih hrest hp

theorem FacetPattern.of_compile {raw : String} {p : FacetPattern} (hraw : raw ≠ "")
    (h : compile raw = .ok p) : p.raw = raw ∧ p.regex = anchored? raw.toList := by
  have hempty : ¬raw.isEmpty := by simpa using hraw
  rw [compile, if_neg hempty] at h
  simp only at h
  split at h
  · cases h
    exact ⟨rfl, rfl⟩
  · split at h
    · cases h
      exact ⟨rfl, rfl⟩
    · cases h

/-- A value is accepted if one of the readings accepts it. -/
theorem FacetPattern.accepts_some_iff {p : FacetPattern} (hraw : p.raw ≠ "") (v : String) :
    p.accepts (some v) ↔
      (∃ r, p.regex = some r ∧ r.isMatch v.toList) ∨ ∃ t, p.template = some t ∧ t.isMatch v := by
  have hempty : ¬p.raw.isEmpty := by simpa using hraw
  rw [← Option.any_eq_true, ← Option.any_eq_true, accepts, matchPath, if_neg hempty]
  split
  · next hregex => exact iff_of_true rfl (.inl hregex)
  · next hregex =>
    split
    · next htemplate => exact iff_of_true rfl (.inr htemplate)
    · next htemplate => exact iff_of_false Bool.false_ne_true (not_or.mpr ⟨hregex, htemplate⟩)

/-- A pattern that is a template only accepts what the template matches. -/
theorem FacetPattern.accepts_template_iff {raw : String} (hraw : raw ≠ "") (t : Template)
    (v : String) : accepts ⟨raw, none, some t⟩ (some v) ↔ t.isMatch v := by
  rw [accepts_some_iff hraw]
  simp

/-- The pattern of a facet, read as a regex, accepts what it matches as a whole. -/
theorem FacetPattern.matchPath_eq_regex_iff {raw : String} {p : FacetPattern} (hraw : raw ≠ "")
    (h : compile raw = .ok p) {r : Regex} (hparse : parse? raw.toList = some r) (v : String) :
    p.matchPath (some v) = some .regex ↔ p.regex.isSome ∧ r.MatchesWhole v.toList := by
  obtain ⟨hsame, hregex⟩ := of_compile hraw h
  have hempty : ¬p.raw.isEmpty := by simpa [hsame] using hraw
  have hpath : p.matchPath (some v) = some .regex ↔ p.regex.any fun r => r.isMatch v.toList := by
    simp only [matchPath, if_neg hempty]
    split
    · next hmatch => exact iff_of_true rfl hmatch
    · next hmatch =>
      refine iff_of_false ?_ hmatch
      split <;> simp
  rw [hpath]
  cases hr : p.regex with
  | none => simp
  | some r' =>
    rw [← isMatch_anchored hparse (hregex ▸ hr)]
    simp

/-- A pattern accepts exactly what it matches as a whole, be it the pattern of a facet or a
constraint, if it is a pattern on its own; so no substitution puts in a value of which only a part
matches. -/
theorem FacetPattern.accepts_whole_values {source : String} {r : Regex}
    (hparse : parse? source.toList = some r) (v : String) :
    (∀ p, source ≠ "" → compile source = .ok p →
      (p.matchPath (some v) = some .regex ↔ p.regex.isSome ∧ r.MatchesWhole v.toList)) ∧
    (∀ (pattern : String) (chunks : List Chunk) (p : Placeholder) (c : Constraint),
      Chunk.ofText pattern = .ok chunks → .placeholder p ∈ chunks → p.constraint = some c →
      c.source = source → (p.accepts v ↔ r.MatchesWhole v.toList)) ∧
    ∀ (pattern out : String) (t : Template) (value? : String → Option String)
      (encode : List String) (allowUnresolved : Bool) (p : Placeholder) (c : Constraint),
      Template.compile pattern = .ok t → t.substitute value? encode allowUnresolved = .ok out →
      p ∈ t.placeholders → p.constraint = some c → c.source = source → value? p.name = some v →
      r.MatchesWhole v.toList := by
  refine ⟨fun p hne h => matchPath_eq_regex_iff hne h hparse v, ?_, ?_⟩
  · rintro pattern chunks p c h hp hc rfl
    exact Placeholder.accepts_iff h hp hc hparse v
  · rintro pattern out t value? encode allowUnresolved p c h hout hp hc rfl hv
    have htext := (Template.of_compile h).1
    have hmem := Chunk.mem_placeholders.mp hp
    exact (Placeholder.accepts_iff htext hmem hc hparse v).mp (Template.accepts_of_fill hout hp hv)

/-- Two letters as the pattern of a facet and as a constraint: a third letter is not accepted. -/
theorem FacetPattern.two_letters_accept_no_third :
    ∃ p t v, compile "ab" = .ok p ∧ Template.compile "\x7bv:ab\x7d" = .ok t ∧ v ∈ t.placeholders ∧
      p.matchPath (some "ab") = some .regex ∧ p.matchPath (some "abc") ≠ some .regex ∧
      v.accepts "ab" ∧ ¬v.accepts "abc" := by
  let r := cats ("ab".toList.map char)
  have hparse : parse? "ab".toList = some r := by decide +kernel
  have hwhole : r.MatchesWhole "ab".toList := matchesWhole_chars.mpr rfl
  have hlonger : ¬r.MatchesWhole "abc".toList := fun h =>
    absurd (matchesWhole_chars.mp h) (by decide)
  have hfacet : compile "ab" = .ok ⟨"ab", some r.between,
      some ⟨"ab", [.literal "ab"], (Template.tree [.literal "ab"]).between⟩⟩ := by decide +kernel
  let v : Placeholder := ⟨"v", some ⟨"ab", r.between⟩⟩
  have htemplate : Template.compile "\x7bv:ab\x7d" =
      .ok ⟨"\x7bv:ab\x7d", [.placeholder v], (Template.tree [.placeholder v]).between⟩ := by
    decide +kernel
  have hpath := fun value => (accepts_whole_values hparse value).1 _ (by decide) hfacet
  have haccepts := fun value => (accepts_whole_values hparse value).2.1 _ _ v _
    (Template.of_compile htemplate).1 (.head _) rfl rfl
  exact ⟨_, _, v, hfacet, htemplate, .head _, (hpath "ab").mpr ⟨rfl, hwhole⟩,
    fun h => hlonger ((hpath "abc").mp h).2, (haccepts "ab").mpr hwhole,
    fun h => hlonger ((haccepts "abc").mp h)⟩

/-- Where a text is no pattern on its own, its parenthesis can close the group that it is put into,
and the rest of the value need not be matched. -/
theorem FacetPattern.parenthesis_escapes :
    parse? "a)|(b".toList = none ∧
      (∃ p, compile "a)|(b" = .ok p ∧ p.matchPath (some "ax") = some .regex) ∧
      ∃ v, Chunk.ofText "\x7bv:a)|(b\x7d" = .ok [.placeholder v] ∧ v.accepts "ax" := by
  let r := alts [cats [look .textStart, char 'a'], cats [group 1 (char 'b'), look .textEnd]]
  have hregex : anchored? "a)|(b".toList = some r := by decide +kernel
  have hmatch : r.isMatch "ax".toList := by
    rw [isMatch_iff]
    exact ⟨[], "ax".toList, _, rfl, .inl ⟨_, ⟨rfl, rfl⟩, 'a', ['x'], rfl, by decide, rfl⟩⟩
  let body := alts [cats [char 'a', char ')'], cats [char '(', char 'b', remainderTree 1]]
  have hcompile : compile "a)|(b" =
      .ok ⟨"a)|(b", some r, some ⟨"a)|(b", [.literal "a)|(b"], body.between⟩⟩ := by decide +kernel
  refine ⟨by decide +kernel, ⟨_, hcompile, ?_⟩, ⟨"v", some ⟨"a)|(b", r⟩⟩, by decide +kernel, hmatch⟩
  have hempty : ¬"a)|(b".isEmpty := by decide
  simp only [matchPath, if_neg hempty, Option.any_some, if_pos hmatch]

end Parley
