import Parley.Proofs.Template.Segment
import Parley.Proofs.Text.Line

/-!
# The text of a placeholder

Between the braces of a placeholder there is a name, and perhaps a colon and the source of a
constraint. Blanks around both do not count. A placeholder is written without them, and what is
written is read as the same placeholder.

## Main definitions

- `Placeholder.Names` — the name in a text, with the source of a constraint if there is one
- `Placeholder.Denotes` — the placeholder that a text denotes, or why it denotes none
- `Placeholder.Valid` — whether it denotes one
- `Placeholder.inner` — the written form without its braces

## Main results

- `Placeholder.denotes_iff` — a text is read as the placeholder that it denotes
- `Placeholder.valid_iff` — which texts denote a placeholder
- `Placeholder.Denotes.written` — the written form denotes the placeholder
- `Placeholder.Denotes.balanced_inner` — its braces come in pairs if those of the text do
-/

namespace Parley

open Parley.Text

-- ════════════════════════════════════════════════════════════════════════
-- Names
-- ════════════════════════════════════════════════════════════════════════

section Name

variable {c : Char} {name : List Char}

/-- Whether a character may stand in a name. -/
def isNameChar (c : Char) : Bool :=
  isNameStart c || c == '-' || c == '.'

theorem isNameChar_of_mem (hname : isName name) (hc : c ∈ name) : isNameChar c := by
  cases name with
  | nil => cases hc
  | cons d ds =>
    rw [isName, Bool.and_eq_true, List.all_eq_true] at hname
    rcases List.mem_cons.mp hc with rfl | hc
    · simp [isNameChar, hname.1]
    · exact hname.2 c hc

theorem not_mem_of_isName (hname : isName name) (hc : isNameChar c = false) : c ∉ name := by
  intro hmem
  rw [isNameChar_of_mem hname hmem] at hc
  cases hc

theorem ne_nil_of_isName (hname : isName name) : name ≠ [] := by
  rintro rfl
  cases hname

theorem isBlank_of_isNameChar (hc : isNameChar c) : isBlank c = false := by
  simp only [isNameChar, isNameStart, Bool.or_eq_true, beq_iff_eq] at hc
  obtain ((hc | rfl) | rfl) | rfl := hc
  · exact isBlank_of_isAlphanum hc
  all_goals decide

end Name

-- ════════════════════════════════════════════════════════════════════════
-- The parts of a text
-- ════════════════════════════════════════════════════════════════════════

theorem splitColon_append {before : List Char} (hbefore : ':' ∉ before) (after : List Char) :
    splitColon (before ++ ':' :: after) = (before, some after) := by
  have hpos : ∀ c ∈ before, decide (c ≠ ':') = true := fun c hc =>
    decide_eq_true fun heq => hbefore (heq ▸ hc)
  rw [splitColon, List.dropWhile_append_of_pos hpos, List.takeWhile_append_of_pos hpos]
  simp

theorem splitColon_of_not_mem {s : List Char} (hs : ':' ∉ s) : splitColon s = (s, none) := by
  have hpos : ∀ c ∈ s, decide (c ≠ ':') = true := fun c hc =>
    decide_eq_true fun heq => hs (heq ▸ hc)
  rw [splitColon, List.dropWhile_eq_nil_iff.mpr hpos]

/-- A text without the spaces at its end. -/
def dropSpaces (s : List Char) : List Char :=
  (s.reverse.dropWhile (· = ' ')).reverse

theorem dropSpaces_append {s gap : List Char} (hs : ∀ c, s.getLast? = some c → c ≠ ' ')
    (hgap : ∀ c ∈ gap, c = ' ') : dropSpaces (s ++ gap) = s := by
  rw [dropSpaces, List.reverse_append, dropWhile_append (by simpa using hgap),
    List.reverse_reverse]
  rw [List.head?_reverse]
  exact fun c hc => decide_eq_false (hs c hc)

theorem dropSpaces_eq_self {s : List Char} (hs : ∀ c, s.getLast? = some c → c ≠ ' ') :
    dropSpaces s = s := by
  have hgap : ∀ c ∈ ([] : List Char), c = ' ' := nofun
  simpa using dropSpaces_append hs hgap

theorem exists_spaces (s : List Char) :
    ∃ gap, s = dropSpaces s ++ gap ∧ ∀ c ∈ gap, c = ' ' := by
  refine ⟨(s.reverse.takeWhile (· = ' ')).reverse, ?_, fun c hc => ?_⟩
  · rw [dropSpaces, ← List.reverse_append, List.takeWhile_append_dropWhile, List.reverse_reverse]
  · simpa using List.mem_takeWhile_imp (List.mem_reverse.mp hc)

namespace Placeholder

-- ════════════════════════════════════════════════════════════════════════
-- What a text denotes
-- ════════════════════════════════════════════════════════════════════════

/-- Without the blanks around it, the text is a name; or it is a name, spaces, a colon and something
else, which without the blanks around it is the source of a constraint. -/
inductive Names : (inner name : List Char) → (source : Option (List Char)) → Prop
  | bare {inner name : List Char} (htext : Trims inner name) (hname : isName name) :
      Names inner name none
  | constrained {inner name gap after source : List Char}
      (htext : Trims inner (name ++ gap ++ ':' :: after)) (hname : isName name)
      (hgap : ∀ c ∈ gap, c = ' ') (hafter : after ≠ []) (hsource : Trims after source) :
      Names inner name (some source)

/-- The placeholder that a text between braces denotes, or why it denotes none. -/
inductive Denotes (pattern : String) (inner : List Char) : Except PatternError Placeholder → Prop
  /-- There is a name only. -/
  | bare {name : List Char} (h : Names inner name none) :
      Denotes pattern inner (.ok ⟨String.ofList name, none⟩)
  /-- There is a constraint, and it is a pattern for whole values. -/
  | constrained {name source : List Char} {regex : Regex} (h : Names inner name (some source))
      (hregex : anchored? source = some regex) :
      Denotes pattern inner (.ok ⟨String.ofList name, some ⟨String.ofList source, regex⟩⟩)
  /-- There is a constraint, but it is no pattern. -/
  | invalidConstraint {name source : List Char} (h : Names inner name (some source))
      (hregex : anchored? source = none) :
      Denotes pattern inner (.error (.invalidConstraint (String.ofList name)))
  /-- There is no name, or nothing after the colon. -/
  | nameless (h : ∀ name source, ¬Names inner name source) :
      Denotes pattern inner
        (.error (.invalidVariable pattern (String.ofList (Segment.braced inner).source)))

/-- The text has a name, and if there is a constraint, that is a pattern. -/
def Valid (inner : List Char) : Prop :=
  ∃ name source, Names inner name source ∧ ∀ s, source = some s → (anchored? s).isSome

/-- The placeholder with a name and a constraint, if the constraint is a pattern. -/
def named (name : List Char) : Option (List Char) → Except PatternError Placeholder
  | none => .ok ⟨String.ofList name, none⟩
  | some source =>
    match anchored? source with
    | some regex => .ok ⟨String.ofList name, some ⟨String.ofList source, regex⟩⟩
    | none => .error (.invalidConstraint (String.ofList name))

section OfBraced

variable {pattern : String} {inner name : List Char} {source : Option (List Char)}

/-- What the reader does with the parts of a text. -/
theorem ofBraced_of_splitColon {before : List Char} {after : Option (List Char)}
    (h : splitColon (trim inner) = (before, after)) :
    ofBraced pattern inner =
      if isName (dropSpaces before) ∧ after ≠ some [] then
        named (dropSpaces before) (after.map trim)
      else .error (.invalidVariable pattern (String.ofList (Segment.braced inner).source)) := by
  have hbad : (!isName (dropSpaces before) || after == some []) = true ↔
      ¬(isName (dropSpaces before) ∧ after ≠ some []) := by
    simp [imp_iff_not_or]
  simp only [ofBraced, h]
  split
  · next hcase => rw [if_neg (hbad.mp hcase)]
  · next hcase =>
    rw [if_pos (not_not.mp fun hgood => hcase (hbad.mpr hgood))]
    cases after <;> rfl

theorem ofBraced_of_names (h : Names inner name source) :
    ofBraced pattern inner = named name source := by
  have hlast : isName name → ∀ c, name.getLast? = some c → c ≠ ' ' := by
    rintro hname _ hc rfl
    exact not_mem_of_isName hname (by decide) (List.mem_of_getLast? hc)
  have hspace : ∀ {gap : List Char}, (∀ c ∈ gap, c = ' ') → ':' ∉ gap := by
    intro gap hgap hmem
    exact absurd (hgap _ hmem) (by decide)
  cases h with
  | bare htext hname =>
    have hcolon : ':' ∉ name := not_mem_of_isName hname (by decide)
    rw [ofBraced_of_splitColon (by rw [trims_iff.mp htext, splitColon_of_not_mem hcolon]),
      dropSpaces_eq_self (hlast hname), if_pos ⟨hname, nofun⟩]
    rfl
  | @constrained gap after source htext hname hgap hafter hsource =>
    have hcolon : ':' ∉ name ++ gap := by
      rw [List.mem_append, not_or]
      exact ⟨not_mem_of_isName hname (by decide), hspace hgap⟩
    rw [ofBraced_of_splitColon (by rw [trims_iff.mp htext, splitColon_append hcolon]),
      dropSpaces_append (hlast hname) hgap, if_pos ⟨hname, by simpa using hafter⟩,
      Option.map_some, trims_iff.mp hsource]

theorem names_of_splitColon {before : List Char} {after : Option (List Char)}
    (h : splitColon (trim inner) = (before, after)) (hname : isName (dropSpaces before))
    (hafter : after ≠ some []) : Names inner (dropSpaces before) (after.map trim) := by
  have htrims := trims_trim inner
  obtain ⟨gap, hgap, hspaces⟩ := exists_spaces before
  by_cases hmem : ':' ∈ trim inner
  · obtain ⟨first, rest, hrest, hfirst⟩ := List.eq_append_cons_of_mem hmem
    rw [hrest, splitColon_append hfirst] at h
    cases h
    rw [hrest, hgap] at htrims
    exact .constrained htrims hname hspaces (by simpa using hafter) (trims_trim rest)
  · rw [splitColon_of_not_mem hmem] at h
    cases h
    have hlast : ∀ c, (trim inner).getLast? = some c → c ≠ ' ' := by
      rintro _ hc rfl
      exact absurd (htrims.last ' ' hc) (by decide)
    rw [dropSpaces_eq_self hlast] at hname ⊢
    exact .bare htrims hname

theorem ofBraced_of_nameless (h : ∀ name source, ¬Names inner name source) :
    ofBraced pattern inner =
      .error (.invalidVariable pattern (String.ofList (Segment.braced inner).source)) := by
  rcases hparts : splitColon (trim inner) with ⟨before, after⟩
  rw [ofBraced_of_splitColon hparts, if_neg]
  exact fun hgood => h _ _ (names_of_splitColon hparts hgood.1 hgood.2)

theorem denotes_ofBraced (pattern : String) (inner : List Char) :
    Denotes pattern inner (ofBraced pattern inner) := by
  by_cases h : ∃ name source, Names inner name source
  · obtain ⟨name, source, h⟩ := h
    rw [ofBraced_of_names h]
    cases source with
    | none => exact .bare h
    | some source =>
      rw [named]
      split
      · next hregex => exact .constrained h hregex
      · next hregex => exact .invalidConstraint h hregex
  · have hnone : ∀ name source, ¬Names inner name source := fun name source hnames =>
      h ⟨name, source, hnames⟩
    rw [ofBraced_of_nameless hnone]
    exact .nameless hnone

/-- A text between braces is read as the placeholder that it denotes. -/
theorem denotes_iff {r : Except PatternError Placeholder} :
    Denotes pattern inner r ↔ ofBraced pattern inner = r := by
  constructor
  · intro h
    cases h with
    | bare h => exact ofBraced_of_names h
    | constrained h hregex => rw [ofBraced_of_names h, named, hregex]
    | invalidConstraint h hregex => rw [ofBraced_of_names h, named, hregex]
    | nameless h => exact ofBraced_of_nameless h
  · rintro rfl
    exact denotes_ofBraced pattern inner

/-- A text is valid if it denotes a placeholder. -/
theorem valid_iff (pattern : String) :
    Valid inner ↔ ∃ p, Denotes pattern inner (.ok p) := by
  constructor
  · rintro ⟨name, source, h, hsource⟩
    cases source with
    | none => exact ⟨_, .bare h⟩
    | some source =>
      obtain ⟨regex, hregex⟩ := Option.isSome_iff_exists.mp (hsource source rfl)
      exact ⟨_, .constrained h hregex⟩
  · rintro ⟨p, h⟩
    cases h with
    | bare h => exact ⟨_, none, h, nofun⟩
    | constrained h hregex =>
      refine ⟨_, some _, h, fun s hs => ?_⟩
      cases hs
      rw [hregex]
      rfl

end OfBraced

-- ════════════════════════════════════════════════════════════════════════
-- The written form
-- ════════════════════════════════════════════════════════════════════════

/-- The written form of a placeholder, without its braces. -/
def inner (p : Placeholder) : List Char :=
  match p.constraint with
  | none => p.name.toList
  | some c => p.name.toList ++ ':' :: c.source.toList

theorem toList_text (p : Placeholder) : p.text.toList = (Segment.braced p.inner).source := by
  unfold text inner
  cases p.constraint <;> simp [Segment.source]

/-- The source of a constraint is not empty. -/
theorem source_ne_nil {s init after source : List Char} (htext : Trims s (init ++ ':' :: after))
    (hafter : after ≠ []) (hsource : Trims after source) : source ≠ [] := by
  rintro rfl
  obtain ⟨before, behind, heq, hbefore, hbehind⟩ := hsource.around
  obtain ⟨rest, c, rfl⟩ := (List.eq_nil_or_concat after).resolve_left hafter
  have hlast : isBlank c = false := by
    refine htext.last c ?_
    rw [List.concat_eq_append, ← List.cons_append, ← List.append_assoc, List.getLast?_concat]
  have hblank : isBlank c = true := by
    have hmem : c ∈ before ++ [] ++ behind := by
      rw [← heq]
      simp
    rw [List.append_nil, List.mem_append] at hmem
    exact hmem.elim (hbefore c) (hbehind c)
  rw [hblank] at hlast
  cases hlast

section Brace

open Segment (isBrace)

theorem filter_isBrace_of_forall {s : List Char} (h : ∀ c ∈ s, isBrace c = false) :
    s.filter isBrace = [] := by
  rw [List.filter_eq_nil_iff]
  exact fun c hc => by rw [h c hc]; exact Bool.false_ne_true

theorem filter_isBrace_of_trims {s text : List Char} (h : Trims s text) :
    s.filter isBrace = text.filter isBrace := by
  have hblank : ∀ c, isBlank c = true → isBrace c = false := by
    intro c hc
    rw [isBrace, Bool.or_eq_false_iff]
    constructor <;>
    · refine decide_eq_false ?_
      rintro rfl
      exact absurd hc (by decide)
  obtain ⟨before, behind, rfl, hbefore, hbehind⟩ := h.around
  rw [List.filter_append, List.filter_append,
    filter_isBrace_of_forall fun c hc => hblank c (hbefore c hc),
    filter_isBrace_of_forall fun c hc => hblank c (hbehind c hc), List.append_nil,
    List.nil_append]

end Brace

namespace Denotes

variable {pattern : String} {text : List Char} {p : Placeholder}

/-- The regex of a constraint is its pattern between the ends of the text. -/
theorem anchored (h : Denotes pattern text (.ok p)) {c : Constraint} (hc : p.constraint = some c) :
    anchored? c.source.toList = some c.regex := by
  cases h with
  | bare h => cases hc
  | constrained h hregex =>
    cases hc
    rw [String.toList_ofList]
    exact hregex

/-- What is written denotes the same placeholder. -/
theorem written (h : Denotes pattern text (.ok p)) (pattern' : String) :
    Denotes pattern' p.inner (.ok p) := by
  cases h with
  | @bare name h =>
    cases h with
    | bare htext hname =>
      refine .bare (.bare ?_ hname)
      rw [inner, String.toList_ofList]
      exact trims_self htext
  | @constrained name source regex h hregex =>
    cases h with
    | @constrained gap after _ htext hname hgap hafter hsource =>
      have hne := source_ne_nil htext hafter hsource
      have hgap : ∀ c ∈ ([] : List Char), c = ' ' := nofun
      refine .constrained (.constrained ?_ hname hgap hne (trims_self hsource)) hregex
      simp only [inner, String.toList_ofList, List.append_nil]
      refine ⟨⟨[], [], by simp, nofun, nofun⟩, fun c hc => ?_, fun c hc => ?_⟩
      · obtain ⟨d, ds, rfl⟩ := List.exists_cons_of_ne_nil (ne_nil_of_isName hname)
        cases hc
        exact isBlank_of_isNameChar (isNameChar_of_mem hname (.head _))
      · refine hsource.last c ?_
        rw [List.getLast?_append_of_ne_nil _ (List.cons_ne_nil _ _)] at hc
        obtain ⟨e, es, rfl⟩ := List.exists_cons_of_ne_nil hne
        simpa using hc

/-- Blanks and names have no braces. -/
theorem balanced_inner (h : Denotes pattern text (.ok p)) (htext : Segment.Balanced text) :
    Segment.Balanced p.inner := by
  refine (Segment.closes_congr ?_).mp htext
  cases h with
  | bare h =>
    cases h with
    | bare htrims hname => rw [filter_isBrace_of_trims htrims, inner, String.toList_ofList]
  | constrained h hregex =>
    cases h with
    | @constrained gap after source htrims hname hgap hafter hsource =>
      have hspaces : gap.filter Segment.isBrace = [] :=
        filter_isBrace_of_forall fun c hc => by rw [hgap c hc]; decide
      simp only [inner, String.toList_ofList]
      rw [filter_isBrace_of_trims htrims, List.append_assoc, List.filter_append,
        List.filter_append, List.filter_append, hspaces, List.nil_append, List.filter_cons,
        List.filter_cons, filter_isBrace_of_trims hsource]

end Denotes

end Placeholder

end Parley
