import Mathlib
import Parley.Proofs.Bots.Operation
import Parley.Proofs.Handler.Pattern
import Parley.Proofs.Template.Pair

/-!
# The patterns of the arithmetic bot

What the patterns of the handlers are compiled to, and what a text must have in it to be accepted
by them.

## Main definitions

- `Wording.trees` — the trees of what stands between two numbers
- `Wording.Separates` — the texts that these trees match
- `Wording.facetPattern`, `Special.facetPattern` — the compiled patterns

## Main results

- `Wording.compile_pattern`, `Special.compile_pattern` — the patterns are compiled to these
- `Wording.exists_mark_of_accepts` — an accepted text has a character that tells its operation
- `Special.cases_of_accepts` — a special handler accepts a sum or a product of twos only
-/

namespace Parley.MathWiz

open Regex

variable {γ : Type}

/-- The text in front of every question. -/
def front : List Char :=
  "what is ".toList

namespace Operation

/-- The characters that are read as a sign of the operation. -/
def signs : Operation → List Char
  | times => ['*', 'x']
  | plus => ['+']
  | minus => ['-']
  | divided => ['/']

/-- The class of these characters. -/
def signClass : Operation → CharClass
  | times => .union (.single '*') (.single 'x')
  | plus => .single '+'
  | minus => .single '-'
  | divided => .single '/'

theorem contains_signClass {op : Operation} {c : Char} :
    op.signClass.contains c = true ↔ c ∈ op.signs := by
  cases op with
  | times => simp [signClass, signs, CharClass.contains, ← CharClass.contains_single]
  | plus | minus | divided => simp [signClass, signs, ← CharClass.contains_single]

theorem not_isDigit_of_mem_signs {op : Operation} {c : Char} (hc : c ∈ op.signs) :
    c.isDigit = false ∧ c ≠ ' ' := by
  have hall : (op.signs.all fun c => !c.isDigit && c != ' ') = true := by cases op <;> decide
  simpa using List.all_eq_true.1 hall c hc

end Operation

namespace Wording

/-- The trees of what stands between two numbers. -/
def trees : Wording → List Regex
  | sign op => [optional ' '] ++ ([.chars op.signClass] ++ [optional ' '])
  | words op => op.words.toList.map char

/-- A blank, or nothing. -/
def blank (spaced : Bool) : List Char :=
  if spaced then [' '] else []

/-- What stands between two numbers. -/
def Separates : Wording → List Char → Prop
  | sign op, x => ∃ before after, ∃ c ∈ op.signs, x = blank before ++ ([c] ++ blank after)
  | words op, x => x = op.words.toList

theorem reads_blank : Reads [optional ' '] fun x => ∃ spaced, x = blank spaced := by
  refine (reads_optional ' ').imp ?_
  rintro _ (rfl | rfl)
  · exact ⟨false, rfl⟩
  · exact ⟨true, rfl⟩

theorem reads_trees (w : Wording) : Reads w.trees w.Separates := by
  cases w with
  | sign op =>
    refine (reads_blank.append ((reads_class op.signClass).append reads_blank)).imp ?_
    rintro _ ⟨_, _, ⟨before, rfl⟩, ⟨_, _, ⟨c, hc, rfl⟩, ⟨after, rfl⟩, rfl⟩, rfl⟩
    exact ⟨before, after, c, Operation.contains_signClass.1 hc, rfl⟩
  | words op => exact reads_chars _

theorem takes_sign {op : Operation} {c : Char} (hc : c ∈ op.signs) (before after : Bool)
    {u : List Char} (hu : u.head? ≠ some ' ') :
    Takes (sign op).trees (blank before ++ ([c] ++ blank after)) u := by
  have hblank : ∀ (spaced : Bool) {u : List Char}, u.head? ≠ some ' ' →
      Takes [optional ' '] (blank spaced) u := by
    intro spaced u hu
    cases spaced with
    | false => exact takes_optional_of_ne hu
    | true => exact takes_optional ' ' u
  have hsign : ([c] ++ blank after ++ u).head? ≠ some ' ' := by
    intro h
    exact (Operation.not_isDigit_of_mem_signs hc).2 (Option.some.inj h)
  exact (hblank before hsign).append
    ((takes_class (Operation.contains_signClass.2 hc) _).append (hblank after hu))

/-- The characters by which the operation can be told. -/
def marks : Wording → List Char
  | sign op => op.signs
  | words .times => ['t']
  | words .plus => ['p']
  | words .minus => ['n']
  | words .divided => ['d']

theorem exists_mark {w : Wording} {x : List Char} (h : w.Separates x) : ∃ c ∈ w.marks, c ∈ x := by
  cases w with
  | sign op =>
    obtain ⟨before, after, c, hc, rfl⟩ := h
    exact ⟨c, hc, List.mem_append_right _ List.mem_cons_self⟩
  | words op =>
    obtain rfl : x = op.words.toList := h
    cases op <;> exact ⟨_, List.mem_cons_self, by decide⟩

/-- What stands between two numbers does not begin with a digit. -/
theorem exists_cons {w : Wording} {x : List Char} (h : w.Separates x) :
    ∃ c rest, x = c :: rest ∧ c.isDigit = false := by
  cases w with
  | sign op =>
    obtain ⟨before, after, c, hc, rfl⟩ := h
    cases before with
    | false => exact ⟨c, blank after, rfl, (Operation.not_isDigit_of_mem_signs hc).1⟩
    | true => exact ⟨' ', c :: blank after, rfl, by decide⟩
  | words op =>
    obtain rfl : x = op.words.toList := h
    exact ⟨' ', op.words.toList.tail, by cases op <;> decide, by decide⟩

/-- The template that the pattern is read as. -/
def template (w : Wording) : Template :=
  ⟨w.pattern,
    [.literal "what is ", .placeholder ⟨"a", none⟩, .literal w.separator,
      .placeholder ⟨"b", none⟩],
    (Template.pairTree front w.trees).between⟩

/-- The compiled pattern. It is no regular expression. -/
def facetPattern (w : Wording) : FacetPattern :=
  ⟨w.pattern, none, some w.template⟩

set_option maxRecDepth 4000 in
theorem compile_times : FacetPattern.compile (sign .times).pattern =
    .ok (sign .times).facetPattern := by
  have hregex : anchored? (sign .times).pattern.toList = none := by decide +kernel
  have hchunks : Chunk.ofText (sign .times).pattern = .ok (sign .times).template.chunks := by
    decide +kernel
  have htree : anchored? (Chunk.body (sign .times).template.chunks) =
      some (sign .times).template.regex :=
    anchored?_eq_some (by decide +kernel) (by cbv)
  rw [FacetPattern.compile, if_neg (by decide), hregex, Template.compile, hchunks]
  simp only [bind, Except.bind, htree]
  rfl

theorem compile_pattern (w : Wording) :
    FacetPattern.compile w.pattern = .ok w.facetPattern := by
  cases w with
  | sign op =>
    cases op with
    | times => exact compile_times
    | plus | minus | divided => decide +kernel
  | words op => cases op <;> decide +kernel

theorem accepts_eq (w : Wording) (text : String) :
    w.facetPattern.accepts (some text) = w.template.isMatch text := by
  have hraw : w.facetPattern.raw.isEmpty = false := by
    cases w with
    | sign op | words op => cases op <;> decide
  simp only [FacetPattern.accepts, FacetPattern.matchPath, hraw]
  cases hmatch : w.template.isMatch text <;> simp [facetPattern, hmatch]

/-- An accepted text has a character by which the operation can be told, and it is not the first
one after the text in front. -/
theorem exists_mark_of_accepts {w : Wording} {s : List Char}
    (h : w.facetPattern.accepts (some (String.ofList (front ++ s))) = true) :
    ∃ c ∈ w.marks, c ∈ s.tail := by
  rw [accepts_eq, Template.isMatch, String.toList_ofList] at h
  obtain ⟨v, x, rest, hs, hv, hx⟩ := Template.exists_split_of_isMatch w.reads_trees h
  obtain rfl := List.append_cancel_left hs
  obtain ⟨d, v, rfl⟩ := List.exists_cons_of_ne_nil hv
  obtain ⟨c, hmark, hc⟩ := exists_mark hx
  exact ⟨c, hmark, List.mem_append_right _ (List.mem_append_left _ hc)⟩

end Wording

namespace Special

/-- The operation of the question. -/
def operation : Special → Operation
  | sum => .plus
  | product => .times

/-- The trees of the first number, what stands after it, and the second one. -/
def around (rs : List Regex) : List Regex :=
  "what is 2".toList.map char ++ (rs ++ "2".toList.map char)

/-- The trees of the pattern as a regular expression. In that of a sum, the plus sign asks for one
blank after the other. -/
def trees : Special → List Regex
  | sum => around ([.rep true 1 none (optional ' ')] ++ [optional ' '])
  | product => around (Wording.sign .times).trees

/-- The template that the pattern is read as. -/
def template (x : Special) : Template :=
  ⟨x.pattern, [.literal x.pattern],
    (cats (around (Wording.sign x.operation).trees ++ [remainderTree 1])).between⟩

/-- The compiled pattern. -/
def facetPattern (x : Special) : FacetPattern :=
  ⟨x.pattern, some (cats x.trees).between, some x.template⟩

theorem around_times : around (Wording.sign .times).trees = "what is 2".toList.map char ++
    [optional ' ', .chars (.union (.single '*') (.single 'x')), optional ' ', .char '2'] := rfl

set_option maxRecDepth 4000 in
theorem compile_product : FacetPattern.compile product.pattern = .ok product.facetPattern := by
  have hregex : anchored? product.pattern.toList = some (cats product.trees).between := by
    refine anchored?_eq_some (by decide +kernel) ?_
    change (cats (around (Wording.sign .times).trees)).between.footprint ≤ _
    rw [around_times]
    cbv
  have hchunks : Chunk.ofText product.pattern = .ok product.template.chunks := by decide +kernel
  have htree : anchored? (Chunk.body product.template.chunks) = some product.template.regex := by
    refine anchored?_eq_some (by decide +kernel) ?_
    change (cats (around (Wording.sign .times).trees ++ [remainderTree 1])).between.footprint ≤ _
    rw [around_times]
    cbv
  rw [FacetPattern.compile, if_neg (by decide), hregex, Template.compile, hchunks]
  simp only [bind, Except.bind, htree]
  rfl

theorem compile_pattern (x : Special) : FacetPattern.compile x.pattern = .ok x.facetPattern := by
  cases x with
  | sum => decide +kernel
  | product => exact compile_product

theorem reads_around {rs : List Regex} {language : List Char → Prop} (h : Reads rs language) :
    Reads (around rs) fun s => ∃ x, language x ∧ s = front ++ '2' :: (x ++ ['2']) := by
  refine ((reads_chars _).append (h.append (reads_chars _))).imp ?_
  rintro _ ⟨_, _, rfl, ⟨x, _, hx, rfl, rfl⟩, rfl⟩
  exact ⟨x, hx, rfl⟩

theorem accepts_iff (x : Special) (text : String) : x.facetPattern.accepts (some text) = true ↔
    (cats x.trees).between.isMatch text.toList = true ∨ x.template.isMatch text = true := by
  have hraw : x.facetPattern.raw.isEmpty = false := by cases x <;> decide
  simp only [FacetPattern.accepts, FacetPattern.matchPath, hraw]
  cases hmatch : (cats x.trees).between.isMatch text.toList <;>
    cases hmatch' : x.template.isMatch text <;> simp [facetPattern, hmatch, hmatch']

/-- A special handler accepts two twos with a sign of its operation between them. -/
theorem accepts_of_mem_signs {x : Special} {c : Char} (hc : c ∈ x.operation.signs)
    (before after : Bool) : x.facetPattern.accepts (some (String.ofList
      (front ++ '2' :: (Wording.blank before ++ ([c] ++ Wording.blank after) ++ ['2'])))) =
        true := by
  have htakes : Takes (around (Wording.sign x.operation).trees) _ [] :=
    (takes_chars _ _).append ((Wording.takes_sign hc before after (by decide)).append
      (takes_chars "2".toList []))
  rw [accepts_iff, Template.isMatch, String.toList_ofList]
  exact .inr (htakes.isMatch 1)

/-- A special handler accepts two twos with a sign between them, or with nothing but blanks. -/
theorem cases_of_accepts {x : Special} {s : List Char}
    (h : x.facetPattern.accepts (some (String.ofList (front ++ s))) = true) :
    (∃ y remainder, (Wording.sign x.operation).Separates y ∧ IsRemainder remainder ∧
      s = '2' :: (y ++ '2' :: remainder)) ∨ ∀ c ∈ s, c = '2' ∨ c = ' ' := by
  rw [accepts_iff, Template.isMatch, String.toList_ofList] at h
  rcases h with h | h
  · cases x with
    | sum =>
      have hblanks : Reads [Regex.rep true 1 none (optional ' ')] fun w => ∀ c ∈ w, c = ' ' :=
        ((reads_optional ' ').imp (by rintro _ (rfl | rfl) <;> simp)).rep true 1 none
      obtain ⟨_, ⟨v, v', hv, hv', rfl⟩, hs⟩ :=
        (reads_around (hblanks.append (reads_optional ' '))).of_isMatch h
      obtain rfl := List.append_cancel_left hs
      have hblank : ∀ c ∈ v', c = ' ' := by
        rcases hv' with rfl | rfl <;> simp
      refine .inr fun c hc => ?_
      simp only [List.mem_cons, List.mem_append, List.not_mem_nil, or_false] at hc
      rcases hc with rfl | (hc | hc) | rfl
      · exact .inl rfl
      · exact .inr (hv c hc)
      · exact .inr (hblank c hc)
      · exact .inl rfl
    | product =>
      obtain ⟨y, hy, hs⟩ := (reads_around (Wording.sign .times).reads_trees).of_isMatch h
      obtain rfl := List.append_cancel_left hs
      exact .inl ⟨y, [], hy, .inl rfl, rfl⟩
  · obtain ⟨_, remainder, hs, ⟨y, hy, rfl⟩, hremainder⟩ :=
      (reads_around (Wording.sign x.operation).reads_trees).of_isMatch_remainder h
    rw [List.append_assoc] at hs
    obtain rfl := List.append_cancel_left hs
    exact .inl ⟨y, remainder, hy, hremainder, by simp⟩

end Special

end Parley.MathWiz
