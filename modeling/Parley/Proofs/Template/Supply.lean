import Parley.Proofs.Handler.Pattern
import Parley.Proofs.Template.Numbering

/-!
# Values by place and by name

A template takes values in the order of its placeholders, or by their names. Both ways check the
values in order, stop at the first one that its placeholder does not accept, and keep the
placeholders that have no value. So they agree where each name has the value of its place.

## Main definitions

- `Chunk.supplied` — the text of chunks with values by place
- `Supplies` — each name has the value of its place

## Main results

- `Placeholder.check_eq_error_iff` — only a value that a constraint rejects is an error
- `Template.fillPositional_eq` — the values are checked in order, and put in
- `Template.fill_eq_fillPositional` — by name it is the same
- `Template.fill_congr_of_values`, `Template.isSome_of_fill` — missing values
- `Template.substitutions_agree` — what this means for a template
-/

namespace Parley

/-- Only a value that a constraint rejects is an error. -/
theorem Placeholder.check_eq_error_iff {p : Placeholder} {v : String} {e : SubstituteError} :
    p.check v = .error e ↔ ∃ c, p.constraint = some c ∧ ¬c.regex.isMatch v.toList ∧
      e = .constraintViolation p.name v c.source := by
  rw [check]
  split
  · next haccepts =>
    refine iff_of_false (by simp) ?_
    rintro ⟨c, hc, hrejects, -⟩
    rw [accepts, hc] at haccepts
    exact hrejects haccepts
  · next hrejects =>
    rw [accepts] at hrejects
    cases hconstraint : p.constraint with
    | none =>
      rw [hconstraint] at hrejects
      exact absurd rfl hrejects
    | some c =>
      rw [hconstraint] at hrejects
      constructor
      · rintro ⟨⟩
        exact ⟨c, rfl, hrejects, rfl⟩
      · rintro ⟨_, ⟨⟩, -, rfl⟩
        rfl

-- ════════════════════════════════════════════════════════════════════════
-- Values by place
-- ════════════════════════════════════════════════════════════════════════

namespace Chunk

/-- The text of chunks with values for the first placeholders; the others are kept. -/
def supplied (chunks : List Chunk) (vs : List String) : String :=
  String.ofList (fillWith chunks
    ((vs ++ ((placeholders chunks).drop vs.length).map Placeholder.text).map String.toList))

theorem supplied_literal (text : String) (rest : List Chunk) (vs : List String) :
    supplied (.literal text :: rest) vs = text ++ supplied rest vs := by
  rw [supplied, fillWith, String.ofList_append, String.ofList_toList, placeholders_literal,
    supplied]

theorem supplied_kept (p : Placeholder) (rest : List Chunk) :
    supplied (.placeholder p :: rest) [] = p.text ++ supplied rest [] := by
  simp only [supplied, placeholders_placeholder, List.length_nil, List.drop_zero, List.nil_append,
    List.map_cons, fillWith, String.ofList_append, String.ofList_toList]

theorem supplied_value (p : Placeholder) (rest : List Chunk) (v : String) (vs : List String) :
    supplied (.placeholder p :: rest) (v :: vs) = v ++ supplied rest vs := by
  simp only [supplied, placeholders_placeholder, List.length_cons, List.drop_succ_cons,
    List.cons_append, List.map_cons, fillWith, String.ofList_append, String.ofList_toList]

end Chunk

namespace Template

/-- Checks the value of a placeholder. -/
def checkPair (x : Placeholder × String) : Except SubstituteError String :=
  x.1.check x.2

/-- The values are checked in order, and put in. -/
theorem fillPositional_eq (chunks : List Chunk) (vs : List String) :
    fillPositional chunks vs =
      (((Chunk.placeholders chunks).zip vs).mapM checkPair).map
        fun _ => Chunk.supplied chunks vs := by
  induction chunks generalizing vs with
  | nil => rfl
  | cons c rest ih =>
    cases c with
    | literal text =>
      rw [fillPositional, ih, Chunk.placeholders_literal, Chunk.supplied_literal]
      cases ((Chunk.placeholders rest).zip vs).mapM checkPair <;> rfl
    | placeholder p =>
      rw [Chunk.placeholders_placeholder]
      cases vs with
      | nil =>
        rw [fillPositional, ih, Chunk.supplied_kept, List.zip_nil_right, List.zip_nil_right]
        rfl
      | cons v vs =>
        rw [fillPositional, ih, Chunk.supplied_value, List.zip_cons_cons]
        cases hcheck : p.check v with
        | error e =>
          have hpair : checkPair (p, v) = .error e := hcheck
          rw [Except.mapM_cons_of_error hpair]
          rfl
        | ok v' =>
          have hpair : checkPair (p, v) = .ok v' := hcheck
          obtain ⟨-, rfl⟩ := Placeholder.check_eq_ok_iff.mp hcheck
          rw [Except.mapM_cons_of_ok hpair]
          cases ((Chunk.placeholders rest).zip vs).mapM checkPair <;> rfl

theorem fillPositional_eq_ok_iff {chunks : List Chunk} {vs : List String} {out : String} :
    fillPositional chunks vs = .ok out ↔
      (∀ x ∈ (Chunk.placeholders chunks).zip vs, x.1.accepts x.2) ∧
        out = Chunk.supplied chunks vs := by
  have hchecked : (∃ checked, ((Chunk.placeholders chunks).zip vs).mapM checkPair = .ok checked) ↔
      ∀ x ∈ (Chunk.placeholders chunks).zip vs, x.1.accepts x.2 := by
    rw [Except.exists_mapM_eq_ok_iff]
    simp only [checkPair, Placeholder.check_eq_ok_iff, exists_eq_right]
  rw [fillPositional_eq, Except.map_eq_ok_iff, exists_and_right, hchecked, eq_comm (a := out)]

/-- The error is about the first value that its placeholder does not accept. -/
theorem fillPositional_eq_error_iff {chunks : List Chunk} {vs : List String}
    {e : SubstituteError} :
    fillPositional chunks vs = .error e ↔
      ∃ before p v after c, (Chunk.placeholders chunks).zip vs = before ++ (p, v) :: after ∧
        (∀ x ∈ before, x.1.accepts x.2) ∧ p.constraint = some c ∧
          ¬c.regex.isMatch v.toList ∧ e = .constraintViolation p.name v c.source := by
  rw [fillPositional_eq, Except.map_eq_error_iff, Except.mapM_eq_error_iff]
  simp only [checkPair, Placeholder.check_eq_ok_iff, exists_eq_right,
    Placeholder.check_eq_error_iff]
  constructor
  · rintro ⟨before, ⟨p, v⟩, after, hzip, hbefore, c, hc⟩
    exact ⟨before, p, v, after, c, hzip, hbefore, hc⟩
  · rintro ⟨before, p, v, after, c, hzip, hbefore, hc⟩
    exact ⟨before, (p, v), after, hzip, hbefore, c, hc⟩

end Template

-- ════════════════════════════════════════════════════════════════════════
-- Values by name
-- ════════════════════════════════════════════════════════════════════════

/-- Each name has the value of its place, if there is one for the place. -/
def Supplies (names vs : List String) (value? : String → Option String) : Prop :=
  ∀ (i : Nat) (name : String), names[i]? = some name → value? name = vs[i]?

namespace Supplies

variable {name : String} {names vs : List String} {value? : String → Option String}

theorem head (h : Supplies (name :: names) vs value?) : value? name = vs.head? :=
  (h 0 name rfl).trans List.head?_eq_getElem?.symm

theorem tail (h : Supplies (name :: names) vs value?) : Supplies names vs.tail value? := by
  intro i other hother
  rw [h (i + 1) other hother, List.getElem?_tail]

/-- Different names can have any values. -/
theorem lookup (hnodup : names.Nodup) (vs : List String) :
    Supplies names vs fun name => (names.zip vs).lookup name := by
  intro i name hname
  obtain ⟨hi, rfl⟩ := List.getElem?_eq_some_iff.mp hname
  exact (lookup_zip_of_mem (List.getElem_mem hi)).trans (by rw [hnodup.idxOf_getElem])

end Supplies

namespace Template

variable {value? : String → Option String} {encode : List String} {chunks : List Chunk}

/-- Where each name has the value of its place, it does not matter how the values are given. -/
theorem fill_eq_fillPositional {vs : List String}
    (h : Supplies ((Chunk.placeholders chunks).map Placeholder.name) vs value?) :
    fill value? [] true chunks = fillPositional chunks vs := by
  induction chunks generalizing vs with
  | nil => rfl
  | cons c rest ih =>
    cases c with
    | literal text => rw [fill, fillPositional, ih h]
    | placeholder p =>
      rw [Chunk.placeholders_placeholder, List.map_cons] at h
      have hvalue := h.head
      rw [fill, ih h.tail]
      cases vs with
      | nil =>
        rw [hvalue]
        rfl
      | cons v vs =>
        rw [hvalue]
        cases hcheck : p.check v with
        | error e =>
          simp only [List.head?_cons, hcheck, fillPositional]
          rfl
        | ok v' =>
          simp only [List.head?_cons, hcheck, fillPositional]
          rfl

/-- If no value is missing, it does not matter whether one may be. -/
theorem fill_congr_of_values (h : ∀ p ∈ Chunk.placeholders chunks, (value? p.name).isSome)
    (allowUnresolved allowUnresolved' : Bool) :
    fill value? encode allowUnresolved chunks = fill value? encode allowUnresolved' chunks := by
  induction chunks with
  | nil => rfl
  | cons c rest ih =>
    cases c with
    | literal text => rw [fill, fill, ih h]
    | placeholder p =>
      rw [Chunk.placeholders_placeholder, List.forall_mem_cons] at h
      obtain ⟨v, hv⟩ := Option.isSome_iff_exists.mp h.1
      rw [fill, fill, ih h.2, hv]

/-- If no value may be missing, none is. -/
theorem isSome_of_fill {out : String} (hout : fill value? encode false chunks = .ok out)
    {p : Placeholder} (hp : p ∈ Chunk.placeholders chunks) : (value? p.name).isSome := by
  induction chunks generalizing out with
  | nil => cases hp
  | cons c rest ih =>
    cases c with
    | literal text =>
      obtain ⟨_, hrest, -⟩ := Except.exists_ok_of_bind hout
      exact ih hrest hp
    | placeholder q =>
      rw [Chunk.placeholders_placeholder] at hp
      rw [fill] at hout
      cases hvalue : value? q.name with
      | none =>
        rw [hvalue] at hout
        cases hout
      | some v =>
        rw [hvalue] at hout
        obtain ⟨_, -, hout⟩ := Except.exists_ok_of_bind hout
        obtain ⟨_, -, hout⟩ := Except.exists_ok_of_bind hout
        obtain ⟨_, hrest, -⟩ := Except.exists_ok_of_bind hout
        rcases List.mem_cons.mp hp with rfl | hp
        · exact Option.isSome_iff_exists.mpr ⟨v, hvalue⟩
        · exact ih hrest hp

/-- Values in the order of the placeholders are put in as by name, if the names are different: the
text is the same, and so is the error, which is about the first value that the constraint of its
placeholder rejects. Where placeholders may not be kept, there is a text if there is one where they
may and no value is missing, and it is the same. -/
theorem substitutions_agree (t : Template) :
    (t.variableNames.Nodup → ∀ vs : List String,
      let value? name := (t.variableNames.zip vs).lookup name
      Supplies t.variableNames vs value? ∧
        t.substitutePositional vs = t.substitute value? [] true) ∧
    (∀ vs out, t.substitutePositional vs = .ok out ↔
      (∀ x ∈ t.placeholders.zip vs, x.1.accepts x.2) ∧ out = Chunk.supplied t.chunks vs) ∧
    (∀ vs e, t.substitutePositional vs = .error e ↔
      ∃ before p v after c, t.placeholders.zip vs = before ++ (p, v) :: after ∧
        (∀ x ∈ before, x.1.accepts x.2) ∧ p.constraint = some c ∧
          ¬c.regex.isMatch v.toList ∧ e = .constraintViolation p.name v c.source) ∧
    ∀ value? encode out, t.substitute value? encode false = .ok out ↔
      t.substitute value? encode true = .ok out ∧
        ∀ name ∈ t.variableNames, (value? name).isSome := by
  refine ⟨fun hnodup vs => ?_, fun vs out => fillPositional_eq_ok_iff,
    fun vs e => fillPositional_eq_error_iff, fun value? encode out => ?_⟩
  · have hsupplies := Supplies.lookup hnodup vs
    exact ⟨hsupplies, (fill_eq_fillPositional hsupplies).symm⟩
  · rw [variableNames, List.forall_mem_map]
    constructor
    · intro hout
      have hvalues : ∀ p ∈ t.placeholders, (value? p.name).isSome :=
        fun p hp => isSome_of_fill hout hp
      exact ⟨(fill_congr_of_values hvalues true false).trans hout, hvalues⟩
    · rintro ⟨hout, hvalues⟩
      exact (fill_congr_of_values hvalues false true).trans hout

/-- A month as a word and as a number: the word is put in, and the year is kept. -/
theorem month_in_digits_is_rejected :
    ∃ t, compile "\x7bday\x7d \x7bmonth:[a-z]+\x7d \x7byear\x7d" = .ok t ∧
      t.variableNames.Nodup ∧
      t.substitute (fun name => (t.variableNames.zip ["1", "may"]).lookup name) [] true =
        .ok "1 may \x7byear\x7d" ∧
      t.substitute (fun name => (t.variableNames.zip ["1", "5", "90"]).lookup name) [] true =
        .error (.constraintViolation "month" "5" "[a-z]+") := by
  let word := Regex.rep true 1 none (.chars (.range 'a' 'z'))
  let month : Placeholder := ⟨"month", some ⟨"[a-z]+", word.between⟩⟩
  let chunks : List Chunk := [.placeholder ⟨"day", none⟩, .literal " ", .placeholder month,
    .literal " ", .placeholder ⟨"year", none⟩]
  let t : Template :=
    ⟨"\x7bday\x7d \x7bmonth:[a-z]+\x7d \x7byear\x7d", chunks, (tree chunks).between⟩
  have hcompile : compile "\x7bday\x7d \x7bmonth:[a-z]+\x7d \x7byear\x7d" = .ok t := by
    decide +kernel
  have hword : Regex.parse? "[a-z]+".toList = some word := by decide +kernel
  have haccepts (v : String) : month.accepts v ↔ word.MatchesWhole v.toList :=
    Placeholder.accepts_iff (of_compile hcompile).1 (by simp [t, chunks]) rfl hword v
  simp only [word, Regex.matchesWhole_rep_chars] at haccepts
  have hmay : month.accepts "may" :=
    (haccepts "may").mpr ⟨by decide, List.all_eq_true.mp (by decide)⟩
  have hfive : ¬month.accepts "5" := fun h =>
    absurd (((haccepts "5").mp h).2 '5' (.head _)) (by decide)
  obtain ⟨hagree, htext, herror, -⟩ := t.substitutions_agree
  have hnodup : t.variableNames.Nodup := by decide
  refine ⟨t, hcompile, hnodup, (hagree hnodup _).2.symm.trans ?_,
    (hagree hnodup _).2.symm.trans ?_⟩
  · have hzip : t.placeholders.zip ["1", "may"] = [(⟨"day", none⟩, "1"), (month, "may")] := rfl
    refine (htext _ _).mpr ⟨?_, by decide⟩
    rw [hzip]
    exact List.forall_mem_cons.mpr ⟨rfl, List.forall_mem_cons.mpr ⟨hmay, nofun⟩⟩
  · exact (herror _ _).mpr ⟨[(⟨"day", none⟩, "1")], month, "5", [(⟨"year", none⟩, "90")], _, rfl,
      List.forall_mem_cons.mpr ⟨rfl, nofun⟩, rfl, hfive, rfl⟩

end Template

end Parley
