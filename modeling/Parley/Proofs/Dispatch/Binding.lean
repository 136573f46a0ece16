import Parley.Dispatch
import Parley.Proofs.Journal

/-!
# The arguments of a handler

The arguments of a handler are bound one after the other. What the pattern of a facet captures is
kept for the bindings that follow, and this makes no difference: what is kept of a facet is what
its pattern captures.

## Main definitions

- `Handler.rawValue` — the text that a binding takes from a message
- `Handler.value` — the argument of a binding
- `Handler.Known` — what is kept of facets is right
- `Handler.Binds` — the result of a binding among others

## Main results

- `bindFrom_eq_mapM` — bindings with what is kept of the facets before them
- `bindParameters_eq_mapM` — all bindings of a handler
- `bindParameters_eq_ok_iff`, `bindParameters_eq_error_iff` — when there are arguments
- `arguments_are_bound_one_by_one` — the arguments of a handler, and why there are none
-/

namespace Parley

variable {γ : Type}

theorem convert_text (s : String) : convert (some s) .text = .ok (.text s) := by
  rw [convert, if_pos rfl, readValue, String.ofList_toList]

namespace Handler

/-- The text that a binding takes from a message. Whatever bindings there are before it, the facet
is matched again. -/
def rawValue (h : Handler γ) (m : Message) (b : Binding) : Option String :=
  match b.placeholder with
  | none => m.get? b.facet
  | some name => (h.captures m b.facet).bind fun t => t.first? name

/-- The argument of a binding. -/
def value (h : Handler γ) (m : Message) (b : Binding) : Except ConversionError Value :=
  convert (h.rawValue m b) b.target

/-- What is kept of facets is what the patterns of the handler capture from them. -/
def Known (h : Handler γ) (m : Message) (known : List (String × Option TemplateMatch)) : Prop :=
  ∀ facet matched, known.lookup facet = some matched → matched = h.captures m facet

variable {h : Handler γ} {m : Message} {known : List (String × Option TemplateMatch)}

theorem known_nil : h.Known m [] :=
  nofun

theorem Known.cons (hknown : h.Known m known) (facet : String) :
    h.Known m ((facet, h.captures m facet) :: known) := by
  intro facet' matched hlookup
  by_cases heq : facet' = facet
  · subst heq
    rw [List.lookup_cons_self] at hlookup
    exact (Option.some.inj hlookup).symm
  · rw [List.lookup_cons, beq_false_of_ne heq] at hlookup
    exact hknown facet' matched hlookup

/-- Whether or not a facet was needed before, the same is captured from it. -/
theorem Known.getD_lookup (hknown : h.Known m known) (facet : String) :
    (known.lookup facet).getD (h.captures m facet) = h.captures m facet := by
  cases hlookup : known.lookup facet with
  | none => rfl
  | some matched => exact hknown facet matched hlookup

end Handler

/-- What is kept of the facets does not change the arguments. -/
theorem bindFrom_eq_mapM {h : Handler γ} {m : Message}
    {known : List (String × Option TemplateMatch)} (hknown : h.Known m known)
    (bs : List Binding) : bindFrom m h known bs = bs.mapM (h.value m) := by
  -- more is kept of the facets with every binding
  induction bs generalizing known with
  | nil => rfl
  | cons b rest ih =>
    rw [List.mapM_cons, Handler.value, Handler.rawValue, bindFrom.eq_def]
    cases hname : b.placeholder with
    | none =>
      simp only [hname]
      rw [ih hknown]
    | some name =>
      simp only [hname]
      rw [hknown.getD_lookup, ih (hknown.cons b.facet)]

/-- The arguments of a handler are those of its bindings, each on its own. -/
theorem bindParameters_eq_mapM (m : Message) (h : Handler γ) :
    bindParameters m h = (h.bindings.mapM (h.value m)).map Args.mk := by
  rw [bindParameters, bindFrom_eq_mapM Handler.known_nil]

/-- There are arguments if every binding has one. -/
theorem bindParameters_eq_ok_iff {m : Message} {h : Handler γ} {args : Args} :
    bindParameters m h = .ok args ↔
      List.Forall₂ (fun b v => h.value m b = .ok v) h.bindings args.values := by
  rw [bindParameters_eq_mapM, Except.map_eq_ok_iff, ← Except.mapM_eq_ok_iff]
  constructor
  · rintro ⟨vs, hvs, rfl⟩
    exact hvs
  · intro hvalues
    exact ⟨args.values, hvalues, rfl⟩

/-- There are no arguments if a binding has none, and the first such binding says why. -/
theorem bindParameters_eq_error_iff {m : Message} {h : Handler γ} {e : ConversionError} :
    bindParameters m h = .error e ↔ ∃ before b after, h.bindings = before ++ b :: after ∧
      (∀ b' ∈ before, ∃ v, h.value m b' = .ok v) ∧ h.value m b = .error e := by
  rw [bindParameters_eq_mapM, Except.map_eq_error_iff, Except.mapM_eq_error_iff]

/-- Whatever the other bindings are, the handler binds `b` with the result `r`. -/
structure Handler.Binds (h : Handler γ) (m : Message) (b : Binding)
    (r : Except ConversionError Value) : Prop where
  /-- The result is that of the binding on its own. -/
  value_eq : h.value m b = r
  /-- An argument in the place of the binding is the result. -/
  argument : ∀ i args, h.bindings[i]? = some b → bindParameters m h = .ok args →
    ∃ v, r = .ok v ∧ args.get? i = some v
  /-- If the result is a value, it is another binding for which there are no arguments. -/
  blameless : ∀ v e, r = .ok v → bindParameters m h = .error e →
    ∃ b' ∈ h.bindings, b' ≠ b ∧ h.value m b' = .error e

theorem Handler.binds_value (h : Handler γ) (m : Message) (b : Binding) :
    h.Binds m b (h.value m b) where
  value_eq := rfl
  argument := by
    intro i args hb hargs
    obtain ⟨hi, rfl⟩ := List.getElem?_eq_some_iff.mp hb
    have hvalues := bindParameters_eq_ok_iff.mp hargs
    have hi' : i < args.values.length := hvalues.length_eq ▸ hi
    exact ⟨args.values[i], List.Forall₂.get hvalues hi hi', List.getElem?_eq_getElem hi'⟩
  blameless := by
    intro v e hv he
    obtain ⟨before, b', after, hbindings, -, hb'⟩ := bindParameters_eq_error_iff.mp he
    refine ⟨b', by simp [hbindings], ?_, hb'⟩
    rintro rfl
    rw [hv] at hb'
    cases hb'

/-- The arguments of a handler are bound as if each facet were matched again for every binding:
there is one argument for each binding, in order, or the error of the first binding that cannot be
converted. -/
theorem arguments_are_bound_one_by_one (m : Message) (h : Handler γ) :
    bindParameters m h = (h.bindings.mapM fun b => convert (h.rawValue m b) b.target).map Args.mk ∧
      (∀ args, bindParameters m h = .ok args ↔
        List.Forall₂ (fun b v => convert (h.rawValue m b) b.target = .ok v) h.bindings
          args.values) ∧
      ∀ e, bindParameters m h = .error e ↔ ∃ before b after,
        h.bindings = before ++ b :: after ∧
          (∀ b' ∈ before, ∃ v, convert (h.rawValue m b') b'.target = .ok v) ∧
          convert (h.rawValue m b) b.target = .error e :=
  ⟨bindParameters_eq_mapM m h, fun _ => bindParameters_eq_ok_iff,
    fun _ => bindParameters_eq_error_iff⟩

end Parley
