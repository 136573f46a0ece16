import Mathlib.Data.List.Forall2
import Parley.Journal

/-!
# Runs one after another

A run that is made of two shows its parts: what its state, its events and its result are is said
here once, so that no other proof opens `Act.bind` or `Traced.bind`.

## Main definitions

- `deliveryEvents` — what the hook and the handlers wrote down

## Main results

- `Except.exists_ok_of_bind` — both parts of a computation that does not fail do not fail
- `Except.map_eq_ok_iff`, `Except.map_eq_error_iff` — a computation whose result is put into another
  form
- `Except.mapM_eq_ok_iff`, `Except.mapM_eq_error_iff` — a computation for each of some elements
  gives all results, or the first error
- `Traced.bind_of_ok`, `Traced.bind_of_error` — a run without a state after one that has ended
- `Traced.bind_pure_of` — a run whose result is only put into another form
- `Act.bind_apply_of_ok`, `Act.bind_eq`, `Act.bind_apply_of_error` — a run after one that has ended
- `Traced.exists_ok_of_bind`, `Act.exists_ok_of_bind` — both parts of a run that gives a result
  give one
-/

namespace Parley

/-- A computation that gives a result is made of computations that give one. -/
theorem Except.exists_ok_of_bind {ε α β : Type} {x : Except ε α} {f : α → Except ε β} {b : β}
    (h : (x >>= f) = .ok b) : ∃ a, x = .ok a ∧ f a = .ok b := by
  cases x with
  | error e => cases h
  | ok a => exact ⟨a, rfl, h⟩

theorem Except.map_eq_ok_iff {ε α β : Type} {x : Except ε α} {f : α → β} {b : β} :
    x.map f = .ok b ↔ ∃ a, x = .ok a ∧ f a = b := by
  cases x with
  | error e => exact iff_of_false nofun nofun
  | ok a => simp [Except.map]

theorem Except.map_eq_error_iff {ε α β : Type} {x : Except ε α} {f : α → β} {e : ε} :
    x.map f = .error e ↔ x = .error e := by
  cases x with
  | error e' => simp [Except.map]
  | ok a => exact iff_of_false nofun nofun

theorem Except.toOption_eq_some_iff {ε α : Type} {x : Except ε α} {a : α} :
    x.toOption = some a ↔ x = .ok a := by
  cases x with
  | error e => exact iff_of_false nofun nofun
  | ok a' => simp [Except.toOption]

section MapM

variable {ε α β : Type} {f : α → Except ε β} {x : α} {xs : List α}

theorem Except.mapM_cons_of_ok {b : β} (h : f x = .ok b) :
    (x :: xs).mapM f = (xs.mapM f).map (b :: ·) := by
  rw [List.mapM_cons, h]
  cases xs.mapM f <;> rfl

theorem Except.mapM_cons_of_error {e : ε} (h : f x = .error e) :
    (x :: xs).mapM f = .error e := by
  rw [List.mapM_cons, h]
  rfl

/-- A computation for each of some elements gives a result for each, in order. -/
theorem Except.mapM_eq_ok_iff {bs : List β} :
    xs.mapM f = .ok bs ↔ List.Forall₂ (fun x b => f x = .ok b) xs bs := by
  induction xs generalizing bs with
  | nil =>
    constructor
    · rintro ⟨⟩
      exact .nil
    · rintro ⟨⟩
      rfl
  | cons x xs ih =>
    constructor
    · intro h
      rw [List.mapM_cons] at h
      obtain ⟨b, hb, h⟩ := exists_ok_of_bind h
      obtain ⟨cs, hcs, h⟩ := exists_ok_of_bind h
      cases h
      exact .cons hb (ih.mp hcs)
    · intro h
      cases h with
      | cons hb hbs =>
        rw [mapM_cons_of_ok hb, ih.mpr hbs]
        rfl

theorem Except.exists_mapM_eq_ok_iff :
    (∃ bs, xs.mapM f = .ok bs) ↔ ∀ x ∈ xs, ∃ b, f x = .ok b := by
  simp only [mapM_eq_ok_iff]
  induction xs with
  | nil => exact iff_of_true ⟨[], .nil⟩ nofun
  | cons x xs ih =>
    rw [List.forall_mem_cons, ← ih]
    constructor
    · rintro ⟨_, _ | ⟨hb, hbs⟩⟩
      exact ⟨⟨_, hb⟩, _, hbs⟩
    · rintro ⟨⟨b, hb⟩, bs, hbs⟩
      exact ⟨b :: bs, .cons hb hbs⟩

/-- It fails with the error of the first element for which it fails. -/
theorem Except.mapM_eq_error_iff {e : ε} :
    xs.mapM f = .error e ↔ ∃ before x after, xs = before ++ x :: after ∧
      (∀ y ∈ before, ∃ b, f y = .ok b) ∧ f x = .error e := by
  constructor
  · intro h
    induction xs with
    | nil => cases h
    | cons x xs ih =>
      cases hx : f x with
      | error e' =>
        rw [mapM_cons_of_error hx] at h
        cases h
        exact ⟨[], x, xs, rfl, nofun, hx⟩
      | ok b =>
        rw [mapM_cons_of_ok hx] at h
        cases hxs : xs.mapM f with
        | ok bs =>
          rw [hxs] at h
          cases h
        | error e' =>
          rw [hxs] at h
          cases h
          obtain ⟨before, y, after, rfl, hbefore, hy⟩ := ih hxs
          exact ⟨x :: before, y, after, rfl, List.forall_mem_cons.mpr ⟨⟨b, hx⟩, hbefore⟩, hy⟩
  · rintro ⟨before, x, after, rfl, hbefore, hx⟩
    induction before with
    | nil => exact mapM_cons_of_error hx
    | cons y before ih =>
      obtain ⟨⟨b, hy⟩, hbefore⟩ := List.forall_mem_cons.mp hbefore
      rw [List.cons_append, mapM_cons_of_ok hy, ih hbefore]
      rfl

end MapM

/-- Whether an event is an entry of the log. -/
def Event.isLogged : Event → Bool
  | logged _ => true
  | _ => false

/-- What the hook and the handlers wrote down. -/
def deliveryEvents (es : List Event) : List Event :=
  es.filter fun e => !e.isLogged

theorem deliveryEvents_append (es fs : List Event) :
    deliveryEvents (es ++ fs) = deliveryEvents es ++ deliveryEvents fs :=
  List.filter_append es fs

namespace Traced

variable {α β : Type} {x : Traced α} {f : α → Traced β}

/-- After a result the second run goes on. -/
theorem bind_of_ok {a : α} (h : x.result = .ok a) :
    x >>= f = ⟨x.events ++ (f a).events, (f a).result⟩ := by
  change Traced.bind x f = _
  simp only [Traced.bind, h]

/-- After a panic nothing happens any more. -/
theorem bind_of_error {message : String} (h : x.result = .error message) :
    x >>= f = ⟨x.events, .error message⟩ := by
  change Traced.bind x f = _
  simp only [Traced.bind, h]

/-- A run that gives a result is made of runs that give one. -/
theorem exists_ok_of_bind {b : β} (h : (x >>= f).result = .ok b) :
    ∃ a, x.result = .ok a ∧ (f a).result = .ok b := by
  cases hx : x.result with
  | error message =>
    rw [bind_of_error hx] at h
    cases h
  | ok a =>
    rw [bind_of_ok hx] at h
    exact ⟨a, rfl, h⟩

/-- A run whose result is only put into another form. -/
theorem bind_pure_of (x : Traced α) (form : α → β) :
    (x >>= fun a => pure (form a)) = ⟨x.events, x.result.map form⟩ := by
  cases hx : x.result with
  | error message => exact bind_of_error hx
  | ok a =>
    rw [bind_of_ok hx]
    exact congrArg (Traced.mk · _) (List.append_nil _)

end Traced

namespace Act

variable {σ α β : Type} {x : Act σ α} {f : α → Act σ β} {s : σ}

@[simp]
theorem pure_apply (a : α) (s : σ) : (pure a : Act σ α) s = ⟨s, [], .ok a⟩ :=
  rfl

@[simp]
theorem liftM_apply (t : Traced α) (s : σ) :
    (liftM t : Act σ α) s = ⟨s, t.events, t.result⟩ :=
  rfl

theorem log_apply (level : Level) (text : String) (fields : List (String × String)) (s : σ) :
    (liftM (Traced.log level text fields) : Act σ Unit) s =
      ⟨s, [.logged ⟨level, text, fields⟩], .ok ()⟩ :=
  rfl

/-- After a result the second run goes on in the state that the first one left. -/
theorem bind_apply_of_ok {a : α} (h : (x s).result = .ok a) :
    (x >>= f) s =
      ⟨(f a (x s).state).state, (x s).events ++ (f a (x s).state).events,
        (f a (x s).state).result⟩ := by
  change Act.bind x f s = _
  simp only [Act.bind, h]

theorem bind_eq {a : α} {t u : σ} {es fs : List Event} {r : Except String β}
    (hx : x s = ⟨t, es, .ok a⟩) (hf : f a t = ⟨u, fs, r⟩) : (x >>= f) s = ⟨u, es ++ fs, r⟩ := by
  have hresult : (x s).result = .ok a := by rw [hx]
  rw [bind_apply_of_ok hresult, hx, hf]

/-- After a panic nothing happens any more. -/
theorem bind_apply_of_error {message : String} (h : (x s).result = .error message) :
    (x >>= f) s = ⟨(x s).state, (x s).events, .error message⟩ := by
  change Act.bind x f s = _
  simp only [Act.bind, h]

/-- A run that gives a result is made of runs that give one. -/
theorem exists_ok_of_bind {b : β} (h : ((x >>= f) s).result = .ok b) :
    ∃ a, (x s).result = .ok a ∧ (f a (x s).state).result = .ok b := by
  cases hx : (x s).result with
  | error message =>
    rw [bind_apply_of_error hx] at h
    cases h
  | ok a =>
    rw [bind_apply_of_ok hx] at h
    exact ⟨a, rfl, h⟩

end Act

end Parley
