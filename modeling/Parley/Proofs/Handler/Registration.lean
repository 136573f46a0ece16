import Mathlib.Data.List.Forall2
import Parley.Proofs.Dispatch.Order

/-!
# Registrations

Every pattern of a registration must compile, also one that a later pattern for the same facet
replaces. A registration with a pattern that does not compile has no handler, and that is all it
costs: the group is the one of the other registrations.

## Main definitions

- `Registration.compiles` — all patterns of a registration compile
- `Registration.FailsWith` — the error of the first pattern that does not
- `Registration.Gives` — the handler that a registration stands for

## Main results

- `compilePatterns_eq` — patterns are compiled in order, and put into a table one after the other
- `Registration.exists_build_iff`, `Registration.build_eq_error_iff` — when there is a handler, and
  why there is none
- `Registration.gives_of_build` — what the handler is
- `Roster.tryBuild_eq_ok_iff`, `Roster.tryBuild_eq_error_iff` — the same for all registrations
- `Roster.bad_registration_costs_only_itself` — the group of some registrations
-/

namespace Parley

variable {γ : Type}

-- ════════════════════════════════════════════════════════════════════════
-- Patterns in a table
-- ════════════════════════════════════════════════════════════════════════

/-- The last of several entries for a key is the one that is found. -/
theorem Table.get?_foldl_insert {α : Type} (t : Table α) (es : List (String × α)) (key : String) :
    (es.foldl (fun t e => t.insert e.1 e.2) t).get? key =
      (es.reverse.lookup key).or (t.get? key) := by
  induction es generalizing t with
  | nil => rfl
  | cons e es ih =>
    rw [List.foldl_cons, ih, List.reverse_cons, List.lookup_append, Option.or_assoc,
      Table.get?_insert, Table.lookup_cons_if]
    split <;> rfl

/-- Compiles the pattern of a facet. -/
def compileEntry (e : String × String) : Except PatternError (String × FacetPattern) :=
  (FacetPattern.compile e.2).map (e.1, ·)

theorem compileEntry_eq_ok_iff {e : String × String} {c : String × FacetPattern} :
    compileEntry e = .ok c ↔ c.1 = e.1 ∧ FacetPattern.compile e.2 = .ok c.2 := by
  rw [compileEntry, Except.map_eq_ok_iff]
  constructor
  · rintro ⟨p, hp, rfl⟩
    exact ⟨rfl, hp⟩
  · rintro ⟨hfacet, hp⟩
    exact ⟨c.2, hp, Prod.ext hfacet.symm rfl⟩

theorem exists_compileEntry_iff {e : String × String} :
    (∃ c, compileEntry e = .ok c) ↔ ∃ p, FacetPattern.compile e.2 = .ok p := by
  simp only [compileEntry_eq_ok_iff, Prod.exists, exists_and_left, exists_eq_left]

theorem compileEntry_eq_error_iff {e : String × String} {err : PatternError} :
    compileEntry e = .error err ↔ FacetPattern.compile e.2 = .error err :=
  Except.map_eq_error_iff

/-- Patterns are compiled in order, and put into the table one after the other. -/
theorem compilePatterns_eq (t : Table FacetPattern) (ps : List (String × String)) :
    compilePatterns t ps =
      (ps.mapM compileEntry).map fun cs => cs.foldl (fun t c => t.insert c.1 c.2) t := by
  induction ps generalizing t with
  | nil => rfl
  | cons e ps ih =>
    obtain ⟨facet, raw⟩ := e
    cases hraw : FacetPattern.compile raw with
    | error err =>
      rw [compilePatterns, hraw, Except.mapM_cons_of_error (compileEntry_eq_error_iff.mpr hraw)]
      rfl
    | ok p =>
      have hentry : compileEntry (facet, raw) = .ok (facet, p) :=
        compileEntry_eq_ok_iff.mpr ⟨rfl, hraw⟩
      rw [compilePatterns, hraw, Except.mapM_cons_of_ok hentry]
      change compilePatterns (t.insert facet p) ps = _
      rw [ih]
      cases ps.mapM compileEntry <;> rfl

/-- The entry that is found for a facet is compiled from the one that was found before. -/
theorem lookup_eq_some_iff_of_compiled {es : List (String × String)}
    {cs : List (String × FacetPattern)}
    (h : List.Forall₂ (fun e c => compileEntry e = .ok c) es cs) (facet : String)
    (p : FacetPattern) :
    cs.lookup facet = some p ↔
      ∃ raw, es.lookup facet = some raw ∧ FacetPattern.compile raw = .ok p := by
  induction h with
  | nil => simp
  | @cons e c es cs hc _ ih =>
    obtain ⟨hfacet, hcompile⟩ := compileEntry_eq_ok_iff.mp hc
    rw [Table.lookup_cons_if, Table.lookup_cons_if, hfacet]
    split
    · simp [hcompile]
    · exact ih

-- ════════════════════════════════════════════════════════════════════════
-- One registration
-- ════════════════════════════════════════════════════════════════════════

namespace Registration

/-- Whether all patterns of a registration compile. -/
def compiles (r : Registration γ) : Bool :=
  r.patterns.all fun e => (FacetPattern.compile e.2).isOk

/-- The last pattern that is registered for a facet. -/
def lastPattern? (r : Registration γ) (facet : String) : Option String :=
  r.patterns.reverse.lookup facet

/-- The first pattern that does not compile has this error. -/
def FailsWith (r : Registration γ) (e : PatternError) : Prop :=
  ∃ before facet raw after, r.patterns = before ++ (facet, raw) :: after ∧
    (∀ x ∈ before, ∃ p, FacetPattern.compile x.2 = .ok p) ∧ FacetPattern.compile raw = .error e

/-- The handler that a registration stands for. -/
structure Gives (all : Bool) (r : Registration γ) (h : Handler γ) : Prop where
  identity : h.identity = r.identity
  bindings : h.bindings = r.bindings
  action : h.action = r.action
  /-- The handler has the flag of its group. -/
  invokeAll : h.invokeAll = all
  /-- For each facet it has the last pattern, and no pattern for other facets. -/
  patterns (facet : String) (p : FacetPattern) : h.patterns.get? facet = some p ↔
    ∃ raw, r.lastPattern? facet = some raw ∧ FacetPattern.compile raw = .ok p

variable {r : Registration γ} {all : Bool} {h : Handler γ} {e : PatternError}

theorem compiles_iff :
    r.compiles ↔ ∀ x ∈ r.patterns, ∃ p, FacetPattern.compile x.2 = .ok p := by
  rw [compiles, List.all_eq_true]
  refine forall₂_congr fun x _ => ?_
  cases FacetPattern.compile x.2 with
  | ok p => exact iff_of_true rfl ⟨p, rfl⟩
  | error e => exact iff_of_false nofun nofun

theorem build_eq (r : Registration γ) (all : Bool) :
    r.build all = (r.patterns.mapM compileEntry).map fun cs =>
      ⟨r.identity, cs.foldl (fun t c => t.insert c.1 c.2) ∅, r.bindings, all, r.action⟩ := by
  rw [build, compilePatterns_eq]
  cases r.patterns.mapM compileEntry <;> rfl

/-- There is a handler if all patterns compile. -/
theorem exists_build_iff (all : Bool) : (∃ h, r.build all = .ok h) ↔ r.compiles := by
  simp only [compiles_iff, ← exists_compileEntry_iff]
  rw [← Except.exists_mapM_eq_ok_iff, build_eq]
  simp only [Except.map_eq_ok_iff]
  exact ⟨fun ⟨_, cs, hcs, _⟩ => ⟨cs, hcs⟩, fun ⟨cs, hcs⟩ => ⟨_, cs, hcs, rfl⟩⟩

/-- There is no handler if a pattern does not compile, and the first such pattern says why. -/
theorem build_eq_error_iff (all : Bool) : r.build all = .error e ↔ r.FailsWith e := by
  rw [build_eq, Except.map_eq_error_iff, Except.mapM_eq_error_iff, FailsWith]
  simp only [exists_compileEntry_iff, compileEntry_eq_error_iff]
  constructor
  · rintro ⟨before, ⟨facet, raw⟩, after, h⟩
    exact ⟨before, facet, raw, after, h⟩
  · rintro ⟨before, facet, raw, after, h⟩
    exact ⟨before, (facet, raw), after, h⟩

/-- What the handler of a registration is. -/
theorem gives_of_build (hbuild : r.build all = .ok h) : r.Gives all h := by
  rw [build_eq, Except.map_eq_ok_iff] at hbuild
  obtain ⟨cs, hcs, rfl⟩ := hbuild
  refine ⟨rfl, rfl, rfl, rfl, fun facet p => ?_⟩
  rw [Table.get?_foldl_insert, Table.get?_empty, Option.or_none]
  exact lookup_eq_some_iff_of_compiled
    (List.forall₂_reverse_iff.mpr (Except.mapM_eq_ok_iff.mp hcs)) facet p

/-- The handlers that can be built are those of the registrations whose patterns compile. -/
theorem forall₂_built (all : Bool) (rs : List (Registration γ)) :
    List.Forall₂ (Gives all) (rs.filter compiles) (built all rs) := by
  induction rs with
  | nil => exact .nil
  | cons r rs ih =>
    rw [built, List.filterMap_cons, ← built]
    cases hbuild : r.build all with
    | ok h =>
      rw [List.filter_cons_of_pos ((exists_build_iff all).mp ⟨h, hbuild⟩)]
      exact .cons (gives_of_build hbuild) ih
    | error e =>
      have hbad : ¬r.compiles := fun hcompiles => by
        obtain ⟨h, hh⟩ := (exists_build_iff all).mpr hcompiles
        rw [hbuild] at hh
        cases hh
      rw [List.filter_cons_of_neg hbad]
      exact ih

/-- The identity of a registration that does not compile, with its error. -/
def rejection? (all : Bool) (r : Registration γ) : Option (String × PatternError) :=
  match r.build all with
  | .ok _ => none
  | .error e => some (r.identity, e)

theorem rejection?_eq_none_iff : r.rejection? all = none ↔ r.compiles := by
  rw [← exists_build_iff all, rejection?]
  cases r.build all with
  | ok h => exact iff_of_true rfl ⟨h, rfl⟩
  | error e => exact iff_of_false nofun nofun

theorem rejection?_eq_some_iff {id : String} :
    r.rejection? all = some (id, e) ↔ id = r.identity ∧ r.FailsWith e := by
  rw [← build_eq_error_iff all, rejection?]
  cases r.build all with
  | ok h => exact iff_of_false nofun fun h => nomatch h.2
  | error e' => simp [eq_comm]

/-- Registrations that do not compile have no handler. -/
theorem built_filter (all : Bool) (rs : List (Registration γ)) :
    built all (rs.filter compiles) = built all rs := by
  rw [built, List.filterMap_filter, built]
  refine List.filterMap_congr fun r _ => ?_
  split
  · rfl
  · next hbad =>
    cases hbuild : r.build all with
    | ok h => exact absurd ((exists_build_iff all).mp ⟨h, hbuild⟩) hbad
    | error e => rfl

end Registration

-- ════════════════════════════════════════════════════════════════════════
-- The group of some registrations
-- ════════════════════════════════════════════════════════════════════════

namespace Roster

variable {r : Roster γ} {e : PatternError}

/-- The registrations that are rejected, with their errors. -/
theorem compile_snd (all : Bool) (rs : List (Registration γ)) :
    (compile all rs).2 = rs.filterMap (Registration.rejection? all) := by
  induction rs with
  | nil => rfl
  | cons q rest ih =>
    rw [compile, List.filterMap_cons, Registration.rejection?, ← ih]
    cases q.build all <;> rfl

/-- No registration is rejected if all of them compile. -/
theorem compile_snd_eq_nil_iff (all : Bool) (rs : List (Registration γ)) :
    (compile all rs).2 = [] ↔ ∀ q ∈ rs, q.compiles := by
  rw [compile_snd, List.filterMap_eq_nil_iff]
  simp only [Registration.rejection?_eq_none_iff]

/-- The first registration that is rejected is the first one that does not compile. -/
theorem exists_compile_snd_eq_cons_iff (all : Bool) (rs : List (Registration γ)) :
    (∃ id rejected, (compile all rs).2 = (id, e) :: rejected) ↔
      ∃ before q after, rs = before ++ q :: after ∧ (∀ q' ∈ before, q'.compiles) ∧
        q.FailsWith e := by
  simp only [compile_snd, List.filterMap_eq_cons_iff, Registration.rejection?_eq_none_iff,
    Registration.rejection?_eq_some_iff]
  constructor
  · rintro ⟨id, rejected, before, q, after, hrs, hbefore, ⟨-, he⟩, -⟩
    exact ⟨before, q, after, hrs, hbefore, he⟩
  · rintro ⟨before, q, after, hrs, hbefore, he⟩
    exact ⟨q.identity, _, before, q, after, hrs, hbefore, ⟨rfl, he⟩, rfl⟩

/-- There is a group in the strict sense if no registration is rejected, and then it is the group
that is built in any case. -/
theorem tryBuild_eq_ok_iff {g : Group γ} :
    r.tryBuild = .ok g ↔ (∀ q ∈ r.registrations, q.compiles) ∧ g = r.build := by
  rw [← compile_snd_eq_nil_iff r.invokeAll, tryBuild]
  cases (compile r.invokeAll r.registrations).2 with
  | nil => simp [eq_comm]
  | cons x rejected => simp

/-- If there is none, the first registration that is rejected says why. -/
theorem tryBuild_eq_error_iff :
    r.tryBuild = .error e ↔ ∃ before q after, r.registrations = before ++ q :: after ∧
      (∀ q' ∈ before, q'.compiles) ∧ q.FailsWith e := by
  rw [← exists_compile_snd_eq_cons_iff r.invokeAll, tryBuild]
  cases (compile r.invokeAll r.registrations).2 with
  | nil => simp
  | cons x rejected =>
    obtain ⟨id, e'⟩ := x
    simp

/-- The group of some registrations is the one of those that compile. Each of these has a handler
in it, with the flag of the group and, for each facet, the last pattern; the handlers stand in the
order of their identities, and equal identities in the order of registration. There is a group in
the strict sense if all registrations compile, and then it is the same; else the first pattern that
does not compile, of the first registration that has one, says why. -/
theorem bad_registration_costs_only_itself (r : Roster γ) :
    let good := r.registrations.filter Registration.compiles
    (Roster.build { r with registrations := good } = r.build ∧
      Roster.tryBuild { r with registrations := good } = .ok r.build) ∧
    (∃ hs, List.Forall₂ (Registration.Gives r.invokeAll) good hs ∧ r.build.handlers.Perm hs ∧
      r.build.handlers.Pairwise Handler.InOrder ∧
      ∀ id, r.build.handlers.filter (fun h => h.identity = id) =
        hs.filter fun h => h.identity = id) ∧
    (∀ g, r.tryBuild = .ok g ↔ (∀ q ∈ r.registrations, q.compiles) ∧ g = r.build) ∧
    ∀ e, r.tryBuild = .error e ↔ ∃ before q after, r.registrations = before ++ q :: after ∧
      (∀ q' ∈ before, q'.compiles) ∧ q.FailsWith e := by
  intro good
  have hbuild : Roster.build { r with registrations := good } = r.build := by
    rw [build, build, compile_fst, compile_fst]
    simp only [good, Registration.built_filter]
  refine ⟨⟨hbuild, ?_⟩, ?_, fun g => tryBuild_eq_ok_iff, fun e => tryBuild_eq_error_iff⟩
  · exact tryBuild_eq_ok_iff.mpr ⟨fun q hq => (List.mem_filter.mp hq).2, hbuild.symm⟩
  · rw [handlers_build]
    exact ⟨_, Registration.forall₂_built r.invokeAll r.registrations, perm_sortHandlers _,
      pairwise_sortHandlers _, fun id => filter_sortHandlers id _⟩

end Roster

end Parley
