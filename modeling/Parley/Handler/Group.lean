import Parley.Handler.Pattern
import Parley.Handler.Reply
import Parley.Table

/-!
# Handlers and their groups

A handler is registered with an identity, patterns for facets, the bindings of its arguments and
what it does. Groups of handlers are built from registrations; a registration with a bad pattern
costs only itself.

## Main definitions

- `Binding` — where an argument comes from
- `Registration`, `Handler` — a handler before and after its patterns are compiled
- `Group` — handlers in the order of their identities
- `Roster` — the registrations of a group
- `Roster.build` — the group, without the handlers whose patterns do not compile
- `Roster.tryBuild` — the group, or the first error
-/

namespace Parley

/-- Where an argument of a handler comes from. -/
structure Binding where
  /-- The facet. -/
  facet : String
  /-- The placeholder whose value is bound; without one, the value of the whole facet. -/
  placeholder : Option String
  /-- The type that the value is converted to. -/
  target : ValueType
  deriving Repr, DecidableEq

/-- Binds the value of a whole facet. -/
def Binding.whole (facet : String) (target : ValueType) : Binding :=
  ⟨facet, none, target⟩

/-- Binds what a placeholder captures from a facet. -/
def Binding.capture (facet placeholder : String) (target : ValueType) : Binding :=
  ⟨facet, some placeholder, target⟩

/-- A handler whose patterns are not compiled yet. -/
structure Registration (γ : Type) where
  /-- The identity. -/
  identity : String
  /-- The facets with their patterns; a later pattern for a facet replaces an earlier one. -/
  patterns : List (String × String) := []
  /-- The arguments. -/
  bindings : List Binding := []
  /-- What the handler does; without it, it replies with nothing. -/
  action : Args → Reaction γ := fun _ => ⟨[], .reply .nothing⟩

/-- A handler. -/
structure Handler (γ : Type) where
  /-- The identity. -/
  identity : String
  /-- The compiled patterns of the facets. -/
  patterns : Table FacetPattern
  /-- The arguments. -/
  bindings : List Binding
  /-- Whether all matching handlers of its group are invoked. -/
  invokeAll : Bool
  /-- What the handler does. -/
  action : Args → Reaction γ

/-- Compiles patterns in order into a table; every one must compile, also one that is replaced. -/
def compilePatterns (patterns : Table FacetPattern) :
    List (String × String) → Except PatternError (Table FacetPattern)
  | [] => .ok patterns
  | (facet, raw) :: rest => do
    let p ← FacetPattern.compile raw
    compilePatterns (patterns.insert facet p) rest

/-- Compiles the patterns of a registration. -/
def Registration.build {γ : Type} (r : Registration γ) (invokeAll : Bool) :
    Except PatternError (Handler γ) := do
  let patterns ← compilePatterns ∅ r.patterns
  pure ⟨r.identity, patterns, r.bindings, invokeAll, r.action⟩

/-- Handlers that stand for one topic, in the order of their identities. -/
structure Group (γ : Type) where
  /-- The name of the group. -/
  name : String
  /-- Whether all matching handlers are invoked, and not only the first. -/
  invokeAll : Bool
  /-- The handlers. -/
  handlers : List (Handler γ)

/-- The group without handlers. -/
def Group.empty {γ : Type} (name : String) : Group γ :=
  ⟨name, false, []⟩

/-- Handlers in the order of their identities; equal identities keep their order. -/
def sortHandlers {γ : Type} (hs : List (Handler γ)) : List (Handler γ) :=
  hs.mergeSort fun a b => decide (a.identity ≤ b.identity)

/-- The registrations of a group. -/
structure Roster (γ : Type) where
  /-- The name of the group. -/
  name : String
  /-- Whether all matching handlers are invoked, and not only the first. -/
  invokeAll : Bool := false
  /-- The registrations, in order. -/
  registrations : List (Registration γ) := []

namespace Roster

variable {γ : Type}

/-- The handlers that can be built, and the identities and errors of the others. -/
def compile (invokeAll : Bool) :
    List (Registration γ) → List (Handler γ) × List (String × PatternError)
  | [] => ([], [])
  | r :: rest =>
    let (hs, rejected) := compile invokeAll rest
    match r.build invokeAll with
    | .ok h => (h :: hs, rejected)
    | .error e => (hs, (r.identity, e) :: rejected)

/-- The group of the handlers that can be built. -/
def build (r : Roster γ) : Group γ :=
  ⟨r.name, r.invokeAll, sortHandlers (compile r.invokeAll r.registrations).1⟩

/-- The group, if all handlers can be built; else the first error. -/
def tryBuild (r : Roster γ) : Except PatternError (Group γ) :=
  match (compile r.invokeAll r.registrations).2 with
  | [] => .ok r.build
  | (_, e) :: _ => .error e

end Roster

end Parley
