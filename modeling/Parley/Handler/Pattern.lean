import Parley.Template.Basic

/-!
# Patterns for facets

A handler states for each facet which values it accepts. One pattern text is read in two ways, as
a regular expression and as a template, and accepts what either reading matches as a whole. The
empty text accepts anything, an absent facet included.

## Main definitions

- `FacetPattern`, `FacetPattern.compile` — a pattern in both readings
- `MatchPath`, `FacetPattern.matchPath` — which reading accepts a value
- `FacetPattern.captures` — what the template reading captures
-/

namespace Parley

/-- The reading by which a pattern accepts a value. -/
inductive MatchPath
  | any
  | regex
  | template
  deriving Repr, DecidableEq

/-- A compiled pattern. -/
structure FacetPattern where
  /-- The text of the pattern. -/
  raw : String
  /-- The reading as a regular expression, if the text is one. -/
  regex : Option Regex
  /-- The reading as a template, if the text is one. -/
  template : Option Template
  deriving Repr, DecidableEq

namespace FacetPattern

/-- Compiles a pattern. It must have a reading; the error of the template is reported if it has
none. -/
def compile (raw : String) : Except PatternError FacetPattern :=
  if raw.isEmpty then .ok ⟨"", none, none⟩
  else
    let regex := anchored? raw.toList
    match Template.compile raw with
    | .ok t => .ok ⟨raw, regex, some t⟩
    | .error e => if regex.isSome then .ok ⟨raw, regex, none⟩ else .error e

/-- The reading by which a value is accepted; the regular expression is tried first. -/
def matchPath (p : FacetPattern) (value : Option String) : Option MatchPath :=
  if p.raw.isEmpty then some .any
  else
    match value with
    | none => none
    | some v =>
      if p.regex.any fun r => r.isMatch v.toList then some .regex
      else if p.template.any fun t => t.isMatch v then some .template
      else none

/-- Whether a value is accepted. -/
def accepts (p : FacetPattern) (value : Option String) : Bool :=
  (p.matchPath value).isSome

/-- What the template reading captures from a value. -/
def captures (p : FacetPattern) (value : Option String) : Option TemplateMatch :=
  p.template.bind fun t => t.matchInput value

end FacetPattern

end Parley
