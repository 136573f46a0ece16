import Parley.Template.Chunk

/-!
# Templates

A template is a text with placeholders that can be read in two directions: an input is matched
against it, which gives values to the placeholders, and values are put into it, which gives a
text.

## Main definitions

- `Template`, `Template.compile` — a text that was found to be a template
- `Template.body` — the pattern that a template stands for
- `Template.matchInput` — matches an input and assigns the groups to the placeholders
- `TemplateMatch` — the values found, with the remainder of the input
- `Template.substitute`, `Template.substitutePositional` — put values in place of placeholders
- `SubstituteError` — why values cannot be put in

## Design notes

Everything that can be told from the chunks is a function of them. The regex is kept beside them
because not every list of chunks has one.
-/

namespace Parley

open Parley.Text

/-- The name under which the remainder of an input is found. -/
def finalGroupName : String :=
  "FINAL_MATCH_GROUP"

/-- The characters of a literal that are escaped in the pattern; the others keep the meaning that
they have there. -/
def isEscaped (c : Char) : Bool :=
  c == '.' || c == '*' || c == '+' || c == '$' || c == '(' || c == ')'

/-- A literal as part of a pattern. -/
def escapeLiteral (s : List Char) : List Char :=
  s.flatMap fun c => if isEscaped c then ['\\', c] else [c]

/-- The pattern of a placeholder: its constraint, or a text without slashes that is not empty and
as short as possible. -/
def Placeholder.group (p : Placeholder) : List Char :=
  match p.constraint with
  | some c => '(' :: c.source.toList ++ [')']
  | none => "([^/]+?)".toList

/-- The pattern of a chunk. -/
def Chunk.pattern : Chunk → List Char
  | .literal text => escapeLiteral text.toList
  | .placeholder p => p.group

/-- Drops a final slash. -/
def dropFinalSlash (s : List Char) : List Char :=
  match s.reverse with
  | '/' :: rest => rest.reverse
  | _ => s

/-- The pattern of chunks: one after the other, without a final slash, and then an optional
remainder that begins with a slash. -/
def Chunk.body (chunks : List Chunk) : List Char :=
  dropFinalSlash (chunks.flatMap Chunk.pattern) ++ "(/.*)?".toList

/-- The placeholders among chunks, in order. -/
def Chunk.placeholders (chunks : List Chunk) : List Placeholder :=
  chunks.filterMap fun
    | .placeholder p => some p
    | .literal _ => none

/-- A compiled template. -/
structure Template where
  /-- The text that was compiled. -/
  raw : String
  /-- Its chunks. -/
  chunks : List Chunk
  /-- The regex for the whole of an input. -/
  regex : Regex
  deriving Repr, DecidableEq

namespace Template

/-- Compiles a template. -/
def compile (pattern : String) : Except PatternError Template := do
  let chunks ← Chunk.ofText pattern
  match anchored? (Chunk.body chunks) with
  | some regex => pure ⟨pattern, chunks, regex⟩
  | none => .error (.invalidRegex pattern)

/-- The pattern that the template stands for. -/
def body (t : Template) : String :=
  String.ofList (Chunk.body t.chunks)

/-- The literal text of the template as part of its pattern. -/
def literals (t : Template) : String :=
  String.ofList (t.chunks.flatMap fun
    | .literal text => escapeLiteral text.toList
    | .placeholder _ => [])

/-- The placeholders in order. -/
def placeholders (t : Template) : List Placeholder :=
  Chunk.placeholders t.chunks

/-- The names of the placeholders, in order and with repetitions. -/
def variableNames (t : Template) : List String :=
  t.placeholders.map Placeholder.name

/-- The names of the placeholders that have a constraint. -/
def customVariables (t : Template) : List String :=
  (t.placeholders.filter fun p => p.constraint.isSome).map Placeholder.name

/-- Whether the template matches an input as a whole. -/
def isMatch (t : Template) (input : String) : Bool :=
  t.regex.isMatch input.toList

end Template

/-- The values that an input gives to the placeholders of a template. -/
structure TemplateMatch where
  /-- The values with the names of their placeholders, in order. -/
  captures : List (String × String)
  /-- What follows the template in the input; it begins with a slash unless it is empty. -/
  remainder : String
  deriving Repr, DecidableEq

namespace TemplateMatch

/-- All values of a name, in order; `none` if there is none. The remainder is found under its own
name. -/
def get? (m : TemplateMatch) (name : String) : Option (List String) :=
  if name = finalGroupName then some [m.remainder]
  else
    match (m.captures.filter fun c => c.1 == name).map Prod.snd with
    | [] => none
    | values => some values

/-- The first value of a name. -/
def first? (m : TemplateMatch) (name : String) : Option String :=
  (m.get? name).bind List.head?

/-- The names that have a value, each once, in order of first appearance. -/
def names (m : TemplateMatch) : List String :=
  ((m.captures.map Prod.fst).filter fun n => n ≠ finalGroupName).eraseDups

end TemplateMatch

namespace Template

/-- The next group for a placeholder, with the groups after it. If the pattern has groups besides
those of placeholders, a group that took no part in the match is passed over, and so is an empty
one unless at most one group follows. -/
def nextGroup (ambiguous : Bool) :
    List (Option (List Char)) → Option (List Char × List (Option (List Char)))
  | [] => none
  | g :: rest =>
    let skip := match g with
      | none => true
      | some text => text.isEmpty && 2 ≤ rest.length
    if ambiguous && skip then nextGroup ambiguous rest else some (g.getD [], rest)

/-- Gives every placeholder the next group; those for which none is left get no value. -/
def assign (ambiguous : Bool) : List String → List (Option (List Char)) → List (String × String)
  | [], _ => []
  | name :: names, groups =>
    match nextGroup ambiguous groups with
    | some (text, rest) => (name, String.ofList text) :: assign ambiguous names rest
    | none => assign ambiguous names []

/-- The values and the remainder that the groups of a match stand for; the first group is the
whole match. -/
def ofGroups (names : List String) (groups : List (Option (List Char))) : TemplateMatch :=
  let inner := groups.drop 1
  { captures := assign (names.length + 1 < inner.length) names inner
    remainder := String.ofList ((groups.getLast?.join).getD []) }

/-- Matches an input as a whole. -/
def matchText (t : Template) (input : String) : Option TemplateMatch :=
  (t.regex.search input.toList).map (ofGroups t.variableNames)

/-- Matches an input that may be absent; what is absent does not match. -/
def matchInput (t : Template) (input : Option String) : Option TemplateMatch :=
  input.bind t.matchText

end Template

/-- Why values cannot be put into a template. -/
inductive SubstituteError
  /-- A value does not meet the constraint of its placeholder. -/
  | constraintViolation (name value constraint : String)
  /-- A placeholder has no value. -/
  | missingVariable (name : String)
  deriving Repr, DecidableEq

/-- The error in words. -/
def SubstituteError.message : SubstituteError → String
  | constraintViolation name value constraint =>
    "Value " ++ quoted value ++ " does not match variable " ++ name ++ " with constraint " ++
      constraint
  | missingVariable name => "Template variable " ++ name ++ " has no matching value"

/-- The value, if it meets the constraint of the placeholder. -/
def Placeholder.check (p : Placeholder) (value : String) : Except SubstituteError String :=
  if p.accepts value then .ok value
  else .error (.constraintViolation p.name value ((p.constraint.map Constraint.source).getD ""))

/-- A value whose slashes are written as percent codes. -/
def encodeSlashes (s : String) : String :=
  String.ofList (s.toList.flatMap fun c => if c = '/' then ['%', '2', 'F'] else [c])

namespace Template

/-- Fills chunks with the values of their names. -/
def fill (value? : String → Option String) (encode : List String) (allowUnresolved : Bool) :
    List Chunk → Except SubstituteError String
  | [] => .ok ""
  | .literal text :: rest => do
    let out ← fill value? encode allowUnresolved rest
    pure (text ++ out)
  | .placeholder p :: rest => do
    let text ← match value? p.name with
      | some value => do
        let value ← p.check value
        pure (if encode.contains p.name then encodeSlashes value else value)
      | none => if allowUnresolved then pure p.text else .error (.missingVariable p.name)
    let out ← fill value? encode allowUnresolved rest
    pure (text ++ out)

/-- Puts values in place of the placeholders by name. The slashes of the names in `encode` are
written as percent codes; a placeholder without a value is kept if that is allowed. -/
def substitute (t : Template) (value? : String → Option String) (encode : List String)
    (allowUnresolved : Bool) : Except SubstituteError String :=
  fill value? encode allowUnresolved t.chunks

/-- Fills chunks with values in order. -/
def fillPositional : List Chunk → List String → Except SubstituteError String
  | [], _ => .ok ""
  | .literal text :: rest, values => do
    let out ← fillPositional rest values
    pure (text ++ out)
  | .placeholder p :: rest, [] => do
    let out ← fillPositional rest []
    pure (p.text ++ out)
  | .placeholder p :: rest, value :: values => do
    let value ← p.check value
    let out ← fillPositional rest values
    pure (value ++ out)

/-- Puts values in place of the placeholders in order; placeholders beyond the last value are
kept. -/
def substitutePositional (t : Template) (values : List String) : Except SubstituteError String :=
  fillPositional t.chunks values

end Template

end Parley
