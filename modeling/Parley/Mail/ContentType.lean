import Parley.Mail.Header
import Parley.Mail.Span

/-!
# Content types

A part names what it holds by a type, a type within that, and parameters.

## Main definitions

- `ContentType` — the type of a part
- `Parameter` — a parameter as it is written, perhaps in several sections
- `ContentTypeReader` — the state of reading a content type
- `Field.contentType?` — a value as a content type

## Design notes

A parameter whose name ends in an asterisk may name a character set and have bytes by number; one
whose name ends in an asterisk and a number is a section of a longer value. Of two parameters of
one name, the first counts.
-/

namespace Parley.Mail

open Parley.Text

/-- The type of a part. Types and names are in small letters. -/
structure ContentType where
  /-- The type. -/
  kind : String
  /-- The type within that, if there is one. -/
  subkind : Option String
  /-- The parameters. -/
  parameters : List (String × List Char)
  deriving Repr, DecidableEq

-- ════════════════════════════════════════════════════════════════════════
-- Parameters
-- ════════════════════════════════════════════════════════════════════════

/-- The bytes of a text in which two hexadecimal digits after a percent sign stand for a byte;
`none` if other characters follow such a sign. A sign at the end of the text is dropped. -/
def decodePercents : List UInt8 → Option (List UInt8)
  | [] => some []
  | 37 :: a :: b :: rest =>
    match hexByte? a, hexByte? b with
    | some high, some low =>
      (decodePercents rest).map fun bytes => UInt8.ofNat (high * 16 + low) :: bytes
    | _, _ => none
  | [37, a] => if (hexByte? a).isSome then some [] else none
  | b :: rest =>
    if b = 37 ∧ rest.isEmpty then some [] else (decodePercents rest).map (b :: ·)

/-- A parameter that is being read. -/
structure Parameter where
  /-- The name. -/
  name : Option String := none
  /-- The value, as far as it has been read. -/
  value : Option (List Char) := none
  /-- Whether there is an asterisk after the name. -/
  starred : Bool := false
  /-- Whether the value may have bytes by number. -/
  encoded : Bool := false
  /-- The place of the section among those of the value. -/
  place : Nat := 0
  /-- The character set of bytes that are written by number. -/
  charset : Option (List Char) := none
  deriving Repr, DecidableEq

/-- A section of a value that is written in several: the name of the parameter, the place of the
section, and its text. -/
abbrev Section :=
  String × Nat × List Char

namespace Parameter

/-- Adds text to the value. -/
def append (p : Parameter) (s : List Char) : Parameter :=
  { p with value := some (p.value.getD [] ++ s) }

/-- The value with its bytes by number decoded, unless they are broken. -/
def decoded (p : Parameter) (value : List Char) : List Char :=
  if p.encoded then
    match decodePercents (encode value) with
    | some bytes => decodeCharset (p.charset.getD []) bytes
    | none => value
  else value

end Parameter

/-- The number in a text, or zero if it is none or has more than 32 bits. -/
def sectionNumber (s : List Char) : Nat :=
  match (String.ofList s).toNat? with
  | some n => if n < 0x100000000 then n else 0
  | none => 0

/-- Adds sections, in the order of their places, to the parameters of their names. -/
def joinSections (parameters : List (String × List Char)) :
    List Section → List (String × List Char)
  | [] => parameters
  | (name, _, text) :: rest =>
    let joined :=
      match parameters.lookup name with
      | some value =>
        let (before, after) := parameters.span fun p => p.1 != name
        before ++ (name, value ++ text) :: after.tail
      | none => parameters ++ [(name, text)]
    joinSections joined rest

/-- Whether a section goes before another. -/
def Section.before (s t : Section) : Bool :=
  s.2.1 < t.2.1 || s.2.1 == t.2.1 && !List.lex t.2.2 s.2.2 (fun c d => c.toNat < d.toNat)

-- ════════════════════════════════════════════════════════════════════════
-- Reading
-- ════════════════════════════════════════════════════════════════════════

/-- What a byte of a content type is part of. -/
inductive Slot
  | kind
  | subkind
  | name
  | value
  | quotedValue
  | comment
  deriving Repr, DecidableEq

/-- Whether a byte is part of the value of a parameter. -/
def Slot.isValue : Slot → Bool
  | .value | .quotedValue => true
  | _ => false

/-- Whether a byte is part of a name. -/
def Slot.isName : Slot → Bool
  | .kind | .subkind | .name => true
  | _ => false

/-- The state of reading a content type. -/
structure ContentTypeReader where
  /-- What the next byte is part of. -/
  slot : Slot := .kind
  /-- What the comment that is being read stands in. -/
  around : List Slot := []
  /-- The word being read. -/
  span : Span := {}
  /-- Whether an encoded word may begin. -/
  fresh : Bool := true
  /-- Whether a backslash takes the meaning from the next byte. -/
  escaped : Bool := false
  /-- How many bytes to skip. -/
  skip : Nat := 0
  /-- The type. -/
  kind : Option String := none
  /-- The type within that. -/
  subkind : Option String := none
  /-- The parameter being read. -/
  parameter : Parameter := {}
  /-- The parameters before it. -/
  parameters : List (String × List Char) := []
  /-- The sections before it. -/
  sections : List Section := []
  deriving Repr, DecidableEq

namespace ContentTypeReader

/-- Drops the word being read. -/
def reset (s : ContentTypeReader) : ContentTypeReader :=
  { s with span := {}, fresh := true }

/-- Adds a byte to the word being read. -/
def push (s : ContentTypeReader) (b : UInt8) : ContentTypeReader :=
  { s with span := s.span.push b, fresh := false, escaped := false }

/-- Ends a type or a name. -/
def endName (s : ContentTypeReader) : ContentTypeReader :=
  if s.span.isOpen then
    let word := String.ofList (s.span.text.map Char.toLower)
    let s := s.reset
    match s.slot with
    | .kind => { s with kind := some word }
    | .subkind => { s with subkind := some word }
    | _ => { s with parameter.name := some word }
  else s

/-- Ends a piece of a value. A blank follows it, except between quotes. -/
def endPiece (s : ContentTypeReader) : ContentTypeReader :=
  if s.span.isOpen then
    let piece := s.span.text ++ if s.slot = .quotedValue then [] else [' ']
    { s.reset with parameter := s.parameter.append piece }
  else s

/-- Ends a parameter. Without a name or a value, it is none. -/
def endParameter (s : ContentTypeReader) : ContentTypeReader :=
  let p := if s.span.isOpen then s.parameter.append s.span.text else s.parameter
  match p.name, p.value with
  | some name, some value =>
    let s := s.reset
    if p.starred ∧ 0 < p.place then
      { s with parameter := {}, sections := s.sections ++ [(name, p.place, p.decoded value)] }
    else
      { s with parameter := {}, parameters := s.parameters ++ [(name, p.decoded value)] }
  | _, _ => s

/-- Reads the number of a section, and tells whether there is one. -/
def endNumber (s : ContentTypeReader) : ContentTypeReader × Bool :=
  if s.span.isOpen then
    ({ s.reset with parameter.place := sectionNumber s.span.text }, true)
  else (s, false)

/-- Reads an asterisk after a name. -/
def star (s : ContentTypeReader) : ContentTypeReader :=
  if ¬ s.parameter.starred then
    { s.endName with parameter.starred := s.span.isOpen }
  else if ¬ s.parameter.encoded then { s.endNumber.1 with parameter.encoded := true }
  else s.reset

/-- Reads an equals sign after a name. It is passed over if no name has just been read. -/
def equals (s : ContentTypeReader) : ContentTypeReader :=
  if ¬ s.parameter.starred then
    if s.span.isOpen then { s.endName with slot := .value } else s
  else if ¬ s.parameter.encoded then
    let (s, numbered) := s.endNumber
    { s with slot := .value, parameter.encoded := !numbered }
  else { s.reset with slot := .value }

/-- Ends what stands before a quote in an encoded value: a character set, then a language. -/
def endMark (s : ContentTypeReader) : ContentTypeReader :=
  if s.span.isOpen then
    let word := s.span.text
    let p := s.parameter
    let language := p.name.getD "" ++ "-language"
    let s := s.reset
    if p.charset.isNone then { s with parameter.charset := some word }
    else if (s.parameters.lookup language).isNone then
      { s with parameters := s.parameters ++ [(language, word)] }
    else { s with parameter := p.append ('\'' :: word) }
  else s

/-- Ends a line, which a next line continues if `goesOn`. A quoted value goes on with it. -/
def endLine (s : ContentTypeReader) (goesOn : Bool) : ContentTypeReader :=
  if s.slot = .quotedValue ∧ goesOn then
    let gap := s.span.gap.dropWhile fun b => b = 13
    { s with span := ({ s.span with gap } : Span).pass 32, fresh := true, skip := 1 }
  else
    let s := if s.slot.isName then s.endName else if s.slot.isValue then s.endParameter else s
    if goesOn then { s with slot := .name, fresh := true, skip := 1 } else s

/-- Reads a byte with a meaning of its own, if it has that meaning here. -/
def sign? (s : ContentTypeReader) (c : Char) : Option ContentTypeReader :=
  match c, s.slot with
  | '/', .kind => some { s.endName with slot := .subkind }
  | ';', .value =>
    some (if s.escaped then { s with escaped := false }
      else { s.endParameter with slot := .name })
  | ';', slot => if slot.isName then some { s.endName with slot := .name } else none
  | '*', .name => some s.star
  | '=', .name => some s.equals
  | '"', .value => some { s with slot := .quotedValue, span := s.span.pass 34 }
  | '"', .quotedValue =>
    if s.escaped then none else some { s.endParameter with slot := .name }
  | '"', _ => some { s with span := s.span.pass 34 }
  | '\\', .comment => some { s with escaped := !s.escaped }
  | '\\', slot =>
    if slot.isValue then if s.escaped then none else some { s.endPiece with escaped := true }
    else some { s with span := s.span.pass 92 }
  | '\'', slot =>
    if slot.isValue ∧ s.parameter.encoded ∧ ¬ s.escaped then some s.endMark else none
  | '(', .quotedValue => none
  | '(', slot =>
    if s.escaped then some { s with escaped := false }
    else
      let s := if slot.isName then s.endName else if slot.isValue then s.endParameter else s
      some { s with slot := .comment, around := slot :: s.around }
  | ')', .comment =>
    if s.escaped then some { s with escaped := false }
    else some { s.reset with slot := s.around.headD .name, around := s.around.tail }
  | _, _ => none

/-- Reads a byte, of which `rest` are those after. -/
def step (s : ContentTypeReader) (b : UInt8) (rest : List UInt8) : ContentTypeReader :=
  let c := Char.ofNat b.toNat
  match s.skip with
  | skip + 1 => { s with skip }
  | 0 =>
    if c = '\n' then s.endLine (continuesLine rest)
    else if c = '\r' then { s with span := s.span.pass b }
    else if isLineBlank b then
      let span := if s.slot = .quotedValue then s.span.push b else s.span.pass b
      { s with span, fresh := true }
    else
      match s.sign? c with
      | some s => s
      | none =>
        match if s.fresh && s.slot.isValue then encodedWord? (b :: rest) else none with
        | some word =>
          let s := s.endPiece
          { s with skip := word.size - 1, parameter := s.parameter.append word.text }
        | none => s.push b

/-- Reads bytes. -/
def run (s : ContentTypeReader) : List UInt8 → ContentTypeReader
  | [] => s
  | b :: bs => run (s.step b bs) bs

end ContentTypeReader

/-- The value as a content type; `none` if it names no type, or is cut off by the end of the
mail. -/
def Field.contentType? (f : Field) : Option ContentType :=
  if f.isComplete then
    let s := ContentTypeReader.run {} f.value
    s.kind.map fun kind =>
      { kind, subkind := s.subkind
        parameters := joinSections s.parameters (s.sections.mergeSort Section.before) }
  else none

/-- The value of a parameter. -/
def ContentType.parameter? (t : ContentType) (name : String) : Option (List Char) :=
  t.parameters.lookup name

end Parley.Mail
