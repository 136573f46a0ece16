import Parley.Number.Integer
import Parley.Text.Blank
import Parley.Text.Utf8

/-!
# Responses of a mail server

A server answers a command with lines, the last of which begins with the tag of the command. A
line may announce a literal, a counted run of bytes that follows it and is no line, whatever it
looks like.

## Main definitions

- `cutLine` — the first line of bytes
- `literalLength?` — the length of the literal that a line announces
- `Response`, `readResponse` — the lines and literals up to the tagged line
- `Fault` — why there is no response
- `searchResults` — the numbers of the mails that a search found
- `quote` — a text as a quoted string of a command

## Design notes

Reading is a function of the bytes alone. It gives the bytes that it leaves unread, or says where
they ended too early. Room for a literal is made when it is announced, so a length that no room can
have is found before the bytes of the literal are looked at.
-/

namespace Parley.Imap

open Parley.Text

/-- The bytes before the first line end, and those after it. A line ends in a carriage return and
a line feed. -/
def cutLine : List UInt8 → Option (List UInt8 × List UInt8)
  | [] => none
  | 13 :: 10 :: rest => some ([], rest)
  | b :: bs => (cutLine bs).map fun (line, rest) => (b :: line, rest)

/-- What is left after a line is shorter. -/
theorem length_cutLine_lt {bs line rest : List UInt8} (h : cutLine bs = some (line, rest)) :
    rest.length < bs.length := by
  fun_induction cutLine bs generalizing line rest with
  | case1 => simp at h
  | case2 tail =>
    obtain ⟨-, rfl⟩ := Prod.mk.inj (Option.some.inj h)
    simp only [List.length_cons]
    omega
  | case3 b bs _ ih =>
    obtain ⟨⟨line', rest'⟩, hcut, heq⟩ := Option.map_eq_some_iff.1 h
    obtain ⟨-, rfl⟩ := Prod.mk.inj heq
    exact Nat.lt_succ_of_lt (ih hcut)

/-- The length of the literal that a line announces: a number in braces at its end. A number that
does not fit a machine word announces nothing. -/
def literalLength? (line : List Char) : Option Nat :=
  match line.reverse with
  | '}' :: before =>
    if before.contains '{' then
      match readNatural 0xFFFFFFFFFFFFFFFF (before.takeWhile (· ≠ '{')).reverse with
      | .ok n => some n
      | .error _ => none
    else none
  | _ => none

/-- What a server answers to a command. -/
structure Response where
  /-- The lines before the tagged one, in order. -/
  lines : List String := []
  /-- The literals, in order. -/
  literals : List (List UInt8) := []
  /-- What follows the tag. -/
  status : String
  deriving Repr, DecidableEq

/-- Where bytes end too early for a response. -/
inductive Shortage
  | inLine
  | inLiteral
  deriving Repr, DecidableEq

/-- Why bytes give no response. -/
inductive Fault
  /-- They end too early. -/
  | short (s : Shortage)
  /-- They announce a literal that no room can be made for. -/
  | overflow
  deriving Repr, DecidableEq

/-- How many bytes there can be room for: a signed machine word has to count them. -/
def maxLength : Nat := 0x7FFFFFFFFFFFFFFF

/-- Puts a line, and the literal after it if there is one, before a response. -/
def Response.cons (line : List Char) (literal : Option (List UInt8)) (r : Response) : Response :=
  { r with lines := String.ofList line :: r.lines, literals := literal.toList ++ r.literals }

/-- Reads a response up to the line with the tag, and gives the bytes after it. -/
def readResponse (tag : List Char) (bs : List UInt8) :
    Except Fault (Response × List UInt8) :=
  match h : cutLine bs with
  | none => .error (.short .inLine)
  | some (raw, rest) =>
    have : rest.length < bs.length := length_cutLine_lt h
    let line := decodeLossy raw
    let size := literalLength? line
    if maxLength < size.getD 0 then .error .overflow
    else if rest.length < size.getD 0 then .error (.short .inLiteral)
    else
      let literal := size.map rest.take
      let after := rest.drop (size.getD 0)
      match tag.isPrefixOf? line with
      | some status => .ok ({ literals := literal.toList, status := String.ofList status }, after)
      | none => (readResponse tag after).map fun (r, left) => (r.cons line literal, left)
termination_by bs.length
decreasing_by
  simp only [List.length_drop]
  omega

/-- Whether the server did what it was told to. -/
def Response.isOk (r : Response) : Bool :=
  "OK".toList.isPrefixOf (trimStart r.status.toList)

/-- The numbers of the mails that a search found, in the order of the lines. -/
def searchResults (lines : List String) : List String :=
  lines.flatMap fun line =>
    match "* SEARCH".toList.isPrefixOf? line.toList with
    | some rest => (words rest).map String.ofList
    | none => []

/-- The text with `new` in the place of every `old`. -/
def replace (old : Char) (new s : List Char) : List Char :=
  s.flatMap fun c => if c = old then new else [c]

/-- A text as a quoted string: backslashes are doubled, and then a backslash is put before every
quote. -/
def quote (s : List Char) : List Char :=
  '"' :: replace '"' ['\\', '"'] (replace '\\' ['\\', '\\'] s) ++ ['"']

end Parley.Imap
