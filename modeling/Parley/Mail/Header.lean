import Parley.Mail.Word

/-!
# The header of a mail

A mail begins with fields, each a name and a value that may go on over several lines: those after
the first begin with a blank.

## Main definitions

- `Field`, `readHeader` — the fields up to the first empty line
- `Field.pieces`, `Field.text?` — a value as text

## Design notes

A name begins with the first byte that is neither white space nor a colon and goes up to the next
colon, over the ends of lines if it has to. So lines that are no fields belong to the name of the
next field.
-/

namespace Parley.Mail

open Parley.Text

/-- A field of a header. -/
structure Field where
  /-- The name, in small letters. -/
  name : String
  /-- The value with its last line feed, which is missing if the mail ends within the value. -/
  value : List UInt8
  deriving Repr, DecidableEq

/-- What stands at the start of a line of a header. -/
inductive LineStart
  /-- The name of a field, and the bytes after its colon. -/
  | name (name rest : List UInt8)
  /-- An empty line, and the bytes after it. -/
  | empty (rest : List UInt8)
  /-- The end of the mail. -/
  | done
  deriving Repr, DecidableEq

/-- Bytes without the white space at their end. -/
def trimEndBytes (bs : List UInt8) : List UInt8 :=
  (bs.reverse.dropWhile isSpaceByte).reverse

/-- Reads the name of a field. -/
def readName (bs : List UInt8) : LineStart :=
  match bs.dropWhile fun b => b = 58 || isSpaceByte b && b ≠ 10 with
  | [] => .done
  | b :: bs =>
    if b = 10 then .empty bs
    else
      .name (trimEndBytes (b :: bs.takeWhile (· ≠ 58))) ((bs.dropWhile (· ≠ 58)).drop 1)

/-- A name is at least one byte long. -/
theorem length_lt_of_readName {bs name rest : List UInt8} (h : readName bs = .name name rest) :
    rest.length < bs.length := by
  unfold readName at h
  have hle := (List.dropWhile_suffix (l := bs) fun b => b = 58 || isSpaceByte b && b ≠ 10).length_le
  split at h
  · simp at h
  · rename_i b bs' heq
    rw [heq] at hle
    split at h
    · simp at h
    · obtain ⟨-, rfl⟩ := LineStart.name.inj h
      have := (List.dropWhile_suffix (l := bs') (· ≠ 58)).length_le
      simp only [List.length_drop, List.length_cons] at hle ⊢
      omega

/-- Reads the value of a field, which ends with the first line that the next does not continue, and
gives the bytes after it; `read` holds the bytes read, last byte first. -/
def readValue (read : List UInt8) : List UInt8 → List UInt8 × List UInt8
  | [] => (read.reverse, [])
  | b :: bs =>
    if b = 10 && !continuesLine bs then ((b :: read).reverse, bs) else readValue (b :: read) bs

/-- Reading a value loses nothing. -/
theorem append_readValue (read bs : List UInt8) :
    (readValue read bs).1 ++ (readValue read bs).2 = read.reverse ++ bs := by
  induction bs generalizing read with
  | nil => simp [readValue]
  | cons b bs ih =>
    rw [readValue]
    split
    · simp
    · simp [ih]

theorem length_readValue_le (bs : List UInt8) : (readValue [] bs).2.length ≤ bs.length := by
  have := congrArg List.length (append_readValue [] bs)
  simp only [List.length_append, List.reverse_nil, List.nil_append] at this
  omega

/-- The fields of a header, and the bytes after the empty line that ends it, if there is one. -/
def readHeader (bs : List UInt8) : List Field × Option (List UInt8) :=
  match _h : readName bs with
  | .done => ([], none)
  | .empty rest => ([], some rest)
  | .name name rest =>
    let value := readValue [] rest
    let header := readHeader value.2
    (⟨String.ofList ((decodeLossy name).map Char.toLower), value.1⟩ :: header.1, header.2)
termination_by bs.length
decreasing_by
  have := length_lt_of_readName _h
  have := length_readValue_le rest
  omega

/-- The last field of a name. -/
def lastField? (name : String) (fields : List Field) : Option Field :=
  fields.reverse.find? fun f => f.name == name

/-- A piece of a value that is text. -/
inductive Piece
  | plain (s : List Char)
  | encoded (s : List Char)
  deriving Repr, DecidableEq

/-- Whether a byte is a blank within a line or belongs to its end. -/
def isBlankByte (b : UInt8) : Bool :=
  isLineBlank b || b == 13

/-- The piece of the bytes read, last byte first, without the blanks around it. -/
def plainPiece (read : List UInt8) : List Piece :=
  match ((read.dropWhile isBlankByte).reverse).dropWhile isBlankByte with
  | [] => []
  | bs => [.plain (decodeLossy bs)]

/-- The pieces of a value: its encoded words, and what stands between these on each line. `skip`
counts the bytes that are still part of a word; `read` holds bytes of a piece, last byte first. -/
def piecesFrom (skip : Nat) (read : List UInt8) : List UInt8 → List Piece
  | [] => plainPiece read
  | b :: bs =>
    match skip with
    | skip + 1 => piecesFrom skip read bs
    | 0 =>
      if b = 10 then plainPiece read ++ piecesFrom 0 [] bs
      else
        match encodedWord? (b :: bs) with
        | some word => plainPiece read ++ .encoded word.text :: piecesFrom (word.size - 1) [] bs
        | none => piecesFrom 0 (b :: read) bs

/-- The text of pieces. One blank stands between two of them, except between encoded words. -/
def joinPieces : List Piece → List Char
  | [] => []
  | [.plain s] | [.encoded s] => s
  | .encoded s :: .encoded t :: rest => s ++ joinPieces (.encoded t :: rest)
  | .plain s :: rest | .encoded s :: rest => s ++ ' ' :: joinPieces rest

/-- The pieces of the value. -/
def Field.pieces (f : Field) : List Piece :=
  piecesFrom 0 [] f.value

/-- Whether the value ends with the end of a line. -/
def Field.isComplete (f : Field) : Bool :=
  f.value.getLast? == some 10

/-- The value as text; `none` if it is blank, or cut off by the end of the mail. -/
def Field.text? (f : Field) : Option String :=
  if f.isComplete && !f.pieces.isEmpty then some (String.ofList (joinPieces f.pieces)) else none

end Parley.Mail
