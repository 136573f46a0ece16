import Parley.Text.Utf8

/-!
# Spans

The words of a structured value are read byte by byte. Bytes that are passed over belong to a word
only if more of it follows, so that blanks within a word stay and those at its end do not.

## Main definitions

- `Span` — the word being read
-/

namespace Parley.Mail

/-- A word being read, if there is one. -/
structure Span where
  /-- The bytes up to the last that belongs to the word, last byte first. -/
  read : List UInt8 := []
  /-- The bytes passed over since, last byte first. -/
  gap : List UInt8 := []
  deriving Repr, DecidableEq

namespace Span

/-- Whether a word has begun. -/
def isOpen (s : Span) : Bool :=
  !s.read.isEmpty

/-- Adds a byte to the word, or begins one with it. -/
def push (s : Span) (b : UInt8) : Span :=
  { read := b :: (s.gap ++ s.read) }

/-- Passes over a byte. -/
def pass (s : Span) (b : UInt8) : Span :=
  if s.isOpen then { s with gap := b :: s.gap } else s

/-- The text of the word. -/
def text (s : Span) : List Char :=
  Text.decodeLossy s.read.reverse

end Span

end Parley.Mail
