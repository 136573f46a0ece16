/-!
# Boundaries

The parts of a mail stand between boundaries: two dashes and a text of the mail's own, wherever
they are found, in the middle of a line too. The end of the line before a boundary belongs to the
boundary.

## Main definitions

- `afterBoundary?` — the bytes after a boundary
- `cutAtBoundary` — the bytes before the first boundary, and those after it
- `afterLastBoundary?`, `skipLineEnd` — what stands after the boundary itself
-/

namespace Parley.Mail

/-- The bytes after a boundary, if the bytes begin with one. -/
def afterBoundary? (boundary bs : List UInt8) : Option (List UInt8) :=
  (45 :: 45 :: boundary).isPrefixOf? bs

/-- Looks for the first boundary; `read` holds the bytes before, last byte first. -/
def cutAtBoundaryFrom (boundary read : List UInt8) :
    List UInt8 → Option (List UInt8 × List UInt8)
  | [] => none
  | b :: bs =>
    match afterBoundary? boundary (b :: bs) with
    | some rest => some (read, rest)
    | none => cutAtBoundaryFrom boundary (b :: read) bs

/-- Bytes, last byte first, without the end of a line at their end. -/
def dropLineEnd : List UInt8 → List UInt8
  | 10 :: 13 :: read => read
  | 10 :: read => read
  | read => read

/-- The bytes before the first boundary and those after it, if there is one. -/
def cutAtBoundary (boundary bs : List UInt8) : Option (List UInt8 × List UInt8) :=
  (cutAtBoundaryFrom boundary [] bs).map fun (read, rest) => ((dropLineEnd read).reverse, rest)

/-- The bytes after the first boundary, if there is one. -/
def seekBoundary (boundary bs : List UInt8) : Option (List UInt8) :=
  (cutAtBoundary boundary bs).map Prod.snd

/-- Skips blanks up to the end of the line. -/
def skipLineEnd : List UInt8 → List UInt8
  | [] => []
  | b :: bs =>
    if b = 10 then bs
    else if b = 32 ∨ b = 9 ∨ b = 13 then skipLineEnd bs
    else b :: bs

/-- The bytes after the two dashes that make a boundary the last one, if they are there. -/
def afterLastBoundary? : List UInt8 → Option (List UInt8)
  | 45 :: 45 :: rest => some rest
  | _ => none

end Parley.Mail
