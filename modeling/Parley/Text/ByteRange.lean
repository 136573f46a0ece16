/-!
# Characters between two, as bytes

The characters of a range are written in UTF-8 as sequences of bytes. They fall into parts in each
of which every byte runs through a range of its own, independently of the other bytes.

## Main definitions

- `ByteRange` — the bytes between two
- `byteSequences` — the parts of a range of code points, each as one range for every byte

## Design notes

A range is first cut where the number of bytes changes. Within one number of bytes it is cut so
that, from the second byte on, the last bytes of a part either are fixed by a common beginning or
run through all values.
-/

namespace Parley.Text

/-- The bytes between two, both included. -/
structure ByteRange where
  /-- The least byte. -/
  lo : Nat
  /-- The greatest byte. -/
  hi : Nat
  deriving Repr, DecidableEq

/-- The stretches of code points that are characters and are written with equally many bytes. -/
def encodingStretches : List (Nat × Nat) :=
  [(0, 0x7F), (0x80, 0x7FF), (0x800, 0xD7FF), (0xE000, 0xFFFF), (0x10000, 0x10FFFF)]

/-- The code points common to two ranges. -/
def overlap? (r s : Nat × Nat) : Option (Nat × Nat) :=
  let lo := max r.1 s.1
  let hi := min r.2 s.2
  if lo ≤ hi then some (lo, hi) else none

/-- Cuts a range where blocks of `size` code points begin, so that a part lies within one block
or consists of whole blocks. -/
def cutAtBlocks (size : Nat) (r : Nat × Nat) : List (Nat × Nat) :=
  let (lo, hi) := r
  if lo / size = hi / size then [r]
  else
    let first := (lo + size - 1) / size * size
    let last := (hi + 1) / size * size
    (if lo < first then [(lo, first - 1)] else []) ++
      (if first < last then [(first, last - 1)] else []) ++
      (if last ≤ hi then [(last, hi)] else [])

/-- The bytes of a code point in UTF-8. -/
def codeBytes (n : Nat) : List Nat :=
  if n < 0x80 then [n]
  else if n < 0x800 then [0xC0 + n / 0x40, 0x80 + n % 0x40]
  else if n < 0x10000 then [0xE0 + n / 0x1000, 0x80 + n / 0x40 % 0x40, 0x80 + n % 0x40]
  else [0xF0 + n / 0x40000, 0x80 + n / 0x1000 % 0x40, 0x80 + n / 0x40 % 0x40, 0x80 + n % 0x40]

/-- The parts of a range of code points, in ascending order. -/
def byteSequences (r : Nat × Nat) : List (List ByteRange) :=
  let cut := (encodingStretches.filterMap (overlap? r)).flatMap fun s =>
    if s.2 < 0x80 then [s]
    else ((cutAtBlocks 0x40 s).flatMap (cutAtBlocks 0x1000)).flatMap (cutAtBlocks 0x40000)
  cut.map fun (lo, hi) => (codeBytes lo).zipWith ByteRange.mk (codeBytes hi)

end Parley.Text
