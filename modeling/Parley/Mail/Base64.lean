/-!
# Base64

Bytes written six bits a character, four characters for three bytes.

## Main definitions

- `sextet?` — the six bits of a character
- `Sextets` — what has been read of some bytes in this form

## Design notes

An equals sign closes a group of less than four characters, and more characters may follow it. A
group that nothing closes is dropped.
-/

namespace Parley.Mail

/-- The six bits of a character. -/
def sextet? (b : UInt8) : Option Nat :=
  let n := b.toNat
  if 65 ≤ n ∧ n ≤ 90 then some (n - 65)
  else if 97 ≤ n ∧ n ≤ 122 then some (n - 97 + 26)
  else if 48 ≤ n ∧ n ≤ 57 then some (n - 48 + 52)
  else if n = 43 then some 62
  else if n = 47 then some 63
  else none

/-- The bytes of a group. A single character stands for a byte whose low bits are zero. -/
def packSextets : List Nat → List UInt8
  | [] => []
  | [a] => [UInt8.ofNat (a * 4)]
  | [a, b] => [UInt8.ofNat (a * 4 + b / 16)]
  | [a, b, c] => [UInt8.ofNat (a * 4 + b / 16), UInt8.ofNat (b % 16 * 16 + c / 4)]
  | a :: b :: c :: d :: _ =>
    [UInt8.ofNat (a * 4 + b / 16), UInt8.ofNat (b % 16 * 16 + c / 4), UInt8.ofNat (c % 4 * 64 + d)]

/-- The state of reading Base64. -/
structure Sextets where
  /-- The characters of the group being read, at most three. -/
  group : List Nat := []
  /-- The bytes of the groups before it, last byte first. -/
  read : List UInt8 := []
  deriving Repr, DecidableEq

namespace Sextets

/-- Adds the bytes of the group being read. -/
def close (s : Sextets) : Sextets :=
  { read := (packSextets s.group).reverse ++ s.read }

/-- Adds a character. -/
def push (s : Sextets) (n : Nat) : Sextets :=
  let s := { s with group := s.group ++ [n] }
  if s.group.length = 4 then s.close else s

/-- The bytes of the groups that are complete. -/
def bytes (s : Sextets) : List UInt8 :=
  s.read.reverse

end Sextets

end Parley.Mail
