/-!
# Blanks

The characters that count as white space, and the trimming and splitting of text at them.

## Main definitions

- `isBlank` — the characters with the `White_Space` property
- `trimStart`, `trimEnd`, `trim` — text without the blanks around it
- `words` — the maximal runs of other characters
-/

namespace Parley.Text

/-- Whether a character is white space. -/
def isBlank (c : Char) : Bool :=
  let n := c.toNat
  (0x9 ≤ n && n ≤ 0xD) || n == 0x20 || n == 0x85 || n == 0xA0 || n == 0x1680 ||
    (0x2000 ≤ n && n ≤ 0x200A) || n == 0x2028 || n == 0x2029 || n == 0x202F || n == 0x205F ||
    n == 0x3000

/-- The text from its first character that is not blank. -/
def trimStart (s : List Char) : List Char :=
  s.dropWhile isBlank

/-- The text up to its last character that is not blank. -/
def trimEnd (s : List Char) : List Char :=
  (s.reverse.dropWhile isBlank).reverse

/-- The text without the blanks before and after it. -/
def trim (s : List Char) : List Char :=
  trimEnd (trimStart s)

/-- Splits off words; `word` holds the word being read, last character first. -/
def wordsFrom : List Char → List Char → List (List Char)
  | [], word => if word.isEmpty then [] else [word.reverse]
  | c :: cs, word =>
    if isBlank c then
      if word.isEmpty then wordsFrom cs [] else word.reverse :: wordsFrom cs []
    else wordsFrom cs (c :: word)

/-- The maximal runs of characters that are not blank, in order. -/
def words (s : List Char) : List (List Char) :=
  wordsFrom s []

/-- The string without the blanks before and after it. -/
def trimmed (s : String) : String :=
  String.ofList (trim s.toList)

end Parley.Text
