import Parley.Unicode.Classes

/-!
# Quoted text

Messages show the values they speak of between double quotes, so that blanks and characters
without a shape of their own stay visible.

## Main definitions

- `quoteChar` — how one character is shown
- `quoted` — a whole text between quotes
- `quotedOption` — a value that may be absent
-/

namespace Parley.Text

/-- A number in lower case hexadecimal digits, without leading zeros. -/
def hexText (n : Nat) : List Char :=
  Nat.toDigits 16 n

/-- How a character is shown: the quote, the backslash and the common controls by a letter after
a backslash, what has no shape of its own by number, and all else as it is. -/
def quoteChar (c : Char) : List Char :=
  if c = '\x00' then ['\\', '0']
  else if c = '\t' then ['\\', 't']
  else if c = '\r' then ['\\', 'r']
  else if c = '\n' then ['\\', 'n']
  else if c = '"' then ['\\', '"']
  else if c = '\\' then ['\\', '\\']
  else if Unicode.unshownTable.contains c then
    ['\\', 'u', '{'] ++ hexText c.toNat ++ ['}']
  else [c]

/-- The text between double quotes, every character as `quoteChar` shows it. -/
def quoted (s : String) : String :=
  String.ofList ('"' :: s.toList.flatMap quoteChar ++ ['"'])

/-- A value that may be absent: `None`, or the quoted text in parentheses after `Some`. -/
def quotedOption : Option String → String
  | none => "None"
  | some s => "Some(" ++ quoted s ++ ")"

end Parley.Text
