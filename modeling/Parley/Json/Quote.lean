/-!
# Writing JSON texts

## Main definitions

- `quoteChar` — how a character is written inside a string
- `quote` — a text as a JSON string
- `object` — an object whose values are strings
-/

namespace Parley.Json

/-- A hexadecimal digit in lower case. -/
def hexDigit (n : Nat) : Char :=
  Nat.digitChar n

/-- How a character is written inside a string: the quote and the backslash after a backslash,
controls by a letter or by number, and all else as it is. -/
def quoteChar (c : Char) : List Char :=
  if c = '"' then ['\\', '"']
  else if c = '\\' then ['\\', '\\']
  else if c = '\x08' then ['\\', 'b']
  else if c = '\x0c' then ['\\', 'f']
  else if c = '\n' then ['\\', 'n']
  else if c = '\r' then ['\\', 'r']
  else if c = '\t' then ['\\', 't']
  else if c.toNat < 0x20 then
    ['\\', 'u', '0', '0', hexDigit (c.toNat / 16), hexDigit (c.toNat % 16)]
  else [c]

/-- A text as a JSON string. -/
def quote (s : List Char) : List Char :=
  '"' :: s.flatMap quoteChar ++ ['"']

/-- The members of an object, with commas between them. -/
def members : List (String × String) → List Char
  | [] => []
  | [(k, v)] => quote k.toList ++ ':' :: quote v.toList
  | (k, v) :: rest => quote k.toList ++ ':' :: quote v.toList ++ ',' :: members rest

/-- An object whose values are strings, without blanks. -/
def object (ms : List (String × String)) : String :=
  String.ofList ('{' :: members ms ++ ['}'])

end Parley.Json
