import Parley.Text.Blank

/-!
# The text of markup

Mails that come as HTML only are read as the words outside of tags.

## Main definitions

- `untagged` — markup with a blank in place of every tag
- `stripHtml` — the words of markup, with one blank between them
-/

namespace Parley.Mail

open Parley.Text

/-- Puts a blank in place of every tag; `inTag` tells whether the markup begins inside of one. A
tag lasts up to the next closing bracket, or to the end, and a closing bracket without a tag is
dropped. -/
def untagged (inTag : Bool) : List Char → List Char
  | [] => []
  | c :: cs =>
    if c = '<' then ' ' :: untagged true cs
    else if c = '>' then untagged false cs
    else if inTag then untagged true cs
    else c :: untagged false cs

/-- Words with one blank between them. -/
def joinWords (ws : List (List Char)) : List Char :=
  [' '].intercalate ws

/-- The words of markup outside of its tags, with one blank between them. -/
def stripHtml (s : String) : String :=
  String.ofList (joinWords (words (untagged false s.toList)))

end Parley.Mail
