import Parley.Proofs.Imap.CommandLine

/-!
# Quoted strings are read back

A server reads a quoted string up to the first quote that no backslash takes. Whatever a text is and
whatever follows it, the text is found again between its quotes, and what follows is left. So the
arguments of a command are told apart, and the server gets the account of the settings.

## Main definitions

- `unquote?` — reads a quoted string at the start of a text
- `loginArguments?` — the two arguments of a login
- `LogsIn` — the first command gives the account of the settings

## Main results

- `quote_eq_flatMap` — every character is quoted by itself
- `unquote?_quote` — a quoted text is read back, and what follows it is left
- `quoted_texts_are_read_back` — so are the arguments of the first command
-/

namespace Parley.Imap

open Parley.Text

variable {c : MailConfig} {texts rest : List String}

-- ════════════════════════════════════════════════════════════════════════
-- Quoting character by character
-- ════════════════════════════════════════════════════════════════════════

/-- A character inside of a quoted string: the quote and the backslash stand after a backslash. -/
def quoteChar (c : Char) : List Char :=
  if c = '\\' ∨ c = '"' then ['\\', c] else [c]

/-- Quoting is done for every character by itself: what one of the two replacements puts in, the
other leaves alone. -/
theorem quote_eq_flatMap (s : List Char) : quote s = '"' :: s.flatMap quoteChar ++ ['"'] := by
  have hchar (c : Char) : quoteChar c =
      replace '"' ['\\', '"'] (if c = '\\' then ['\\', '\\'] else [c]) := by
    by_cases hslash : c = '\\'
    · subst hslash
      decide
    · by_cases hquote : c = '"'
      · subst hquote
        decide
      · simp [quoteChar, replace, hslash, hquote]
  have hsteps : s.flatMap quoteChar = replace '"' ['\\', '"'] (replace '\\' ['\\', '\\'] s) := by
    rw [replace, replace, List.flatMap_assoc]
    exact congrArg s.flatMap (funext hchar)
  rw [quote, hsteps]

-- ════════════════════════════════════════════════════════════════════════
-- Reading quoted strings
-- ════════════════════════════════════════════════════════════════════════

/-- Reads a quoted string after its opening quote: a backslash takes the next character as it is, and
the first quote that is not taken closes the string. What follows is left. -/
def unescape? : List Char → Option (List Char × List Char)
  | [] => none
  | '"' :: left => some ([], left)
  | ['\\'] => none
  | '\\' :: c :: cs => (unescape? cs).map fun (s, left) => (c :: s, left)
  | c :: cs => (unescape? cs).map fun (s, left) => (c :: s, left)

/-- Reads a quoted string. -/
def unquote? : List Char → Option (List Char × List Char)
  | '"' :: cs => unescape? cs
  | _ => none

/-- Whatever a character is, it is read back from how it is quoted. -/
theorem unescape?_quoteChar (c : Char) (cs : List Char) :
    unescape? (quoteChar c ++ cs) = (unescape? cs).map fun (s, left) => (c :: s, left) := by
  rw [quoteChar]
  split
  · rfl
  · next hplain =>
    rw [not_or] at hplain
    rw [List.singleton_append, unescape?]
    · exact hplain.2
    · exact fun h => absurd h hplain.1
    · exact fun d ds h => absurd h hplain.1

theorem unescape?_flatMap_quoteChar (s left : List Char) :
    unescape? (s.flatMap quoteChar ++ '"' :: left) = some (s, left) := by
  induction s with
  | nil => rfl
  | cons c s ih =>
    rw [List.flatMap_cons, List.append_assoc, unescape?_quoteChar, ih]
    rfl

/-- A quoted text is read back, and what follows it is left. -/
theorem unquote?_quote (s left : List Char) : unquote? (quote s ++ left) = some (s, left) := by
  rw [quote_eq_flatMap, List.append_assoc]
  exact unescape?_flatMap_quoteChar s left

theorem quote_injective : Function.Injective quote := by
  intro s t h
  have hs := unquote?_quote s []
  rw [h, unquote?_quote] at hs
  exact (congrArg Prod.fst (Option.some.inj hs)).symm

-- ════════════════════════════════════════════════════════════════════════
-- Logging in
-- ════════════════════════════════════════════════════════════════════════

/-- The arguments of a login: two quoted strings with a blank between them and nothing after them. -/
def loginArguments? (text : String) : Option (String × String) := do
  let cs ← "LOGIN ".toList.isPrefixOf? text.toList
  let (username, cs) ← unquote? cs
  let cs ← [' '].isPrefixOf? cs
  let (password, cs) ← unquote? cs
  if cs.isEmpty then pure (String.ofList username, String.ofList password) else none

theorem loginArguments?_login (username password : String) :
    loginArguments? ("LOGIN " ++ quoted username ++ " " ++ quoted password) =
      some (username, password) := by
  have htext : ("LOGIN " ++ quoted username ++ " " ++ quoted password).toList =
      "LOGIN ".toList ++ (quote username.toList ++ ([' '] ++ quote password.toList)) := by
    simp only [quoted, String.toList_append, String.toList_ofList, List.append_assoc]
    rfl
  have hprefix (front back : List Char) : front.isPrefixOf? (front ++ back) = some back :=
    List.isPrefixOf?_eq_some_iff_append_eq.2 rfl
  have hpassword := unquote?_quote password.toList []
  rw [List.append_nil] at hpassword
  simp only [loginArguments?, htext, hprefix, unquote?_quote, hpassword, bind, Option.bind,
    String.ofList_toList, List.isEmpty_nil, if_true]
  rfl

/-- The first command, if there is one, is a login that gives the account of the settings. -/
def LogsIn (c : MailConfig) (sent : List String) : Prop :=
  ∀ line ∈ sent.head?, ∃ text, line = "A1 " ++ text ++ "\r\n" ∧
    loginArguments? text = some (c.username, c.password)

theorem logsIn_of_prefix (h : texts <+: entry c ++ rest) : LogsIn c (numbered 0 texts) := by
  cases texts with
  | nil => exact nofun
  | cons text texts =>
    have htag : "A" ++ toString (0 + 1) ++ " " = "A1 " := by decide
    rw [entry, List.cons_append, List.cons_prefix_cons] at h
    intro line hline
    rw [numbered, List.head?_cons, Option.mem_some_iff] at hline
    refine ⟨text, ?_, h.1 ▸ loginArguments?_login _ _⟩
    rw [← hline, htag]

/-- Every text is read back from its quoted string whatever follows, so that no two texts are quoted
alike, the arguments of a login are told apart, and every session begins with a login that gives the
account of the settings. -/
theorem quoted_texts_are_read_back :
    (∀ s left : String, unquote? (quoted s ++ left).toList = some (s.toList, left.toList)) ∧
      Function.Injective quoted ∧
      (∀ username password : String,
        loginArguments? ("LOGIN " ++ quoted username ++ " " ++ quoted password) =
          some (username, password)) ∧
      ∀ (c : MailConfig) (p : Peer) (uid : String),
        LogsIn c (converse (some p) (fetchUnseen c)).state.sent ∧
          LogsIn c (converse (some p) (markSeen c uid)).state.sent := by
  refine ⟨fun s left => ?_, fun s t h => ?_, loginArguments?_login, fun c p uid => ⟨?_, ?_⟩⟩
  · rw [String.toList_append, quoted, String.toList_ofList]
    exact unquote?_quote _ _
  · exact String.toList_inj.1 (quote_injective (String.ofList_injective h))
  · obtain ⟨uids, done, -, hdone, hsent⟩ := exists_sent_of_fetchUnseen c p
    rw [script, opening, List.append_assoc, List.append_assoc] at hdone
    rw [hsent]
    exact logsIn_of_prefix hdone
  · obtain ⟨done, hdone, hsent⟩ := exists_sent_of_markSeen c uid p
    rw [markScript, List.append_assoc] at hdone
    rw [hsent]
    exact logsIn_of_prefix hdone

example : unquote? "\"pa\\\"ss\\\\word\" \"next\"".toList =
    some ("pa\"ss\\word".toList, " \"next\"".toList) := by
  decide

end Parley.Imap
