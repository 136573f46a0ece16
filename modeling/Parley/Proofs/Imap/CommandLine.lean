import Mathlib.Data.List.Infix
import Parley.Proofs.Imap.Fetching

/-!
# Commands are lines

A command is one line exactly if there is no line end in its text. Quoting escapes backslashes and
quotes and leaves line ends as they are, so the line end of a setting becomes that of a command.

## Main definitions

- `HasLineEnd` — there is a line end in a text
- `IsLine` — bytes with a line end after them, and no other
- `markScript` — the commands of a session that marks a mail

## Main results

- `hasLineEnd_quote`, `infix_encode_iff` — a line end is quoted and encoded as one
- `exists_sent_of_markSeen` — which commands are sent to mark a mail
- `commands_are_lines_iff` — the settings with which all commands are lines
-/

namespace Parley.Imap

open Parley.Text

variable {p : Peer} {c : MailConfig} {uid : String} {texts : List String} {s t u : Session}
  {rs : List Response}

-- ════════════════════════════════════════════════════════════════════════
-- Line ends in texts
-- ════════════════════════════════════════════════════════════════════════

/-- There is a line end in the text. -/
def HasLineEnd (s : List Char) : Prop :=
  ['\r', '\n'] <:+: s

theorem hasLineEnd_cons_iff (c : Char) (s : List Char) :
    HasLineEnd (c :: s) ↔ c = '\r' ∧ ['\n'] <+: s ∨ HasLineEnd s := by
  rw [HasLineEnd, List.infix_cons_iff, List.cons_prefix_cons, eq_comm]
  rfl

theorem hasLineEnd_cons {c : Char} (h : c ≠ '\r') (s : List Char) :
    HasLineEnd (c :: s) ↔ HasLineEnd s := by
  rw [hasLineEnd_cons_iff]
  exact or_iff_right fun hc => h hc.1

/-- A line end does not reach over to a text that starts with something else. -/
theorem hasLineEnd_append {d : Char} (h : d ≠ '\n') (s t : List Char) :
    HasLineEnd (s ++ d :: t) ↔ HasLineEnd s ∨ HasLineEnd (d :: t) := by
  induction s with
  | nil => simp [HasLineEnd]
  | cons c s ih =>
    have hstart : ['\n'] <+: s ++ d :: t ↔ ['\n'] <+: s := by
      cases s with
      | nil => simp [List.cons_prefix_cons, h.symm]
      | cons c' s => simp [List.cons_prefix_cons]
    rw [List.cons_append, hasLineEnd_cons_iff, hasLineEnd_cons_iff, hstart, ih, or_assoc]

theorem hasLineEnd_append_of_not_mem {front : List Char} (h : '\r' ∉ front) (s : List Char) :
    HasLineEnd (front ++ s) ↔ HasLineEnd s := by
  induction front with
  | nil => rfl
  | cons c front ih =>
    rw [List.mem_cons, not_or] at h
    rw [List.cons_append, hasLineEnd_cons (Ne.symm h.1), ih h.2]

theorem not_hasLineEnd_of_not_mem {s : List Char} (h : '\r' ∉ s) : ¬ HasLineEnd s := by
  have hend := hasLineEnd_append_of_not_mem h []
  rw [List.append_nil] at hend
  rw [hend]
  simp [HasLineEnd]

-- ════════════════════════════════════════════════════════════════════════
-- Quoted and encoded texts
-- ════════════════════════════════════════════════════════════════════════

theorem lineFeed_prefix_replace {old d e : Char} (hold : old ≠ '\n') (hd : d ≠ '\n')
    (s : List Char) : ['\n'] <+: replace old [d, e] s ↔ ['\n'] <+: s := by
  cases s with
  | nil => rfl
  | cons c s =>
    rw [replace, List.flatMap_cons]
    split
    · rename_i hc
      subst hc
      simp [List.cons_prefix_cons, hold.symm, hd.symm]
    · simp [List.cons_prefix_cons]

/-- What is put in the place of other characters neither makes nor hides a line end. -/
theorem hasLineEnd_replace {old d e : Char} (hold : old ∉ ['\r', '\n']) (hd : d ∉ ['\r', '\n'])
    (he : e ≠ '\r') (s : List Char) : HasLineEnd (replace old [d, e] s) ↔ HasLineEnd s := by
  simp only [List.mem_cons, List.not_mem_nil, or_false, not_or] at hold hd
  induction s with
  | nil => rfl
  | cons c s ih =>
    have hcons : replace old [d, e] (c :: s) =
        (if c = old then [d, e] else [c]) ++ replace old [d, e] s := rfl
    rw [hcons]
    split
    · rename_i hc
      subst hc
      rw [List.cons_append, List.singleton_append, hasLineEnd_cons hd.1, hasLineEnd_cons he,
        hasLineEnd_cons hold.1, ih]
    · rw [List.singleton_append, hasLineEnd_cons_iff, hasLineEnd_cons_iff,
        lineFeed_prefix_replace hold.2 hd.2, ih]

/-- A quoted text has the line ends of the text. -/
theorem hasLineEnd_quote (s : List Char) : HasLineEnd (quote s) ↔ HasLineEnd s := by
  have hclose : ¬ HasLineEnd ['"'] := not_hasLineEnd_of_not_mem (by decide)
  rw [quote, List.cons_append, hasLineEnd_cons (by decide), hasLineEnd_append (by decide),
    hasLineEnd_replace (by decide) (by decide) (by decide),
    hasLineEnd_replace (by decide) (by decide) (by decide)]
  exact or_iff_left hclose

theorem infix_encode_iff (s : List Char) : crlf <:+: encode s ↔ HasLineEnd s := by
  constructor
  · intro h
    by_contra hs
    exact not_infix_encode hs h
  · rintro ⟨front, rest, rfl⟩
    exact ⟨encode front, encode rest, by rw [encode_append, encode_append]; rfl⟩

-- ════════════════════════════════════════════════════════════════════════
-- Command lines
-- ════════════════════════════════════════════════════════════════════════

/-- There is a line end after the other bytes, and nowhere else. -/
def IsLine (bytes : List UInt8) : Prop :=
  ∃ body, bytes = body ++ crlf ∧ ¬ crlf <:+: body

theorem isLine_append_crlf (body : List UInt8) : IsLine (body ++ crlf) ↔ ¬ crlf <:+: body := by
  constructor
  · rintro ⟨body', heq, hbody⟩
    rwa [List.append_cancel_right heq]
  · intro h
    exact ⟨body, rfl, h⟩

theorem encode_commandLine (k : Nat) (text : String) :
    encode ("A" ++ toString k ++ " " ++ text ++ "\r\n").toList =
      encode (("A" ++ toString k).toList ++ ' ' :: text.toList) ++ crlf := by
  have hline : ("A" ++ toString k ++ " " ++ text ++ "\r\n").toList =
      (("A" ++ toString k).toList ++ ' ' :: text.toList) ++ ['\r', '\n'] := by
    simp only [String.toList_append, List.append_assoc]
    rfl
  rw [hline, encode_append]
  rfl

/-- A command is a line exactly if there is no line end in its text. -/
theorem isLine_command_iff (k : Nat) (text : String) :
    IsLine (encode ("A" ++ toString k ++ " " ++ text ++ "\r\n").toList) ↔
      ¬ HasLineEnd text.toList := by
  rw [encode_commandLine, isLine_append_crlf, infix_encode_iff,
    hasLineEnd_append_of_not_mem (not_mem_tag k (by decide) (by decide)),
    hasLineEnd_cons (by decide)]

/-- A login is in several lines if the name or the password is. -/
theorem hasLineEnd_login (username password : String) :
    HasLineEnd ("LOGIN " ++ quoted username ++ " " ++ quoted password).toList ↔
      HasLineEnd username.toList ∨ HasLineEnd password.toList := by
  have hlogin : ("LOGIN " ++ quoted username ++ " " ++ quoted password).toList =
      "LOGIN ".toList ++ (quote username.toList ++ ' ' :: quote password.toList) := by
    simp only [quoted, String.toList_append, String.toList_ofList, List.append_assoc]
    rfl
  rw [hlogin, hasLineEnd_append_of_not_mem (by decide), hasLineEnd_append (by decide),
    hasLineEnd_cons (by decide), hasLineEnd_quote, hasLineEnd_quote]

theorem hasLineEnd_select (folder : String) :
    HasLineEnd ("SELECT " ++ quoted folder).toList ↔ HasLineEnd folder.toList := by
  rw [String.toList_append, hasLineEnd_append_of_not_mem (by decide), quoted,
    String.toList_ofList, hasLineEnd_quote]

/-- A command about a mail has no line end, since there is no blank in the number of the mail. -/
theorem not_hasLineEnd_of_isWord (h : IsWord uid) {front back : String}
    (hfront : '\r' ∉ front.toList) (hback : '\r' ∉ back.toList) :
    ¬ HasLineEnd (front ++ uid ++ back).toList := by
  have huid : '\r' ∉ uid.toList := fun hmem => absurd (h.2 _ hmem) (by decide)
  refine not_hasLineEnd_of_not_mem ?_
  simp only [String.toList_append, List.mem_append, not_or]
  exact ⟨⟨hfront, huid⟩, hback⟩

-- ════════════════════════════════════════════════════════════════════════
-- Sessions
-- ════════════════════════════════════════════════════════════════════════

/-- The command that marks a mail as seen. -/
def markText (uid : String) : String :=
  "UID STORE " ++ uid ++ " +FLAGS (\\Seen)"

/-- All commands of a session that marks a mail. -/
def markScript (c : MailConfig) (uid : String) : List String :=
  entry c ++ [markText uid] ++ ["LOGOUT"]

/-- The commands sent to mark a mail are the first ones of the script. -/
theorem exists_sent_of_markSeen (c : MailConfig) (uid : String) (p : Peer) :
    ∃ done, done <+: markScript c uid ∧
      (converse (some p) (markSeen c uid)).state.sent = numbered 0 done := by
  have hends {t : Session} {result : Except ChannelError Unit}
      (h : Ends (markSeen c uid p) p.connect t result) :
      (converse (some p) (markSeen c uid)).state = t := h.1
  have hcrash {t : Session} {message : String} (h : Crashes (markSeen c uid p) p.connect t message) :
      (converse (some p) (markSeen c uid)).state = t := h.1
  by_cases hgreet : ∃ s, Greeted p s
  · obtain ⟨s, hgreet⟩ := hgreet
    have hhalted {Ending : String → Session → Session → Prop} {t : Session}
        (hhalt : Halted p Ending (markScript c uid) s t) := hgreet.exists_sent_eq hhalt
    rw [markScript, List.append_assoc] at hhalted
    cases logIn_performs c hgreet with
    | stopped hstop hlogIn =>
      rw [hends hlogIn.bind_error, markScript, List.append_assoc]
      exact hhalted hstop.append Refused.sent_eq
    | strained hstrain hlogIn =>
      rw [hcrash hlogIn.bind, markScript, List.append_assoc]
      exact hhalted hstrain.append Overtaxed.sent_eq
    | @answered rs t _ hentry hlogIn =>
      cases command_performs p (markText uid) t with
      | stopped hstop hmark =>
        rw [hends (hlogIn.bind hmark.bind_error), markScript, List.append_assoc]
        exact hhalted (hentry.halted hstop.append) Refused.sent_eq
      | strained hstrain hmark =>
        rw [hcrash (hlogIn.bind_crashes hmark.bind), markScript, List.append_assoc]
        exact hhalted (hentry.halted hstrain.append) Overtaxed.sent_eq
      | @answered _ u _ hmarked hmark =>
        rcases logOut_cases p u with ⟨v, -, hlogOut, hsent⟩ | ⟨v, message, hover, hlogOut⟩
        · rw [hends (hlogIn.bind (hmark.bind hlogOut))]
          exact exists_sent_of_logOut hgreet (hentry.append hmarked) hsent
        · rw [hcrash (hlogIn.bind_crashes (hmark.bind_crashes hlogOut)), markScript,
            List.append_assoc]
          exact hhalted (hentry.halted (hmarked.halted (.here hover))) Overtaxed.sent_eq
  · obtain ⟨t, e, hfails, hsent⟩ := greet_fails fun s h => hgreet ⟨s, h⟩
    exact ⟨[], List.nil_prefix, hends hfails.bind_error.bind_error ▸ hsent⟩

/-- The commands sent to fetch mails are the first ones of the script. -/
theorem exists_sent_of_fetchUnseen (c : MailConfig) (p : Peer) :
    ∃ uids done, (∀ uid ∈ uids, IsWord uid) ∧ done <+: script c uids ∧
      (converse (some p) (fetchUnseen c)).state.sent = numbered 0 done := by
  obtain ⟨uids, -, hword, hcourse⟩ := exists_course c p
  obtain ⟨done, hdone, hsent⟩ := hcourse.exists_sent_eq
  exact ⟨uids, done, hword, hdone, hsent⟩

/-- A server that carries out every command gets those that enter the folder. -/
theorem numbered_entry_prefix_sent (c : MailConfig) :
    numbered 0 (entry c) <+: (converse (some shelf) (fetchUnseen c)).state.sent := by
  obtain ⟨uids, hfound, -, hcourse⟩ := exists_course c shelf
  obtain ⟨-, u, hall, hroom⟩ := shelf_serves hfound
  have hentry : numbered 0 (entry c) <+: u.sent := by
    rw [hall.sent_eq greeted_shelf.toNat_next, opening, List.append_assoc]
    exact numbered_prefix 0 (List.prefix_append _ _)
  have hok := (hcourse.eq_ok_iff _).2 ⟨{}, _, u, greeted_shelf, hall, hroom, rfl⟩
  rw [hok] at hcourse
  generalize bodies uids _ = mails at hcourse
  generalize (converse (some shelf) (fetchUnseen c)).state = t at hcourse ⊢
  cases hcourse with
  | served hgreet hanswered _ hsent =>
    obtain rfl := hgreet.unique greeted_shelf
    obtain ⟨-, rfl⟩ := hanswered.unique hall
    rcases hsent with hsent | hsent
    · rw [hsent]
      exact hentry
    · rw [hsent]
      exact hentry.trans (List.prefix_append _ _)

-- ════════════════════════════════════════════════════════════════════════
-- Settings
-- ════════════════════════════════════════════════════════════════════════

/-- There is no line end in the settings that commands are made of. -/
def Tame (c : MailConfig) : Prop :=
  ∀ v ∈ [c.username, c.password, c.folder], ¬ HasLineEnd v.toList

theorem tame_iff : Tame c ↔ ∀ text ∈ entry c, ¬ HasLineEnd text.toList := by
  simp only [Tame, entry, List.mem_cons, List.not_mem_nil, or_false, forall_eq_or_imp, forall_eq,
    hasLineEnd_login, hasLineEnd_select, not_or, and_assoc]

/-- Command lines are lines if no command has a line end. -/
theorem isLine_of_mem_numbered (h : ∀ text ∈ texts, ¬ HasLineEnd text.toList) {n : Nat} :
    ∀ line ∈ numbered n texts, IsLine (encode line.toList) := by
  intro line hline
  obtain ⟨text, htext, k, rfl⟩ := exists_of_mem_numbered hline
  exact (isLine_command_iff k text).2 (h text htext)

theorem Tame.isLine_of_fetchUnseen (h : Tame c) (p : Peer) :
    ∀ line ∈ (converse (some p) (fetchUnseen c)).state.sent, IsLine (encode line.toList) := by
  obtain ⟨uids, done, hword, hdone, hsent⟩ := exists_sent_of_fetchUnseen c p
  rw [hsent]
  refine isLine_of_mem_numbered fun text htext => ?_
  have hmem := hdone.subset htext
  simp only [script, opening, List.mem_append, List.mem_map, List.mem_singleton] at hmem
  rcases hmem with ((hentry | rfl) | ⟨uid, huid, rfl⟩) | rfl
  · exact tame_iff.1 h text hentry
  · exact not_hasLineEnd_of_not_mem (by decide)
  · exact not_hasLineEnd_of_isWord (hword uid huid) (by decide) (by decide)
  · exact not_hasLineEnd_of_not_mem (by decide)

theorem Tame.isLine_of_markSeen (h : Tame c) (hword : IsWord uid) (p : Peer) :
    ∀ line ∈ (converse (some p) (markSeen c uid)).state.sent, IsLine (encode line.toList) := by
  obtain ⟨done, hdone, hsent⟩ := exists_sent_of_markSeen c uid p
  rw [hsent]
  refine isLine_of_mem_numbered fun text htext => ?_
  have hmem := hdone.subset htext
  simp only [markScript, List.mem_append, List.mem_singleton] at hmem
  rcases hmem with (hentry | rfl) | rfl
  · exact tame_iff.1 h text hentry
  · exact not_hasLineEnd_of_isWord hword (by decide) (by decide)
  · exact not_hasLineEnd_of_not_mem (by decide)

/-- A server that carries out every command sees the line ends of the settings. -/
theorem tame_of_isLine
    (h : ∀ line ∈ (converse (some shelf) (fetchUnseen c)).state.sent, IsLine (encode line.toList)) :
    Tame c := by
  have hlines := fun line hline => h line ((numbered_entry_prefix_sent c).subset hline)
  simp only [entry, numbered, List.mem_cons, List.not_mem_nil, or_false, forall_eq_or_imp,
    forall_eq] at hlines
  rw [tame_iff]
  simp only [entry, List.mem_cons, List.not_mem_nil, or_false, forall_eq_or_imp, forall_eq]
  exact ⟨(isLine_command_iff _ _).1 hlines.1, (isLine_command_iff _ _).1 hlines.2⟩

/-- Every command of every session is a single line, to every server and for every mail that a
search lists, exactly if there is no line end in the name of the account, the password or the
folder. -/
theorem commands_are_lines_iff (c : MailConfig) :
    (∀ p : Peer,
      (∀ line ∈ (converse (some p) (fetchUnseen c)).state.sent, IsLine (encode line.toList)) ∧
      ∀ (lines : List String) (uid : String), uid ∈ searchResults lines →
        ∀ line ∈ (converse (some p) (markSeen c uid)).state.sent, IsLine (encode line.toList)) ↔
      ∀ v ∈ [c.username, c.password, c.folder], ¬ ['\r', '\n'] <:+: v.toList := by
  constructor
  · intro h
    exact tame_of_isLine (h shelf).1
  · intro h p
    have htame : Tame c := h
    refine ⟨htame.isLine_of_fetchUnseen p, fun lines uid huid => ?_⟩
    exact htame.isLine_of_markSeen ((lists_iff.2 rfl).isWord uid huid) p

/-- An environment whose account name has a line end. -/
def intruder : Environment :=
  fun key =>
    [("MAIL_IMAP_HOST", "mail.example.com"), ("MAIL_USERNAME", "a\r\nA9 DELETE INBOX"),
      ("MAIL_PASSWORD", "pw")].lookup key

/-- The settings of that environment. -/
def intruderConfig : MailConfig where
  host := "mail.example.com"
  port := 993
  username := "a\r\nA9 DELETE INBOX"
  password := "pw"
  folder := "INBOX"
  interval := 5

/-- The command line of the login with these settings. -/
def intruderLine : String :=
  "A1 LOGIN \"a\r\nA9 DELETE INBOX\" \"pw\"\r\n"

/-- An account name with a line end is accepted, and what follows the line end in it is sent as a
line of its own. -/
theorem account_name_adds_a_line :
    (MailConfig.read intruder).result = .ok (.ok (some intruderConfig)) ∧
      intruderLine ∈ (converse (some shelf) (fetchUnseen intruderConfig)).state.sent ∧
      ¬ IsLine (encode intruderLine.toList) ∧
      cutLine (encode intruderLine.toList) =
        some (encode "A1 LOGIN \"a".toList, encode "A9 DELETE INBOX\" \"pw\"\r\n".toList) := by
  refine ⟨rfl, (numbered_entry_prefix_sent intruderConfig).subset (by decide +kernel), ?_,
    by decide +kernel⟩
  have hline : intruderLine =
      "A" ++ toString 1 ++ " " ++ "LOGIN \"a\r\nA9 DELETE INBOX\" \"pw\"" ++ "\r\n" := by
    decide +kernel
  rw [hline, isLine_command_iff, not_not]
  exact ⟨"LOGIN \"a".toList, "A9 DELETE INBOX\" \"pw\"".toList, by decide +kernel⟩

end Parley.Imap
