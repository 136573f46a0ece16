import Parley.Proofs.Imap.CommandLine

/-!
# What a server reads of a session

A server gets bytes and cuts them into lines by itself. If there is no line end in the settings,
these lines are the commands of the script, and none of them makes an unseen mail a seen one.

## Main definitions

- `wireLines` — the lines that a server reads
- `leavesUnseen` — a line that leaves all unseen mails unseen

## Main results

- `map_wireLines` — a server reads the commands if they are lines
- `fetchUnseen_follows_script` — which commands are sent and what the session gives
-/

namespace Parley.Imap

open Parley.Text

variable {c : MailConfig} {uid : String} {uids : List String}

-- ════════════════════════════════════════════════════════════════════════
-- Lines on the wire
-- ════════════════════════════════════════════════════════════════════════

/-- The lines in bytes, without their line ends. -/
def cutLines (bs : List UInt8) : List (List UInt8) :=
  match h : cutLine bs with
  | none => []
  | some (raw, rest) =>
    have : rest.length < bs.length := length_cutLine_lt h
    raw :: cutLines rest
termination_by bs.length

/-- The lines that a server reads of what is sent. -/
def wireLines (sent : List String) : List (List UInt8) :=
  cutLines (sent.flatMap fun line => encode line.toList)

theorem cutLines_nil : cutLines [] = [] := by
  rw [cutLines]
  split
  · rfl
  · rename_i hcut
    cases hcut

theorem cutLines_append {raw : List UInt8} (h : ¬ crlf <:+: raw) (rest : List UInt8) :
    cutLines (raw ++ crlf ++ rest) = raw :: cutLines rest := by
  have hcut : cutLine (raw ++ crlf ++ rest) = some (raw, rest) := cutLine_eq_some_iff.2 ⟨rfl, h⟩
  rw [cutLines]
  split
  · rename_i hnone
    rw [hcut] at hnone
    cases hnone
  · rename_i hsome
    rw [hcut] at hsome
    obtain ⟨rfl, rfl⟩ := Prod.mk.inj (Option.some.inj hsome)
    rfl

/-- If the commands are lines, they are what a server reads. -/
theorem map_wireLines {sent : List String} (h : ∀ line ∈ sent, IsLine (encode line.toList)) :
    (wireLines sent).map (· ++ crlf) = sent.map fun line => encode line.toList := by
  induction sent with
  | nil => exact congrArg (List.map _) cutLines_nil
  | cons line sent ih =>
    obtain ⟨hline, hsent⟩ := List.forall_mem_cons.1 h
    obtain ⟨body, hbody, hend⟩ := hline
    have hcut : wireLines (line :: sent) = body :: wireLines sent := by
      rw [wireLines, List.flatMap_cons, hbody, cutLines_append hend]
      rfl
    rw [hcut, List.map_cons, List.map_cons, ih hsent, hbody]

-- ════════════════════════════════════════════════════════════════════════
-- Commands that mark no mail
-- ════════════════════════════════════════════════════════════════════════

/-- The words of a command line after its tag, in capitals. It does not matter here how a command
counts the mails, so the word for that is left out. -/
def commandWords (line : List Char) : List String :=
  match ((line.splitOn ' ').map fun w => String.ofList (w.map Char.toUpper)).tail with
  | "UID" :: ws => ws
  | ws => ws

/-- Whether a line leaves all unseen mails unseen: it logs in or out, selects a folder, searches, or
fetches bodies and only peeks at them. -/
def leavesUnseen (line : List Char) : Bool :=
  match commandWords line with
  | ["FETCH", _, item] => item == "BODY.PEEK[]"
  | verb :: _ => ["LOGIN", "SELECT", "SEARCH", "LOGOUT"].contains verb
  | [] => false

theorem splitOn_append {w : List Char} (h : ' ' ∉ w) (rest : List Char) :
    (w ++ ' ' :: rest).splitOn ' ' = w :: rest.splitOn ' ' := by
  refine List.splitOnP_append_cons_of_forall_mem (fun c hc => ?_) ' ' (by decide) rest
  rw [beq_eq_false_iff_ne]
  rintro rfl
  exact h hc

/-- The commands of the script mark no mail as seen, whatever stands in the settings. -/
theorem leavesUnseen_of_mem_script {text : String} (h : text ∈ script c uids)
    (hword : ∀ uid ∈ uids, IsWord uid) {tag : List Char} (htag : ' ' ∉ tag) :
    leavesUnseen (tag ++ ' ' :: text.toList) = true := by
  have hbegins (verb rest : String) (hverb : ' ' ∉ verb.toList) :
      (verb ++ " " ++ rest).toList.splitOn ' ' = verb.toList :: rest.toList.splitOn ' ' := by
    rw [String.append_assoc, String.toList_append, String.toList_append]
    exact splitOn_append hverb rest.toList
  simp only [script, opening, entry, List.mem_append, List.mem_cons, List.mem_map,
    List.not_mem_nil, or_false] at h
  rw [leavesUnseen, commandWords, splitOn_append htag]
  rcases h with ((((rfl | rfl) | rfl) | ⟨uid, huid, rfl⟩) | rfl)
  · have hlogin : "LOGIN " ++ quoted c.username ++ " " ++ quoted c.password =
        "LOGIN" ++ " " ++ (quoted c.username ++ " " ++ quoted c.password) := by
      simp only [String.append_assoc]
      rfl
    rw [hlogin, hbegins "LOGIN" _ (by decide)]
    rfl
  · rw [show "SELECT " ++ quoted c.folder = "SELECT" ++ " " ++ quoted c.folder from rfl,
      hbegins "SELECT" _ (by decide)]
    rfl
  · rfl
  · have hspace : ' ' ∉ uid.toList := fun hmem => absurd ((hword uid huid).2 _ hmem) (by decide)
    have hfetch : fetchText uid = "UID" ++ " " ++ ("FETCH" ++ " " ++ (uid ++ " " ++ "BODY.PEEK[]")) := by
      rw [fetchText]
      simp only [String.append_assoc]
      rfl
    rw [hfetch, hbegins "UID" _ (by decide), hbegins "FETCH" _ (by decide), hbegins uid _ hspace]
    rfl
  · rfl

-- ════════════════════════════════════════════════════════════════════════
-- Sessions that fetch
-- ════════════════════════════════════════════════════════════════════════

/-- Whatever the server does, a session that fetches sends the first commands of its script, each
under a tag of its own. If there is no line end in the settings, these are the lines that the server
reads, and they mark no mail as seen. The session gives mails if and only if it is greeted, every
command before the last is carried out and logging out is no panic, and they are those that the
responses hold. Otherwise it fails with the first command that is refused, or is a panic with the
first for which there is no number or no room. -/
theorem fetchUnseen_follows_script (c : MailConfig) (p : Peer) :
    let run := converse (some p) (fetchUnseen c)
    ∃ uids, Found c p uids ∧
      run.state.sent <+: numbered 0 (script c uids) ∧
      (run.state.sent.map tagOf).Nodup ∧
      (Tame c →
        (wireLines run.state.sent).map (· ++ crlf) =
          run.state.sent.map (fun line => encode line.toList) ∧
        ∀ raw ∈ wireLines run.state.sent, leavesUnseen (decodeLossy raw) = true) ∧
      (∀ mails, run.result = .ok (.ok mails) ↔ ∃ s rs t, Greeted p s ∧
        Answered p (opening c ++ uids.map fetchText) s rs t ∧
        (∀ u message, ¬ Overtaxed p "LOGOUT" t u message) ∧ mails = bodies uids (rs.drop 3)) ∧
      ((∃ mails, run.result = .ok (.ok mails)) ∨
        (∃ e, run.result = .ok (.error e) ∧
          (((∀ s, ¬ Greeted p s) ∧ run.state.sent = []) ∨
            ∃ s, Greeted p s ∧ Stopped p (opening c ++ uids.map fetchText) s run.state)) ∨
        ∃ message s, run.result = .error message ∧ Greeted p s ∧
          Strained p message (script c uids) s run.state) := by
  intro run
  obtain ⟨uids, hfound, hword, hcourse⟩ := exists_course c p
  obtain ⟨done, hdone, hsent⟩ := hcourse.exists_sent_eq
  have hsent' : run.state.sent = numbered 0 done := hsent
  refine ⟨uids, hfound, ?_, ?_, ?_, hcourse.eq_ok_iff, ?_⟩
  · rw [hsent']
    exact numbered_prefix 0 hdone
  · rw [hsent']
    exact nodup_map_tagOf_numbered 0 done
  · intro htame
    have hlines := map_wireLines (htame.isLine_of_fetchUnseen p)
    refine ⟨hlines, fun raw hraw => ?_⟩
    have hmem := List.mem_map_of_mem (f := (· ++ crlf)) hraw
    rw [hlines] at hmem
    obtain ⟨line, hline, hbytes⟩ := List.mem_map.1 hmem
    rw [hsent] at hline
    obtain ⟨text, htext, k, rfl⟩ := exists_of_mem_numbered hline
    rw [encode_commandLine, List.append_left_inj] at hbytes
    rw [← hbytes, decodeLossy_encode]
    exact leavesUnseen_of_mem_script (hdone.subset htext) hword (not_mem_tag k (by decide) (by decide))
  · have hstate : run.state = (converse (some p) (fetchUnseen c)).state := rfl
    have hresult : run.result = (converse (some p) (fetchUnseen c)).result := rfl
    generalize (converse (some p) (fetchUnseen c)).state = t,
      (converse (some p) (fetchUnseen c)).result = outcome at hcourse hstate hresult
    rw [hstate, hresult]
    cases hcourse with
    | ungreeted hnone hnothing => exact .inr (.inl ⟨_, rfl, .inl ⟨hnone, hnothing⟩⟩)
    | stopped hgreet hstop => exact .inr (.inl ⟨_, rfl, .inr ⟨_, hgreet, hstop⟩⟩)
    | strained hgreet hstrain => exact .inr (.inr ⟨_, _, rfl, hgreet, hstrain⟩)
    | served hgreet hanswered hroom _ => exact .inl ⟨_, rfl⟩

def shelfConfig : MailConfig where
  host := "mail.example.com"
  port := 993
  username := "bot"
  password := "pw"
  folder := "INBOX"
  interval := 60

/-- The mail that has a body is fetched, and nothing that the server reads marks a mail as seen. -/
theorem shelf_is_fetched :
    Tame shelfConfig ∧
      (∀ raw ∈ wireLines (converse (some shelf) (fetchUnseen shelfConfig)).state.sent,
        leavesUnseen (decodeLossy raw) = true) ∧
      (converse (some shelf) (fetchUnseen shelfConfig)).result =
        .ok (.ok [⟨"4", encode "Hi".toList⟩]) := by
  obtain ⟨uids, hfound, -, -, hwire, hok, -⟩ := fetchUnseen_follows_script shelfConfig shelf
  have htame : Tame shelfConfig := by
    simp only [Tame, List.mem_cons, List.not_mem_nil, or_false, forall_eq_or_imp, forall_eq]
    exact ⟨not_hasLineEnd_of_not_mem (by decide), not_hasLineEnd_of_not_mem (by decide),
      not_hasLineEnd_of_not_mem (by decide)⟩
  obtain ⟨rfl, t, hanswered, hroom⟩ := shelf_serves hfound
  exact ⟨htame, (hwire htame).2, (hok _).2 ⟨{}, _, t, greeted_shelf, hanswered, hroom, rfl⟩⟩

/-- An environment whose folder has line ends, with a command of its own between them. -/
def prowler : Environment :=
  fun key =>
    [("MAIL_IMAP_HOST", "mail.example.com"), ("MAIL_USERNAME", "bot"), ("MAIL_PASSWORD", "pw"),
      ("MAIL_FOLDER", "x\r\nA8 SELECT INBOX\r\nA9 FETCH 1 BODY[]\r\nA10 NOOP")].lookup key

/-- The settings of that environment. -/
def prowlerConfig : MailConfig where
  host := "mail.example.com"
  port := 993
  username := "bot"
  password := "pw"
  folder := "x\r\nA8 SELECT INBOX\r\nA9 FETCH 1 BODY[]\r\nA10 NOOP"
  interval := 5

/-- A server that greets and then announces more bytes than there can be room for. -/
def roomlessShelf : Peer where
  greeting := shelf.greeting
  answer _ := { bytes := encode roomlessLine ++ crlf }

/-- A folder with line ends is accepted, and the server reads a line between them that fetches a mail
and marks it as seen. A server that announces too long a literal gets no error but a panic. -/
theorem folder_adds_fetch_and_long_literal_panics :
    ((MailConfig.read prowler).result = .ok (.ok (some prowlerConfig)) ∧
      encode "A9 FETCH 1 BODY[]".toList ∈
        wireLines (converse (some shelf) (fetchUnseen prowlerConfig)).state.sent ∧
      leavesUnseen "A9 FETCH 1 BODY[]".toList = false) ∧
    (converse (some roomlessShelf) (fetchUnseen shelfConfig)).result =
      .error "capacity overflow" := by
  refine ⟨⟨rfl, ?_, by decide⟩, ?_⟩
  · obtain ⟨later, hsent⟩ := numbered_entry_prefix_sent prowlerConfig
    have hbytes : (numbered 0 (entry prowlerConfig)).flatMap (fun line => encode line.toList) =
        encode "A1 LOGIN \"bot\" \"pw\"".toList ++ crlf ++
          (encode "A2 SELECT \"x".toList ++ crlf ++ (encode "A8 SELECT INBOX".toList ++ crlf ++
            (encode "A9 FETCH 1 BODY[]".toList ++ crlf ++
              (encode "A10 NOOP\"".toList ++ crlf)))) := by
      decide +kernel
    rw [← hsent, wireLines, List.flatMap_append, hbytes]
    simp only [List.append_assoc (_ ++ crlf)]
    rw [cutLines_append (not_infix_encode (by decide)), cutLines_append (not_infix_encode (by decide)),
      cutLines_append (not_infix_encode (by decide)), cutLines_append (not_infix_encode (by decide))]
    exact .tail _ (.tail _ (.tail _ (.head _)))
  · have hgreet : Greeted roomlessShelf {} :=
      ⟨greeted_shelf.greeting, greeted_shelf.broken, rfl, rfl⟩
    have hover : Overtaxed roomlessShelf
        ("LOGIN " ++ quoted shelfConfig.username ++ " " ++ quoted shelfConfig.password) {}
        _ "capacity overflow" := .room (show 1 + 1 < UInt32.size by decide) rfl overflows_roomless
    exact (Crashes.bind (hgreet.ends.bind_crashes hover.crashes.bind)).2

end Parley.Imap
