import Parley.Proofs.Imap.Exchange
import Parley.Proofs.Imap.Transmission
import Parley.Proofs.Text.Blank

/-!
# Fetching unseen mails

A session that fetches follows a script, which the response to its search completes. It gives the
mails if every command but the last is carried out, and otherwise none.

## Main definitions

- `Greeted` — the session once it is greeted
- `Lists` — the mails that the lines of a search list
- `script` — the commands of a session, by the mails to fetch
- `bodies` — the mails that responses hold
- `Found` — the mails that the response to the search lists
- `Course`, `Goes` — how a session can go

## Main results

- `exists_course` — every session goes in one of these ways
- `Course.exists_sent_eq` — the commands sent are the first ones of the script
- `Course.eq_ok_iff` — when a session gives mails, and which
-/

namespace Parley.Imap

open Parley.Text

variable {p : Peer} {c : MailConfig} {uid : String} {uids lines : List String}
  {s t u : Session} {r : Response} {rs : List Response}
  {outcome : Except String (Except ChannelError (List FetchedMail))}

-- ════════════════════════════════════════════════════════════════════════
-- The greeting
-- ════════════════════════════════════════════════════════════════════════

/-- The server begins with a good greeting, and what it sends after it is left unread. -/
structure Greeted (p : Peer) (s : Session) : Prop where
  greeting : ∃ raw, p.greeting.bytes = raw ++ crlf ++ s.unread ∧ ¬ crlf <:+: raw ∧
    "* OK".toList <+: decodeLossy raw
  broken : s.broken = p.greeting.breaks
  sent : s.sent = []
  next : s.next = 1

theorem Greeted.ends (h : Greeted p s) : Ends greet p.connect s (.ok ()) := by
  obtain ⟨⟨raw, hbytes, hline, hgood⟩, hbroken, hsent, hnext⟩ := h
  have hcut : cutLine p.connect.unread = some (raw, s.unread) :=
    cutLine_eq_some_iff.2 ⟨hbytes, hline⟩
  have hleft : { p.connect with unread := s.unread } = s := by
    cases s with
    | mk unread broken sent next =>
      subst hbroken hsent hnext
      rfl
  refine ends_get.bind ?_
  rw [hcut]
  refine (ends_leave s.unread).bind ?_
  rw [if_pos (List.isPrefixOf_iff_prefix.2 hgood), hleft]
  exact ends_pure ()

/-- Without a good greeting the session is over, and nothing is sent. -/
theorem greet_fails (h : ∀ s, ¬ Greeted p s) :
    ∃ t e, Ends greet p.connect t (.error e) ∧ t.sent = [] := by
  cases hcut : cutLine p.connect.unread with
  | none =>
    refine ⟨{ p.connect with unread := [] }, p.connect.failure .inLine, ?_, rfl⟩
    refine ends_get.bind ?_
    rw [hcut]
    exact (ends_leave []).bind (ends_throw _)
  | some pair =>
    obtain ⟨raw, rest⟩ := pair
    obtain ⟨hbytes, hline⟩ := cutLine_eq_some_iff.1 hcut
    have hbad : ¬ "* OK".toList.isPrefixOf (decodeLossy raw) = true := by
      intro hgood
      exact h { p.connect with unread := rest }
        ⟨⟨raw, hbytes, hline, List.isPrefixOf_iff_prefix.1 hgood⟩, rfl, rfl, rfl⟩
    refine ⟨{ p.connect with unread := rest },
      .mailbox ("unexpected greeting: " ++ String.ofList (trimEnd (decodeLossy raw))), ?_, rfl⟩
    refine ends_get.bind ?_
    rw [hcut]
    refine (ends_leave rest).bind ?_
    rw [if_neg hbad]
    exact ends_throw _

theorem Greeted.unique (hs : Greeted p s) (ht : Greeted p t) : s = t :=
  (hs.ends.unique ht.ends).1

-- ════════════════════════════════════════════════════════════════════════
-- The search
-- ════════════════════════════════════════════════════════════════════════

/-- The lines of a search list the mails, between blanks. -/
inductive Lists : List String → List String → Prop
  | nil : Lists [] []
  | other {line : String} {lines uids : List String} (h : ¬ "* SEARCH".toList <+: line.toList)
      (later : Lists lines uids) : Lists (line :: lines) uids
  | search {line : String} {rest : List Char} {ws : List (List Char)} {lines uids : List String}
      (h : line.toList = "* SEARCH".toList ++ rest) (hwords : Separated rest ws)
      (later : Lists lines uids) : Lists (line :: lines) (ws.map String.ofList ++ uids)

theorem lists_iff : Lists lines uids ↔ searchResults lines = uids := by
  constructor
  · intro h
    induction h with
    | nil => rfl
    | other hline later ih =>
      rw [← ih, searchResults, List.flatMap_cons, isPrefixOf?_eq_none_iff.2 hline]
      rfl
    | search hline hwords later ih =>
      rw [← ih, searchResults, List.flatMap_cons,
        List.isPrefixOf?_eq_some_iff_append_eq.2 hline.symm, ← separated_iff.1 hwords]
      rfl
  · rintro rfl
    induction lines with
    | nil => exact .nil
    | cons line lines ih =>
      rw [searchResults, List.flatMap_cons]
      cases hfound : "* SEARCH".toList.isPrefixOf? line.toList with
      | none => exact .other (isPrefixOf?_eq_none_iff.1 hfound) ih
      | some rest =>
        have hline := List.isPrefixOf?_eq_some_iff_append_eq.1 hfound
        exact .search hline.symm (separated_iff.2 rfl) ih

/-- There is something in the text, but no blank. -/
def IsWord (s : String) : Prop :=
  s.toList ≠ [] ∧ ∀ c ∈ s.toList, isBlank c = false

theorem Lists.isWord (h : Lists lines uids) : ∀ uid ∈ uids, IsWord uid := by
  induction h with
  | nil => simp
  | other hline later ih => exact ih
  | search hline hwords later ih =>
    intro uid huid
    rcases List.mem_append.1 huid with huid | huid
    · obtain ⟨w, hw, rfl⟩ := List.mem_map.1 huid
      rw [IsWord, String.toList_ofList]
      exact hwords.isWord w hw
    · exact ih uid huid

-- ════════════════════════════════════════════════════════════════════════
-- The script
-- ════════════════════════════════════════════════════════════════════════

/-- The commands that enter the folder. -/
def entry (c : MailConfig) : List String :=
  ["LOGIN " ++ quoted c.username ++ " " ++ quoted c.password, "SELECT " ++ quoted c.folder]

/-- The commands before the mails. -/
def opening (c : MailConfig) : List String :=
  entry c ++ ["UID SEARCH UNSEEN"]

/-- The command that fetches a mail and leaves it unseen. -/
def fetchText (uid : String) : String :=
  "UID FETCH " ++ uid ++ " BODY.PEEK[]"

/-- All commands of a session. -/
def script (c : MailConfig) (uids : List String) : List String :=
  opening c ++ uids.map fetchText ++ ["LOGOUT"]

/-- The mail that a response holds, if it holds one. -/
def firstMail (uid : String) (r : Response) : Option FetchedMail :=
  r.literals.head?.map fun raw => ⟨uid, raw⟩

/-- The mails that responses hold. -/
def bodies (uids : List String) (rs : List Response) : List FetchedMail :=
  (List.zipWith firstMail uids rs).filterMap id

theorem bodies_cons (uid : String) (uids : List String) (r : Response) (rs : List Response) :
    bodies (uid :: uids) (r :: rs) = (firstMail uid r).toList ++ bodies uids rs := by
  rw [bodies, List.zipWith_cons_cons]
  cases firstMail uid r with
  | none => rfl
  | some mail => rfl

-- ════════════════════════════════════════════════════════════════════════
-- One part of a session after the other
-- ════════════════════════════════════════════════════════════════════════

/-- Once greeted, a session enters the folder. -/
theorem logIn_performs (c : MailConfig) (hgreet : Greeted p s) :
    Performs p (entry c) s (logIn p c) p.connect fun rs _ => rs.length = 2 := by
  refine hgreet.ends.bind_performs ((command_performs p _ s).bind ?_)
  rintro _ r t - rfl
  refine (command_performs p _ t).bind_pure ?_
  rintro _ r' rfl
  rfl

theorem fetchEach_performs (p : Peer) (uids : List String) (s : Session) :
    Performs p (uids.map fetchText) s (fetchEach p uids) s fun rs mails => mails = bodies uids rs := by
  induction uids generalizing s with
  | nil => exact .answered .nil (ends_pure []) rfl
  | cons uid uids ih =>
    refine (command_performs p (fetchText uid) s).bind ?_
    rintro _ r t - rfl
    simp only [List.singleton_append, bodies_cons]
    cases hliterals : r.literals with
    | nil =>
      have hnone : firstMail uid r = none := by rw [firstMail, hliterals]; rfl
      rw [hnone]
      exact (ends_log _ _ _).bind_performs (ih t)
    | cons raw others =>
      have hsome : firstMail uid r = some ⟨uid, raw⟩ := by rw [firstMail, hliterals]; rfl
      rw [hsome]
      exact (ih t).bind_pure fun rs mails h => congrArg (⟨uid, raw⟩ :: ·) h

/-- Logging out ends well, unless it is a panic. -/
theorem logOut_cases (p : Peer) (s : Session) :
    (∃ t, (∀ u message, ¬ Overtaxed p "LOGOUT" s u message) ∧ Ends (logOut p) s t (.ok ()) ∧
        (t.sent = s.sent ∨ t.sent = s.sent ++ [s.line "LOGOUT"])) ∨
      ∃ t message, Overtaxed p "LOGOUT" s t message ∧ Crashes (logOut p) s t message := by
  cases command_performs p "LOGOUT" s with
  | answered hall ends =>
    obtain _ | ⟨first, ⟨⟩⟩ := hall
    refine .inl ⟨_, fun u message hover => hover.not_replied first,
      ends.caught.bind (ends_pure ()), .inr first.sent⟩
  | stopped hstop ends =>
    obtain hrefused | ⟨-, halt⟩ := hstop
    · exact .inl ⟨_, hrefused.not_overtaxed, ends.caught.bind (ends_log _ _ _), hrefused.sent_eq⟩
    · exact absurd halt not_halted_nil
  | strained hstrain crashes =>
    obtain hover | ⟨-, halt⟩ := hstrain
    · exact .inr ⟨_, _, hover, crashes.caught.bind⟩
    · exact absurd halt not_halted_nil

-- ════════════════════════════════════════════════════════════════════════
-- Whole sessions
-- ════════════════════════════════════════════════════════════════════════

/-- The mails are those that the response to the search lists, if there is such a response. -/
def Found (c : MailConfig) (p : Peer) (uids : List String) : Prop :=
  ∀ s r₁ r₂ r₃ t, Greeted p s → Answered p (opening c) s [r₁, r₂, r₃] t → Lists r₃.lines uids

theorem found_of_answered {r₁ r₂ r₃ : Response} (hgreet : Greeted p s)
    (hopen : Answered p (opening c) s [r₁, r₂, r₃] t) : Found c p (searchResults r₃.lines) := by
  intro s' r₁' r₂' r₃' t' hgreet' hopen'
  obtain rfl := hgreet.unique hgreet'
  obtain ⟨hsame, -⟩ := hopen.unique hopen'
  simp only [List.cons.injEq, and_true] at hsame
  rw [lists_iff, hsame.2.2]

theorem found_of_not_answered (hgreet : Greeted p s)
    (hnone : ∀ rs t, ¬ Answered p (opening c) s rs t) (uids : List String) : Found c p uids := by
  intro s' r₁ r₂ r₃ t hgreet' hopen
  obtain rfl := hgreet.unique hgreet'
  exact absurd hopen (hnone _ _)

/-- How a session that fetches the mails can go, with its end and its outcome. -/
inductive Course (c : MailConfig) (p : Peer) (uids : List String) :
    Session → Except String (Except ChannelError (List FetchedMail)) → Prop
  | ungreeted {t : Session} {e : ChannelError} (h : ∀ s, ¬ Greeted p s) (hsent : t.sent = []) :
      Course c p uids t (.ok (.error e))
  | stopped {s t : Session} {e : ChannelError} (hgreet : Greeted p s)
      (hstop : Stopped p (opening c ++ uids.map fetchText) s t) :
      Course c p uids t (.ok (.error e))
  | strained {s t : Session} {message : String} (hgreet : Greeted p s)
      (hstrain : Strained p message (script c uids) s t) : Course c p uids t (.error message)
  | served {s t u : Session} {rs : List Response} (hgreet : Greeted p s)
      (hanswered : Answered p (opening c ++ uids.map fetchText) s rs t)
      (hroom : ∀ v message, ¬ Overtaxed p "LOGOUT" t v message)
      (hsent : u.sent = t.sent ∨ u.sent = t.sent ++ [t.line "LOGOUT"]) :
      Course c p uids u (.ok (.ok (bodies uids (rs.drop 3))))

/-- The mails are found, and the session has gone in one of these ways. -/
def Goes (c : MailConfig) (p : Peer) (t : Session)
    (outcome : Except String (Except ChannelError (List FetchedMail))) : Prop :=
  ∃ uids, Found c p uids ∧ (∀ uid ∈ uids, IsWord uid) ∧ Course c p uids t outcome

/-- There is a course for every way in which a session does not come to the mails. -/
theorem goes_of_stopped (hgreet : Greeted p s) (hstop : Stopped p (opening c) s t)
    (e : ChannelError) : Goes c p t (.ok (.error e)) :=
  ⟨[], found_of_not_answered hgreet (fun _ _ hall => hall.not_stopped hstop) [], nofun,
    .stopped hgreet hstop.append⟩

theorem goes_of_strained {message : String} (hgreet : Greeted p s)
    (hstrain : Strained p message (opening c) s t) : Goes c p t (.error message) :=
  ⟨[], found_of_not_answered hgreet (fun _ _ hall => hall.not_strained hstrain) [], nofun,
    .strained hgreet hstrain.append.append⟩

/-- What goes on once the mails are found. -/
theorem goes_of_found {r₁ r₂ r₃ : Response} (hgreet : Greeted p s)
    (hopen : Answered p (opening c) s [r₁, r₂, r₃] t)
    (hcourse : Course c p (searchResults r₃.lines) u outcome) : Goes c p u outcome :=
  ⟨_, found_of_answered hgreet hopen, (lists_iff.2 rfl).isWord, hcourse⟩

/-- Every session goes in one of these ways. -/
theorem exists_course (c : MailConfig) (p : Peer) :
    let run := converse (some p) (fetchUnseen c)
    Goes c p run.state run.result := by
  intro run
  have hends {t : Session} {result : Except ChannelError (List FetchedMail)}
      (h : Ends (fetchUnseen c p) p.connect t result) (hgoes : Goes c p t (.ok result)) :
      Goes c p run.state run.result := by
    have hrun : run.state = t ∧ run.result = .ok result := h
    rwa [hrun.1, hrun.2]
  have hcrash {t : Session} {message : String}
      (h : Crashes (fetchUnseen c p) p.connect t message) (hgoes : Goes c p t (.error message)) :
      Goes c p run.state run.result := by
    have hrun : run.state = t ∧ run.result = .error message := h
    rwa [hrun.1, hrun.2]
  by_cases hgreet : ∃ s, Greeted p s
  · obtain ⟨s, hgreet⟩ := hgreet
    cases logIn_performs c hgreet with
    | stopped hstop hlogIn =>
      exact hends hlogIn.bind_error (goes_of_stopped hgreet hstop.append _)
    | strained hstrain hlogIn =>
      exact hcrash hlogIn.bind (goes_of_strained hgreet hstrain.append)
    | @answered entered t _ hentry hlogIn hcount =>
      obtain ⟨r₁, r₂, rfl⟩ := List.length_eq_two.1 hcount
      cases command_performs p "UID SEARCH UNSEEN" t with
      | stopped hstop hsearch =>
        exact hends (hlogIn.bind hsearch.bind_error)
          (goes_of_stopped hgreet (hentry.halted hstop) _)
      | strained hstrain hsearch =>
        exact hcrash (hlogIn.bind_crashes hsearch.bind)
          (goes_of_strained hgreet (hentry.halted hstrain))
      | @answered found u r₃ hfinds hsearch hlast =>
        subst hlast
        have hopen : Answered p (opening c) s [r₁, r₂, r₃] u := hentry.append hfinds
        have hlog := ends_log .debug "Unseen messages"
          [("count", toString (searchResults r₃.lines).length), ("folder", c.folder)] (s := u)
        cases fetchEach_performs p (searchResults r₃.lines) u with
        | stopped hstop hfetch =>
          exact hends (hlogIn.bind (hsearch.bind (hlog.bind hfetch.bind_error)))
            (goes_of_found hgreet hopen (.stopped hgreet (hopen.halted hstop)))
        | strained hstrain hfetch =>
          exact hcrash
            (hlogIn.bind_crashes (hsearch.bind_crashes (hlog.bind_crashes hfetch.bind)))
            (goes_of_found hgreet hopen (.strained hgreet (hopen.halted hstrain).append))
        | @answered rs v mails hfetched hfetch hmails =>
          subst hmails
          have hserved := hopen.append hfetched
          rcases logOut_cases p v with ⟨w, hroom, hlogOut, hsent⟩ | ⟨w, message, hover, hlogOut⟩
          · exact hends
              (hlogIn.bind (hsearch.bind (hlog.bind (hfetch.bind (hlogOut.bind (ends_pure _))))))
              (goes_of_found hgreet hopen (.served hgreet hserved hroom hsent))
          · exact hcrash (hlogIn.bind_crashes (hsearch.bind_crashes (hlog.bind_crashes
                (hfetch.bind_crashes hlogOut.bind))))
              (goes_of_found hgreet hopen (.strained hgreet (hserved.halted (.here hover))))
  · have hnone : ∀ s, ¬ Greeted p s := fun s h => hgreet ⟨s, h⟩
    obtain ⟨t, e, hgreets, hsent⟩ := greet_fails hnone
    exact hends hgreets.bind_error.bind_error
      ⟨[], fun s _ _ _ _ h => absurd h (hnone s), nofun, .ungreeted hnone hsent⟩

theorem Greeted.toNat_next (h : Greeted p s) : s.next.toNat = 0 + 1 := by
  rw [h.next]
  rfl

/-- A session that logs out has sent all commands, but for the last one on a broken connection. -/
theorem exists_sent_of_logOut {texts : List String} (hgreet : Greeted p s)
    (hanswered : Answered p texts s rs t)
    (hsent : u.sent = t.sent ∨ u.sent = t.sent ++ [t.line "LOGOUT"]) :
    ∃ done, done <+: texts ++ ["LOGOUT"] ∧ u.sent = numbered 0 done := by
  have hbefore := hanswered.sent_eq hgreet.toNat_next
  rw [hgreet.sent, List.nil_append] at hbefore
  rcases hsent with hsent | hsent
  · exact ⟨texts, List.prefix_append _ _, hsent.trans hbefore⟩
  · have hnext : t.next.toNat = 0 + texts.length + 1 := by
      rw [hanswered.toNat_next, hgreet.toNat_next]
      omega
    refine ⟨texts ++ ["LOGOUT"], List.prefix_rfl, ?_⟩
    rw [hsent, numbered_append, hbefore, line_eq hnext]
    rfl

theorem Greeted.exists_sent_eq {texts : List String} {Ending : String → Session → Session → Prop}
    (hgreet : Greeted p s) (hhalt : Halted p Ending texts s t)
    (hends : ∀ {text s t}, Ending text s t → t.sent = s.sent ∨ t.sent = s.sent ++ [s.line text]) :
    ∃ done, done <+: texts ∧ t.sent = numbered 0 done := by
  obtain ⟨done, hdone, hsent⟩ := hhalt.exists_sent_eq hends hgreet.toNat_next
  rw [hgreet.sent, List.nil_append] at hsent
  exact ⟨done, hdone, hsent⟩

/-- The commands sent are the first ones of the script. -/
theorem Course.exists_sent_eq (h : Course c p uids t outcome) :
    ∃ done, done <+: script c uids ∧ t.sent = numbered 0 done := by
  cases h with
  | ungreeted _ hsent => exact ⟨[], List.nil_prefix, hsent⟩
  | stopped hgreet hstop =>
    obtain ⟨done, hdone, hsent⟩ := hgreet.exists_sent_eq hstop Refused.sent_eq
    exact ⟨done, hdone.trans (List.prefix_append _ _), hsent⟩
  | strained hgreet hstrain => exact hgreet.exists_sent_eq hstrain Overtaxed.sent_eq
  | served hgreet hanswered _ hsent => exact exists_sent_of_logOut hgreet hanswered hsent

/-- A session gives mails exactly if all commands before the last are carried out, and the last is
no panic. -/
theorem Course.eq_ok_iff (h : Course c p uids t outcome) (mails : List FetchedMail) :
    outcome = .ok (.ok mails) ↔ ∃ s rs u, Greeted p s ∧
      Answered p (opening c ++ uids.map fetchText) s rs u ∧
      (∀ v message, ¬ Overtaxed p "LOGOUT" u v message) ∧ mails = bodies uids (rs.drop 3) := by
  constructor
  · rintro rfl
    cases h with
    | served hgreet hanswered hroom hsent => exact ⟨_, _, _, hgreet, hanswered, hroom, rfl⟩
  · rintro ⟨s', rs', u', hgreet', hanswered', hroom', rfl⟩
    cases h with
    | ungreeted hnone _ => exact absurd hgreet' (hnone s')
    | stopped hgreet hstop =>
      obtain rfl := hgreet.unique hgreet'
      exact absurd hstop hanswered'.not_stopped
    | strained hgreet hstrain =>
      obtain rfl := hgreet.unique hgreet'
      obtain hover | ⟨-, halt⟩ := hstrain.of_append hanswered'
      · exact absurd hover (hroom' _ _)
      · exact absurd halt not_halted_nil
    | served hgreet hanswered hroom hsent =>
      obtain rfl := hgreet.unique hgreet'
      obtain ⟨rfl, -⟩ := hanswered.unique hanswered'
      rfl

-- ════════════════════════════════════════════════════════════════════════
-- A server with mails
-- ════════════════════════════════════════════════════════════════════════

/-- What a server with two mails, of which one has no body, answers to the command of a number. -/
def shelfSegments : (n : Nat) → List (Segment ("A" ++ toString n).toList)
  | 3 =>
    [{ line := "* SEARCH 4 9".toList
       literal := none
       isLine := by decide
       untagged := by decide
       carries := carries_iff.2 (by decide) }]
  | 4 =>
    [{ line := "* 1 FETCH (UID 4 BODY[] \x7b2\x7d".toList
       literal := some (encode "Hi".toList)
       isLine := by decide
       untagged := by decide
       carries := carries_iff.2 (by decide) }]
  | _ => []

/-- What the response to the command of a number says. -/
def shelfContents (n : Nat) : Response :=
  contents (shelfSegments n) " OK".toList

def shelf : Peer where
  greeting := { bytes := encode "* OK ready".toList ++ crlf }
  answer sent := { bytes := transmission (shelfSegments sent.length) " OK".toList }

theorem greeted_shelf : Greeted shelf {} := by
  refine ⟨⟨encode "* OK ready".toList, ?_, not_infix_encode (by decide), ?_⟩, rfl, rfl, rfl⟩
  · exact (List.append_nil _).symm
  · rw [decodeLossy_encode]
    decide

/-- All is read, and the commands are numbered one by one. -/
structure Ready (s : Session) : Prop where
  isOpen : s.broken = false
  unread : s.unread = []
  next : s.next.toNat = s.sent.length + 1

theorem shelf_replies (text : String) (hnumber : s.HasNumber) (hready : Ready s) :
    ∃ t, Replied shelf text s (shelfContents (s.sent.length + 1)) t ∧ Ready t := by
  obtain ⟨hopen, hread, hcount⟩ := hready
  have htag : s.nextTag = "A" ++ toString (s.sent.length + 1) := by rw [Session.nextTag, hcount]
  have hlength : (s.sent ++ [s.line text]).length = s.sent.length + 1 := List.length_append
  have hheard : (s.heard shelf text).unread =
      transmission (shelfSegments (s.sent.length + 1)) " OK".toList ++ [] := by
    show s.unread ++ transmission (shelfSegments (s.sent ++ [s.line text]).length) " OK".toList = _
    rw [hread, hlength, List.append_nil]
    rfl
  have hplain : Carries " OK".toList none := carries_iff.2 (by decide)
  have hframed := framed_transmission (shelfSegments (s.sent.length + 1))
    (htag ▸ not_infix_append (not_mem_nextTag s (by decide) (by decide)) (by decide))
    (fun n h => hplain n (h.of_append (htag ▸ not_mem_nextTag s (by decide) (by decide)))) []
  have hreplied : Replied shelf text s (shelfContents (s.sent.length + 1))
      { s.heard shelf text with unread := [] } := by
    refine ⟨hnumber, hopen, ?_, ?_, rfl, rfl, rfl⟩
    · rw [hheard, htag]
      exact hframed
    · rw [shelfContents, contents, String.toList_ofList]
      exact ⟨[' '], [], rfl, List.forall_mem_singleton.2 (by decide)⟩
  refine ⟨_, hreplied, rfl, rfl, ?_⟩
  rw [hreplied.toNat_next, hreplied.sent, hlength, hcount]

/-- As long as there are numbers, every command is carried out. -/
theorem shelf_answers (texts : List String) (hready : Ready s)
    (hroom : s.next.toNat + texts.length < UInt32.size) :
    ∃ t, Answered shelf texts s
      ((List.range' (s.sent.length + 1) texts.length).map shelfContents) t ∧ Ready t := by
  induction texts generalizing s with
  | nil => exact ⟨s, .nil, hready⟩
  | cons text texts ih =>
    rw [List.length_cons] at hroom
    have hnumber : s.HasNumber := by
      rw [Session.HasNumber]
      omega
    obtain ⟨t, hfirst, hready'⟩ := shelf_replies text hnumber hready
    obtain ⟨u, hlater, hready''⟩ := ih hready' (by rw [hfirst.toNat_next]; omega)
    rw [hfirst.sent, List.length_append] at hlater
    exact ⟨u, .cons hfirst hlater, hready''⟩

/-- The two mails are found, and all commands up to the last are carried out. -/
theorem shelf_serves (h : Found c shelf uids) :
    uids = ["4", "9"] ∧
      ∃ t, Answered shelf (opening c ++ uids.map fetchText) {}
        ((List.range' 1 5).map shelfContents) t ∧
        ∀ v message, ¬ Overtaxed shelf "LOGOUT" t v message := by
  have hready : Ready {} := ⟨rfl, rfl, rfl⟩
  obtain ⟨t, hopening, -⟩ := shelf_answers (opening c) hready (show 1 + 3 < UInt32.size by decide)
  have hlists := h {} _ _ _ t greeted_shelf hopening
  have huids : ["4", "9"] = uids := by
    rw [← lists_iff.1 hlists]
    decide
  subst huids
  obtain ⟨u, hanswered, hready'⟩ := shelf_answers (opening c ++ ["4", "9"].map fetchText) hready
    (show 1 + 5 < UInt32.size by decide)
  have hnumber : u.HasNumber := by
    rw [Session.HasNumber, hanswered.toNat_next]
    show (1 : UInt32).toNat + 5 + 1 < UInt32.size
    decide
  obtain ⟨v, hreplied, -⟩ := shelf_replies "LOGOUT" hnumber hready'
  exact ⟨rfl, u, hanswered, fun v message hover => hover.not_replied hreplied⟩

end Parley.Imap
