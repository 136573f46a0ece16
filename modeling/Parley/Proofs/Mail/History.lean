import Mathlib.Data.List.Nodup
import Parley.Proofs.Mail.Poll

/-!
# Polls of a mailbox over time

Mails arrive and polls are made, in any order. Fetching and marking may fail at any time, and not
everything that arrives is a mail.

## Main definitions

- `Keeps` — a mailbox that holds the unseen mails
- `History` — what happens between a mailbox and its account
- `Waits`, `Reached` — a mail that the next poll handles, and one that a poll has come to

## Main results

- `handled_iff` — a poll handles the mails that wait for it, each once
- `count_handled` — if no mark fails, a mail is handled once in all
- `polls_neither_lose_nor_repeat` — both, for all that can happen
-/

namespace Parley.MailPoller

variable {γ σ : Type} {p : MailPoller γ σ} {arrive : FetchedMail → σ → σ}
  {unseen : σ → List FetchedMail} {s t u : σ} {mail : FetchedMail}

-- ════════════════════════════════════════════════════════════════════════
-- Mailboxes
-- ════════════════════════════════════════════════════════════════════════

/-- The mailbox holds the unseen mails, in some order. A fetch gives them all or fails, a mark
takes out the mails of one name or fails, and a mail that arrives is unseen. -/
structure Keeps (b : Mailbox σ) (arrive : FetchedMail → σ → σ) (unseen : σ → List FetchedMail) :
    Prop where
  fetch (s : σ) : (unseen (b.fetchUnseen s).1).Perm (unseen s)
  fetched (s : σ) (mails : List FetchedMail) (h : (b.fetchUnseen s).2 = .done mails) :
    mails.Perm (unseen s)
  marked (uid : String) (s : σ) (h : (b.markSeen uid s).2 = .done ()) :
    (unseen (b.markSeen uid s).1).Perm ((unseen s).filter (·.uid ≠ uid))
  unmarked (uid : String) (s : σ) (h : (b.markSeen uid s).2 ≠ .done ()) :
    (unseen (b.markSeen uid s).1).Perm (unseen s)
  arrived (mail : FetchedMail) (s : σ) : (unseen (arrive mail s)).Perm (mail :: unseen s)

/-- Whether the handling takes out the mails of the name. -/
def Handling.takes (h : Handling) (uid : String) : Bool :=
  h.mark = .done () ∧ h.mail.uid = uid

/-- The mails that are left are those that no mark takes out. -/
theorem Handles.unseen_perm (hkeeps : Keeps p.mailbox arrive unseen) {mails : List FetchedMail}
    {hs : List Handling} (h : Handles p mails s hs t) :
    (unseen t).Perm ((unseen s).filter fun mail => !hs.any (·.takes mail.uid)) := by
  induction h with
  | nil => simp
  | @cons mail mails s t u call hs hmark later ih =>
    refine ih.trans ?_
    have hcall : (p.mailbox.markSeen mail.uid s).2 = call := by rw [hmark]
    have hstate : (p.mailbox.markSeen mail.uid s).1 = t := by rw [hmark]
    by_cases hdone : call = .done ()
    · have hleft := hkeeps.marked mail.uid s (hcall.trans hdone)
      rw [hstate] at hleft
      refine (hleft.filter _).trans (List.Perm.of_eq ?_)
      rw [List.filter_filter]
      refine List.filter_congr ?_
      intro other _
      simp [Handling.takes, hdone, eq_comm, Bool.and_comm]
    · have hleft := hkeeps.unmarked mail.uid s (by rw [hcall]; exact hdone)
      rw [hstate] at hleft
      refine (hleft.filter _).trans (List.Perm.of_eq ?_)
      refine List.filter_congr ?_
      intro other _
      simp [Handling.takes, hdone]

-- ════════════════════════════════════════════════════════════════════════
-- Histories
-- ════════════════════════════════════════════════════════════════════════

/-- What is done to a mailbox. -/
inductive Input
  | arrival (mail : FetchedMail)
  | poll

/-- The mails that arrive. -/
def arrivals (inputs : List Input) : List FetchedMail :=
  inputs.filterMap fun
    | .arrival mail => some mail
    | .poll => none

/-- What happens, from a state of the mailbox on. -/
inductive History (p : MailPoller γ σ) (arrive : FetchedMail → σ → σ) :
    σ → List Input → List Day → Prop
  | nil {s : σ} : History p arrive s [] []
  | arrival {s : σ} {mail : FetchedMail} {inputs : List Input} {days : List Day}
      (later : History p arrive (arrive mail s) inputs days) :
      History p arrive s (.arrival mail :: inputs) (.arrived mail :: days)
  | poll {s t : σ} {day : Day} {inputs : List Input} {days : List Day} (hpoll : Polls p s day t)
      (later : History p arrive t inputs days) : History p arrive s (.poll :: inputs) (day :: days)

/-- No two mails have a name in common, be they unseen or still to arrive. -/
def Distinct (mails : List FetchedMail) (inputs : List Input) : Prop :=
  ((mails ++ arrivals inputs).map FetchedMail.uid).Nodup

/-- The mails that are handled on a day. -/
def Day.handled : Day → List FetchedMail
  | .polled hs => hs.map Handling.mail
  | _ => []

/-- The mail is marked as seen on this day. -/
def Day.Marks : Day → FetchedMail → Prop
  | .polled hs, mail => ⟨mail, .done ()⟩ ∈ hs
  | _, _ => False

/-- The mail was there at first or has arrived since, and it is not marked. -/
def Waits (atFirst : Prop) (before : List Day) (mail : FetchedMail) : Prop :=
  (atFirst ∨ .arrived mail ∈ before) ∧ ∀ day ∈ before, ¬ day.Marks mail

/-- The mail was there at first or arrives, and a poll after that fetches the unseen mails. -/
def Reached (atFirst : Prop) (days : List Day) (mail : FetchedMail) : Prop :=
  ∃ before hs after, days = before ++ .polled hs :: after ∧ (atFirst ∨ .arrived mail ∈ before)

theorem reached_cons {atFirst : Prop} {day : Day} {days : List Day} :
    Reached atFirst (day :: days) mail ↔
      (atFirst ∧ ∃ hs, day = .polled hs) ∨ Reached (atFirst ∨ day = .arrived mail) days mail := by
  constructor
  · rintro ⟨before, hs, after, hdays, hhere⟩
    cases before with
    | nil =>
      obtain ⟨rfl, rfl⟩ := List.cons.inj hdays
      exact .inl ⟨by simpa using hhere, hs, rfl⟩
    | cons first before =>
      obtain ⟨rfl, rfl⟩ := List.cons.inj hdays
      refine .inr ⟨before, hs, after, rfl, ?_⟩
      rw [List.mem_cons, eq_comm] at hhere
      exact or_assoc.2 hhere
  · rintro (⟨hhere, hs, rfl⟩ | ⟨before, hs, after, rfl, hhere⟩)
    · exact ⟨[], hs, days, rfl, .inl hhere⟩
    · refine ⟨day :: before, hs, after, rfl, ?_⟩
      rw [List.mem_cons, eq_comm]
      exact or_assoc.1 hhere

theorem Reached.atFirst_or_arrives {atFirst : Prop} {days : List Day}
    (h : Reached atFirst days mail) : atFirst ∨ .arrived mail ∈ days := by
  obtain ⟨before, hs, after, rfl, hhere⟩ := h
  exact hhere.imp id (fun hmem => List.mem_append_left _ hmem)

theorem History.mem_arrivals {inputs : List Input} {days : List Day}
    (h : History p arrive s inputs days) (hmem : .arrived mail ∈ days) :
    mail ∈ arrivals inputs := by
  induction h with
  | nil => cases hmem
  | arrival later ih =>
    rcases List.mem_cons.1 hmem with heq | hmem
    · cases heq
      exact List.mem_cons_self
    · exact List.mem_cons_of_mem _ (ih hmem)
  | poll hpoll later ih =>
    rcases List.mem_cons.1 hmem with rfl | hmem
    · cases hpoll
    · exact ih hmem

-- ════════════════════════════════════════════════════════════════════════
-- One day
-- ════════════════════════════════════════════════════════════════════════

theorem Distinct.injOn {mails : List FetchedMail} {inputs : List Input}
    (h : Distinct mails inputs) {a b : FetchedMail} (ha : a ∈ mails) (hb : b ∈ mails)
    (huid : a.uid = b.uid) : a = b := by
  rw [Distinct, List.map_append] at h
  exact List.inj_on_of_nodup_map (List.Nodup.of_append_left h) ha hb huid

theorem Distinct.nodup {mails : List FetchedMail} {inputs : List Input}
    (h : Distinct mails inputs) : mails.Nodup := by
  rw [Distinct, List.map_append] at h
  exact List.Nodup.of_map _ (List.Nodup.of_append_left h)

theorem Distinct.not_mem_arrivals {mails : List FetchedMail} {inputs : List Input}
    (h : Distinct mails inputs) (hmem : mail ∈ mails) : mail ∉ arrivals inputs := by
  intro harrives
  rw [Distinct] at h
  exact List.disjoint_of_nodup_append (List.Nodup.of_map _ h) hmem harrives

theorem Keeps.arrival_perm {b : Mailbox σ} (hkeeps : Keeps b arrive unseen) (mail : FetchedMail)
    (s : σ) (inputs : List Input) :
    (unseen (arrive mail s) ++ arrivals inputs).Perm
      (unseen s ++ arrivals (.arrival mail :: inputs)) :=
  ((hkeeps.arrived mail s).append_right _).trans List.perm_middle.symm

theorem Distinct.arrival (hkeeps : Keeps p.mailbox arrive unseen) {inputs : List Input}
    (h : Distinct (unseen s) (.arrival mail :: inputs)) :
    Distinct (unseen (arrive mail s)) inputs :=
  (((hkeeps.arrival_perm mail s inputs).map _).nodup_iff).2 h

theorem Polls.exists_sublist (hkeeps : Keeps p.mailbox arrive unseen) {day : Day}
    (h : Polls p s day t) : ∃ mails, (unseen t).Perm mails ∧ mails.Sublist (unseen s) := by
  cases h with
  | missed hfetch hstate hpoll => exact ⟨unseen s, hstate ▸ hkeeps.fetch s, List.Sublist.refl _⟩
  | polled hfetch hhandles hpoll =>
    have hfetched := hkeeps.fetch s
    rw [hfetch] at hfetched
    exact ⟨_, (hhandles.unseen_perm hkeeps).trans (hfetched.filter _), List.filter_sublist⟩

theorem Distinct.poll (hkeeps : Keeps p.mailbox arrive unseen) {inputs : List Input} {day : Day}
    (h : Distinct (unseen s) (.poll :: inputs)) (hpoll : Polls p s day t) :
    Distinct (unseen t) inputs := by
  obtain ⟨mails, hperm, hsublist⟩ := hpoll.exists_sublist hkeeps
  have hnodup : ((mails ++ arrivals inputs).map FetchedMail.uid).Nodup :=
    List.Nodup.sublist ((hsublist.append_right _).map _) h
  exact (((hperm.append_right _).map _).nodup_iff).2 hnodup

/-- A poll handles the unseen mails, each once. -/
theorem Polls.handled_perm (hkeeps : Keeps p.mailbox arrive unseen) {hs : List Handling}
    (h : Polls p s (.polled hs) t) : (hs.map Handling.mail).Perm (unseen s) := by
  cases h with
  | polled hfetch hhandles hpoll =>
    rw [hhandles.map_mail]
    exact hkeeps.fetched s _ (by rw [hfetch])

/-- After a poll those mails are unseen that were so before and are not marked. -/
theorem Polls.mem_unseen_iff (hkeeps : Keeps p.mailbox arrive unseen) {inputs : List Input}
    {day : Day} (hdistinct : Distinct (unseen s) inputs) (h : Polls p s day t) :
    mail ∈ unseen t ↔ mail ∈ unseen s ∧ ¬ day.Marks mail := by
  cases h with
  | missed hfetch hstate hpoll =>
    rw [← hstate, (hkeeps.fetch s).mem_iff]
    simp [Day.Marks]
  | polled hfetch hhandles hpoll =>
    have hhandled := Polls.handled_perm hkeeps (.polled hfetch hhandles hpoll)
    have hfetched := hkeeps.fetch s
    rw [hfetch] at hfetched
    rw [(hhandles.unseen_perm hkeeps).mem_iff, List.mem_filter, hfetched.mem_iff]
    refine and_congr_right ?_
    intro hmem
    simp only [Bool.not_eq_true', List.any_eq_false, Handling.takes, decide_eq_true_eq, Day.Marks]
    constructor
    · intro hnone hmark
      exact hnone _ hmark ⟨rfl, rfl⟩
    · rintro hnone ⟨other, mark⟩ hother ⟨hmark, huid⟩
      have hunseen := hhandled.mem_iff.1 (List.mem_map_of_mem hother)
      obtain rfl := hdistinct.injOn hunseen hmem huid
      subst hmark
      exact hnone hother

theorem Polls.mem_unseen_of_marks (hkeeps : Keeps p.mailbox arrive unseen) {day : Day}
    (h : Polls p s day t) (hmarks : day.Marks mail) : mail ∈ unseen s := by
  cases day with
  | polled hs => exact (h.handled_perm hkeeps).mem_iff.1 (List.mem_map_of_mem hmarks)
  | arrived other => cases hmarks
  | missed => cases hmarks

-- ════════════════════════════════════════════════════════════════════════
-- All days
-- ════════════════════════════════════════════════════════════════════════

/-- A poll handles the mails that wait for it, and each of them once. -/
theorem handled_iff (hkeeps : Keeps p.mailbox arrive unseen) {inputs : List Input}
    {before after : List Day} {hs : List Handling}
    (h : History p arrive s inputs (before ++ .polled hs :: after))
    (hdistinct : Distinct (unseen s) inputs) :
    (hs.map Handling.mail).Nodup ∧
      ∀ mail, mail ∈ hs.map Handling.mail ↔ Waits (mail ∈ unseen s) before mail := by
  induction before generalizing s inputs with
  | nil =>
    cases h with
    | poll hpoll later =>
      have hperm := hpoll.handled_perm hkeeps
      refine ⟨hperm.nodup_iff.2 hdistinct.nodup, ?_⟩
      intro mail
      rw [hperm.mem_iff]
      simp [Waits]
  | cons day before ih =>
    cases h with
    | @arrival _ other inputs _ later =>
      obtain ⟨hnodup, hhandled⟩ := ih later (hdistinct.arrival hkeeps)
      refine ⟨hnodup, ?_⟩
      intro mail
      rw [hhandled mail, Waits, Waits, (hkeeps.arrived other s).mem_iff]
      simp [Day.Marks, or_assoc, or_left_comm]
    | @poll _ t _ inputs _ hpoll later =>
      obtain ⟨hnodup, hhandled⟩ := ih later (hdistinct.poll hkeeps hpoll)
      refine ⟨hnodup, ?_⟩
      intro mail
      have hunseen : mail ∈ unseen t ↔ mail ∈ unseen s ∧ ¬ day.Marks mail :=
        hpoll.mem_unseen_iff hkeeps hdistinct
      have hmarks : day.Marks mail → mail ∈ unseen s := hpoll.mem_unseen_of_marks hkeeps
      have hother : .arrived mail ∈ day :: before ↔ .arrived mail ∈ before := by
        rw [List.mem_cons, or_iff_right]
        rintro rfl
        cases hpoll
      have hexcluded : .arrived mail ∈ before → mail ∉ unseen s := by
        intro harrived hmem
        exact hdistinct.not_mem_arrivals hmem
          (later.mem_arrivals (List.mem_append_left _ harrived))
      rw [hhandled mail, Waits, Waits, hunseen, hother, List.forall_mem_cons]
      tauto

theorem Polls.not_mem_unseen (hkeeps : Keeps p.mailbox arrive unseen) {inputs : List Input}
    {hs : List Handling} (hdistinct : Distinct (unseen s) inputs) (h : Polls p s (.polled hs) t)
    (hdone : ∀ h ∈ hs, h.mark = .done ()) : mail ∉ unseen t := by
  intro hmem
  obtain ⟨hunseen, hmarks⟩ := (h.mem_unseen_iff hkeeps hdistinct).1 hmem
  obtain ⟨handling, hhandling, rfl⟩ := List.mem_map.1 ((h.handled_perm hkeeps).mem_iff.2 hunseen)
  have hmark := hdone handling hhandling
  cases handling
  cases hmark
  exact hmarks hhandling

/-- If no mark fails, the mails that a poll comes to are handled once in all, and no others. -/
theorem count_handled (hkeeps : Keeps p.mailbox arrive unseen) {inputs : List Input}
    {days : List Day} (h : History p arrive s inputs days)
    (hdistinct : Distinct (unseen s) inputs)
    (hdone : ∀ hs, .polled hs ∈ days → ∀ h ∈ hs, h.mark = .done ()) (mail : FetchedMail) :
    (Reached (mail ∈ unseen s) days mail → (days.flatMap Day.handled).count mail = 1) ∧
      (¬ Reached (mail ∈ unseen s) days mail → (days.flatMap Day.handled).count mail = 0) := by
  induction h with
  | nil =>
    refine ⟨?_, fun _ => rfl⟩
    rintro ⟨before, hs, after, hdays, -⟩
    simp at hdays
  | @arrival s other inputs days later ih =>
    have hlater := ih (hdistinct.arrival hkeeps)
      (fun hs hmem => hdone hs (List.mem_cons_of_mem _ hmem))
    have hsame : Reached (mail ∈ unseen s) (.arrived other :: days) mail ↔
        Reached (mail ∈ unseen (arrive other s)) days mail := by
      rw [reached_cons, (hkeeps.arrived other s).mem_iff]
      simp [or_comm, eq_comm]
    rw [hsame, List.flatMap_cons]
    exact hlater
  | @poll s t day inputs days hpoll later ih =>
    have hlater := ih (hdistinct.poll hkeeps hpoll)
      (fun hs hmem => hdone hs (List.mem_cons_of_mem _ hmem))
    rw [List.flatMap_cons, List.count_append, reached_cons]
    cases day with
    | arrived other => cases hpoll
    | missed =>
      have hunseen : mail ∈ unseen t ↔ mail ∈ unseen s := by
        rw [hpoll.mem_unseen_iff hkeeps hdistinct]
        simp [Day.Marks]
      rw [hunseen] at hlater
      simpa [Day.handled] using hlater
    | polled hs =>
      have hperm := hpoll.handled_perm hkeeps
      have hempty : mail ∉ unseen t :=
        hpoll.not_mem_unseen hkeeps hdistinct (hdone hs List.mem_cons_self)
      by_cases hmem : mail ∈ unseen s
      · -- handled today, and never again
        have hnone : ¬ Reached (mail ∈ unseen t) days mail := by
          intro hreached
          rcases hreached.atFirst_or_arrives with hunseen | harrived
          · exact hempty hunseen
          · exact hdistinct.not_mem_arrivals hmem (later.mem_arrivals harrived)
        have htoday : (Day.handled (.polled hs)).count mail = 1 := by
          rw [Day.handled, hperm.count_eq]
          exact List.count_eq_one_of_mem hdistinct.nodup hmem
        rw [htoday, hlater.2 hnone]
        exact ⟨fun _ => rfl, fun h => absurd (.inl ⟨hmem, hs, rfl⟩) h⟩
      · have htoday : (Day.handled (.polled hs)).count mail = 0 := by
          rw [Day.handled, hperm.count_eq]
          exact List.count_eq_zero_of_not_mem hmem
        rw [htoday, Nat.zero_add]
        simpa [hmem, hempty] using hlater

theorem exists_history (hkeeps : Keeps p.mailbox arrive unseen) (inputs : List Input) (s : σ)
    (hcalm : ∀ mail ∈ unseen s ++ arrivals inputs, p.Calm mail) :
    ∃ days, History p arrive s inputs days := by
  induction inputs generalizing s with
  | nil => exact ⟨[], .nil⟩
  | cons input inputs ih =>
    cases input with
    | arrival mail =>
      have hperm := hkeeps.arrival_perm mail s inputs
      obtain ⟨days, hdays⟩ := ih (arrive mail s) (fun other h => hcalm other (hperm.mem_iff.1 h))
      exact ⟨.arrived mail :: days, .arrival hdays⟩
    | poll =>
      have hfetched : ∀ t mails, p.mailbox.fetchUnseen s = (t, .done mails) →
          ∀ mail ∈ mails, p.Calm mail := by
        intro t mails hfetch mail hmem
        have hperm := hkeeps.fetched s mails (by rw [hfetch])
        exact hcalm mail (List.mem_append_left _ (hperm.mem_iff.1 hmem))
      obtain ⟨day, t, hpoll⟩ := exists_polls hfetched
      obtain ⟨mails, hperm, hsublist⟩ := hpoll.exists_sublist hkeeps
      have hlater : ∀ mail ∈ unseen t ++ arrivals inputs, p.Calm mail := by
        intro mail hmem
        refine hcalm mail ?_
        rcases List.mem_append.1 hmem with hmem | hmem
        · exact List.mem_append_left _ (hsublist.subset (hperm.mem_iff.1 hmem))
        · exact List.mem_append_right _ hmem
      obtain ⟨days, hdays⟩ := ih t hlater
      exact ⟨day :: days, .poll hpoll hdays⟩

/-- Whatever arrives and whatever fails, polls lose no mail and handle none without need: each
that fetches the unseen mails handles those that wait for it, once and in order, and a mail is
handled once in all if no mark fails. -/
theorem polls_neither_lose_nor_repeat (p : MailPoller γ σ) (arrive : FetchedMail → σ → σ)
    (unseen : σ → List FetchedMail) (hkeeps : Keeps p.mailbox arrive unseen)
    (inputs : List Input) (s : σ) (hdistinct : Distinct (unseen s) inputs)
    (hcalm : ∀ mail ∈ unseen s ++ arrivals inputs, p.Calm mail) :
    (∃ days, History p arrive s inputs days) ∧
      ∀ days, History p arrive s inputs days →
        (∀ before hs after, days = before ++ .polled hs :: after → ∀ mail,
          (Waits (mail ∈ unseen s) before mail → (hs.map Handling.mail).count mail = 1) ∧
          (¬ Waits (mail ∈ unseen s) before mail → (hs.map Handling.mail).count mail = 0)) ∧
        ((∀ hs, .polled hs ∈ days → ∀ h ∈ hs, h.mark = .done ()) → ∀ mail,
          (Reached (mail ∈ unseen s) days mail → (days.flatMap Day.handled).count mail = 1) ∧
          (¬ Reached (mail ∈ unseen s) days mail →
            (days.flatMap Day.handled).count mail = 0)) := by
  refine ⟨exists_history hkeeps inputs s hcalm, ?_⟩
  intro days hdays
  refine ⟨?_, count_handled hkeeps hdays hdistinct⟩
  rintro before hs after rfl mail
  obtain ⟨hnodup, hhandled⟩ := handled_iff hkeeps hdays hdistinct
  constructor
  · intro hwaits
    exact List.count_eq_one_of_mem hnodup ((hhandled mail).2 hwaits)
  · intro hwaits
    exact List.count_eq_zero_of_not_mem (fun hmem => hwaits ((hhandled mail).1 hmem))

/-- Mails, and which of the next calls succeed; all calls after them do. -/
structure Planned where
  plan : List Bool
  unseen : List FetchedMail

/-- Calls that fail where it is planned. -/
def plannedMailbox : Mailbox Planned where
  fetchUnseen s :=
    match s.plan with
    | false :: plan => (⟨plan, s.unseen⟩, .failed (.mailbox "refused"))
    | plan => (⟨plan.tail, s.unseen⟩, .done s.unseen)
  markSeen uid s :=
    match s.plan with
    | false :: plan => (⟨plan, s.unseen⟩, .failed (.mailbox "refused"))
    | plan => (⟨plan.tail, s.unseen.filter (·.uid ≠ uid)⟩, .done ())

/-- A mail comes after those that are there. -/
def Planned.receive (mail : FetchedMail) (s : Planned) : Planned :=
  ⟨s.plan, s.unseen ++ [mail]⟩

theorem plannedMailbox_keeps : Keeps plannedMailbox Planned.receive Planned.unseen := by
  constructor
  · rintro ⟨_ | ⟨_ | _, plan⟩, mails⟩ <;> exact List.Perm.refl _
  · rintro ⟨_ | ⟨_ | _, plan⟩, mails⟩ fetched h <;> cases h <;> exact List.Perm.refl _
  · rintro uid ⟨_ | ⟨_ | _, plan⟩, mails⟩ h <;> first | exact List.Perm.refl _ | cases h
  · rintro uid ⟨_ | ⟨_ | _, plan⟩, mails⟩ h <;> first | exact List.Perm.refl _ | exact absurd rfl h
  · rintro mail ⟨plan, mails⟩
    exact List.perm_append_singleton mail mails

/-- A letter, and bytes that are no mail. -/
def letter : FetchedMail :=
  ⟨"1", Text.encode "Subject: hi\r\n\r\n".toList⟩

def junk : FetchedMail :=
  ⟨"2", []⟩

/-- An account that answers nothing. -/
def silentPoller : MailPoller Unit Planned where
  channel := { targets := [] }
  mailbox := plannedMailbox

theorem silentPoller_calm (mail : FetchedMail) : silentPoller.Calm mail := by
  cases hread : Mail.read mail.raw with
  | error e => exact ⟨.error e, by rw [MailChannel.deliver, hread]; rfl⟩
  | ok m => exact ⟨.ok [], by rw [MailChannel.deliver, hread]; rfl⟩

/-- A letter arrives and a fetch fails. The next poll cannot mark the letter, so the one after it
handles the letter again, with junk that has arrived. -/
theorem polls_keep_letter_and_junk :
    let inputs := [.arrival letter, .poll, .poll, .arrival junk, .poll]
    let s : Planned := ⟨[false, true, false], []⟩
    ∃ days, History silentPoller Planned.receive s inputs days ∧
      ∀ before hs after, days = before ++ .polled hs :: after →
        Waits (letter ∈ s.unseen) before letter → (hs.map Handling.mail).count letter = 1 := by
  intro inputs s
  have hdistinct : Distinct s.unseen inputs := by
    show ["1", "2"].Nodup
    decide
  obtain ⟨⟨days, hdays⟩, hall⟩ := polls_neither_lose_nor_repeat silentPoller Planned.receive
    Planned.unseen plannedMailbox_keeps inputs s hdistinct (fun mail _ => silentPoller_calm mail)
  refine ⟨days, hdays, ?_⟩
  intro before hs after hsplit
  exact ((hall days hdays).1 before hs after hsplit letter).1

end Parley.MailPoller
