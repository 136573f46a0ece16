import Parley.Channel.MailPoller
import Parley.Proofs.Journal

/-!
# One poll of a mailbox

## Main definitions

- `Handling` — a mail that is delivered and then marked, and how the mark ended
- `Handles` — mails that are handled one after the other
- `Day`, `Polls` — what comes of a poll

## Main results

- `handleEach_eq` — every mail is delivered and marked, whatever fails
- `exists_polls` — a poll either handles all unseen mails or does nothing
-/

namespace Parley.MailPoller

variable {γ σ : Type} {p : MailPoller γ σ} {s t u : σ} {mail : FetchedMail}
  {mails : List FetchedMail}

/-- A mail that is delivered and then marked as seen, and how the mark ended. -/
structure Handling where
  mail : FetchedMail
  mark : MailboxCall Unit
  deriving DecidableEq

/-- The mails are delivered and marked under their own names, one after the other. -/
inductive Handles (p : MailPoller γ σ) : List FetchedMail → σ → List Handling → σ → Prop
  | nil {s : σ} : Handles p [] s [] s
  | cons {mail : FetchedMail} {mails : List FetchedMail} {s t u : σ} {call : MailboxCall Unit}
      {hs : List Handling} (hmark : p.mailbox.markSeen mail.uid s = (t, call))
      (later : Handles p mails t hs u) : Handles p (mail :: mails) s (⟨mail, call⟩ :: hs) u

theorem Handles.map_mail {hs : List Handling} (h : Handles p mails s hs t) :
    hs.map Handling.mail = mails := by
  induction h with
  | nil => rfl
  | cons hmark later ih => rw [List.map_cons, ih]

/-- What is logged about a mail that is none. -/
def undeliverable (mail : FetchedMail) : List Event :=
  match Mail.read mail.raw with
  | .ok _ => []
  | .error e =>
    [.logged ⟨.warn, "Undeliverable mail", [("uid", mail.uid), ("error", e.message)]⟩]

/-- What is logged about a mark. -/
def markLog : MailboxCall Unit → List Event
  | .done () => []
  | .failed e => [.logged ⟨.warn, "Failed to mark mail as seen", [("error", e.message)]⟩]
  | .panicked => [.logged ⟨.warn, "Mark-seen task panicked", []⟩]

/-- What is written down when a mail is handled: what its delivery writes down, and only then that it
is marked, under its own name. -/
def handlingEvents (p : MailPoller γ σ) (h : Handling) : List Event :=
  (p.channel.deliver h.mail.raw).events ++ (undeliverable h.mail ++
    .marked h.mail.uid :: markLog h.mark)

/-- The number of those that are mails. -/
def countMails (mails : List FetchedMail) : Nat :=
  mails.countP fun mail => (Mail.read mail.raw).isOk

theorem countMails_cons (mail : FetchedMail) (mails : List FetchedMail) :
    countMails (mail :: mails) = (if (Mail.read mail.raw).isOk then 1 else 0) + countMails mails := by
  rw [countMails, List.countP_cons, Nat.add_comm]
  rfl

/-- No handler panics on the mail. -/
def Calm (p : MailPoller γ σ) (mail : FetchedMail) : Prop :=
  ∃ answer, (p.channel.deliver mail.raw).result = .ok answer

theorem mark_eq {uid : String} {call : MailboxCall Unit}
    (h : p.mailbox.markSeen uid s = (t, call)) :
    p.mark uid s = ⟨t, .marked uid :: markLog call, .ok ()⟩ := by
  have hcall : callMailbox (.marked uid) (p.mailbox.markSeen uid) s = ⟨t, [.marked uid], .ok call⟩ := by
    show Step.mk (p.mailbox.markSeen uid s).1 [_] (.ok (p.mailbox.markSeen uid s).2) = _
    rw [h]
  refine Act.bind_eq hcall ?_
  cases call with
  | done => rfl
  | failed e => rfl
  | panicked => rfl

/-- A delivery fails exactly if the bytes are no mail. -/
theorem deliver_eq (h : p.Calm mail) :
    (∃ e, Mail.read mail.raw = .error e ∧
      (p.channel.deliver mail.raw).result = .ok (.error e)) ∨
      ∃ m outcomes, Mail.read mail.raw = .ok m ∧
        (p.channel.deliver mail.raw).result = .ok (.ok outcomes) := by
  obtain ⟨answer, hanswer⟩ := h
  cases hread : Mail.read mail.raw with
  | error e =>
    refine .inl ⟨e, rfl, ?_⟩
    rw [MailChannel.deliver, hread]
    rfl
  | ok m =>
    have hdeliver : p.channel.deliver mail.raw =
        (p.channel.deliverMessage m >>= fun outcomes => pure (.ok outcomes)) := by
      rw [MailChannel.deliver, hread]
    have hresult := hanswer
    rw [hdeliver] at hresult
    obtain ⟨outcomes, -, hlast⟩ := Traced.exists_ok_of_bind hresult
    obtain rfl := Except.ok.inj hlast
    exact .inr ⟨m, outcomes, rfl, hanswer⟩

theorem handleEach_cons {call : MailboxCall Unit} {es : List Event} {n : Nat}
    (hcalm : p.Calm mail) (hmark : p.mailbox.markSeen mail.uid s = (t, call))
    (hlater : p.handleEach mails t = ⟨u, es, .ok n⟩) :
    p.handleEach (mail :: mails) s = ⟨u, p.handlingEvents ⟨mail, call⟩ ++ es,
      .ok ((if (Mail.read mail.raw).isOk then 1 else 0) + n)⟩ := by
  -- what follows the delivery does not depend on its result
  have hrest : ∀ d : Nat, (p.mark mail.uid >>= fun _ => p.handleEach mails >>= fun others =>
      (pure (d + others) : Act σ Nat)) s =
        ⟨u, .marked mail.uid :: markLog call ++ (es ++ []), .ok (d + n)⟩ := by
    intro d
    exact Act.bind_eq (mark_eq hmark) (Act.bind_eq hlater rfl)
  have hlift : (liftM (p.channel.deliver mail.raw) : Act σ _) s =
      ⟨s, (p.channel.deliver mail.raw).events, (p.channel.deliver mail.raw).result⟩ := rfl
  rw [handleEach, handlingEvents, undeliverable]
  rcases deliver_eq hcalm with ⟨e, hread, hresult⟩ | ⟨m, outcomes, hread, hresult⟩
  · rw [hresult] at hlift
    have hnone : (pure 0 : Act σ Nat) s = ⟨s, [], .ok 0⟩ := rfl
    have hlog := Act.log_apply .warn "Undeliverable mail"
      [("uid", mail.uid), ("error", e.message)] s
    rw [Act.bind_eq hlift (Act.bind_eq hlog (Act.bind_eq hnone (hrest 0))), hread]
    simp [Except.isOk, Except.toBool]
  · rw [hresult] at hlift
    have hone : (pure 1 : Act σ Nat) s = ⟨s, [], .ok 1⟩ := rfl
    rw [Act.bind_eq hlift (Act.bind_eq hone (hrest 1)), hread]
    simp [Except.isOk, Except.toBool]

/-- Every mail is delivered and then marked, whatever fails, and those that are mails are
counted. -/
theorem handleEach_eq (hcalm : ∀ mail ∈ mails, p.Calm mail) (s : σ) :
    ∃ hs t, Handles p mails s hs t ∧
      p.handleEach mails s = ⟨t, hs.flatMap p.handlingEvents, .ok (countMails mails)⟩ := by
  induction mails generalizing s with
  | nil => exact ⟨[], s, .nil, rfl⟩
  | cons mail mails ih =>
    rw [List.forall_mem_cons] at hcalm
    obtain ⟨hs, u, hhandles, hlater⟩ := ih hcalm.2 (p.mailbox.markSeen mail.uid s).1
    refine ⟨⟨mail, (p.mailbox.markSeen mail.uid s).2⟩ :: hs, u, .cons rfl hhandles, ?_⟩
    rw [handleEach_cons hcalm.1 rfl hlater, List.flatMap_cons, countMails_cons]

/-- What happens between a mailbox and its account. -/
inductive Day
  /-- A mail arrives. -/
  | arrived (mail : FetchedMail)
  /-- A poll cannot fetch the unseen mails. -/
  | missed
  /-- A poll handles mails. -/
  | polled (hs : List Handling)

/-- What is logged about mails that are fetched. -/
def fetchLog (mails : List FetchedMail) : List Event :=
  if mails.isEmpty then []
  else [.logged ⟨.debug, "Fetched unseen mail", [("count", toString mails.length)]⟩]

/-- What comes of a poll, after a fetch: if it fails, nothing but an entry of the log; if it does not,
all mails are handled in order, and those that are mails are counted. -/
inductive Polls (p : MailPoller γ σ) : σ → Day → σ → Prop
  | missed {s t : σ} {e : Entry} (hfetch : ∀ mails, (p.mailbox.fetchUnseen s).2 ≠ .done mails)
      (hstate : (p.mailbox.fetchUnseen s).1 = t)
      (hpoll : p.poll s = ⟨t, [.fetched, .logged e], .ok 0⟩) :
      Polls p s .missed t
  | polled {s t u : σ} {mails : List FetchedMail} {hs : List Handling}
      (hfetch : p.mailbox.fetchUnseen s = (t, .done mails)) (hhandles : Handles p mails t hs u)
      (hpoll : p.poll s =
        ⟨u, .fetched :: fetchLog mails ++ hs.flatMap p.handlingEvents, .ok (countMails mails)⟩) :
      Polls p s (.polled hs) u

theorem exists_polls
    (hcalm : ∀ t mails, p.mailbox.fetchUnseen s = (t, .done mails) → ∀ mail ∈ mails, p.Calm mail) :
    ∃ day t, Polls p s day t := by
  have hcall : callMailbox .fetched p.mailbox.fetchUnseen s =
      ⟨(p.mailbox.fetchUnseen s).1, [.fetched], .ok (p.mailbox.fetchUnseen s).2⟩ := rfl
  cases hfetch : p.mailbox.fetchUnseen s with
  | mk t call =>
    rw [hfetch] at hcall
    cases call with
    | failed e =>
      have hlog := Act.log_apply .error "Mail poll failed" [("error", e.message)] t
      have hpoll : p.poll s =
          ⟨t, [.fetched, .logged ⟨.error, "Mail poll failed", [("error", e.message)]⟩], .ok 0⟩ :=
        Act.bind_eq hcall (Act.bind_eq hlog (Act.pure_apply 0 t))
      exact ⟨.missed, t, .missed (by rw [hfetch]; simp) (by rw [hfetch]) hpoll⟩
    | panicked =>
      have hlog := Act.log_apply .error "Mail poll task panicked" [] t
      have hpoll : p.poll s =
          ⟨t, [.fetched, .logged ⟨.error, "Mail poll task panicked", []⟩], .ok 0⟩ :=
        Act.bind_eq hcall (Act.bind_eq hlog (Act.pure_apply 0 t))
      exact ⟨.missed, t, .missed (by rw [hfetch]; simp) (by rw [hfetch]) hpoll⟩
    | done mails =>
      obtain ⟨hs, u, hhandles, hrun⟩ := handleEach_eq (hcalm t mails hfetch) t
      refine ⟨.polled hs, u, .polled hfetch hhandles ?_⟩
      cases mails with
      | nil =>
        cases hhandles
        exact Act.bind_eq hcall (Act.pure_apply 0 t)
      | cons mail mails =>
        have hlog := Act.log_apply .debug "Fetched unseen mail"
          [("count", toString (mail :: mails).length)] t
        have hpoll : p.poll s = ⟨u, .fetched :: (fetchLog (mail :: mails) ++
            hs.flatMap p.handlingEvents), .ok (countMails (mail :: mails))⟩ :=
          Act.bind_eq hcall (Act.bind_eq hlog hrun)
        exact hpoll

end Parley.MailPoller
