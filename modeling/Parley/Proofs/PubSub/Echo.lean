import Parley.Proofs.Json.Written
import Parley.Proofs.PubSub.Subscription

/-!
# Echoes of replies

What is published is decoded to the same envelope under its own subject, and to nothing under any
other. A configuration never has replies on the subject that is subscribed to, so a broker that
sends the replies back to their publisher changes nothing.

## Main definitions

- `PubSub.echo` — a reply that a broker sends back
- `PubSub.Echoed` — frames among which a broker puts echoes of replies

## Main results

- `decodeEnvelope_publishRequest` — a published envelope is read back
- `PubSubConfig.replySubject_ne` — replies are not published on the subscribed subject
- `PubSub.alike_pump_of_envelopesOf_eq` — only the envelopes of a subscription matter
- `PubSub.published_replies_are_never_delivered` — echoes of replies change nothing
-/

namespace Parley

variable {γ : Type}

/-- The members of a published envelope on the wire. -/
def Envelope.wireMembers (e : Envelope) : List (String × String) :=
  [("op", "publish"), ("subject", e.subject), ("body", e.body)]

/-- A published envelope is read back whatever its texts are. -/
theorem Envelope.read?_publishRequest (e : Envelope) :
    Envelope.read? e.publishRequest = some e := by
  have hkeys : (e.wireMembers.map Prod.fst).Nodup := by
    change ["op", "subject", "body"].Nodup
    decide
  have hread : Json.readObject ["subject", "body"] (Json.members e.wireMembers ++ ['}']) =
      some ([("body", e.body), ("subject", e.subject)], []) := Json.readObject_members hkeys []
  have hwire : e.publishRequest.toList = '{' :: (Json.members e.wireMembers ++ ['}']) := by
    simp only [publishRequest, wireMembers, Json.object, String.toList_ofList, List.cons_append]
  rw [read?, hwire, Json.skipBlanks_cons rfl]
  simp only [hread]
  rfl

/-- A published envelope is one for its own subject only. -/
theorem decodeEnvelope_publishRequest (e : Envelope) (subject : String) :
    (decodeEnvelope e.publishRequest subject).result =
      .ok (if e.subject = subject then some e else none) := by
  rw [decodeEnvelope, e.read?_publishRequest]
  simp only
  split <;> rfl

/-- Replies are not published on the subject that is subscribed to. -/
theorem PubSubConfig.replySubject_ne {env : Environment} {c : PubSubConfig} {reply : String}
    (hread : (read env).result = .ok (some c)) (hreply : c.replySubject = some reply) :
    reply ≠ c.subject := by
  cases hurl : env urlKey with
  | none =>
    rw [read, hurl] at hread
    cases hread
  | some url =>
    cases hkey : env replySubjectKey with
    | none =>
      rw [read, hurl, hkey] at hread
      cases hread
      cases hreply
    | some key =>
      rw [read, hurl, hkey] at hread
      simp only at hread
      split at hread
      · cases hread
        cases hreply
      · cases hread
        cases hreply
        assumption

namespace PubSub

/-- The frame with which a broker sends a reply back to its publisher. -/
def echo (subject text : String) : Frame :=
  .text (Envelope.publishRequest ⟨subject, text⟩)

/-- Frames among which a broker puts echoes of replies on a subject, wherever it likes. -/
inductive Echoed (subject : String) : List Frame → List Frame → Prop
  | nil : Echoed subject [] []
  | frame {fs fs' : List Frame} (f : Frame) (later : Echoed subject fs fs') :
      Echoed subject (f :: fs) (f :: fs')
  | echo {fs fs' : List Frame} (text : String) (later : Echoed subject fs fs') :
      Echoed subject fs (echo subject text :: fs')

/-- An echo has no envelope for another subject. -/
theorem envelope?_echo {subject reply : String} (h : reply ≠ subject) (text : String) :
    (echo reply text).envelope? subject = none := by
  have hdecode := decodeEnvelope_publishRequest ⟨reply, text⟩ subject
  rw [if_neg h] at hdecode
  simp only [echo, Frame.envelope?, hdecode]

/-- Echoes bring no envelopes for another subject. -/
theorem Echoed.envelopesOf_eq {subject reply : String} (h : reply ≠ subject)
    {frames mixed : List Frame} (hmixed : Echoed reply frames mixed) :
    envelopesOf subject mixed = envelopesOf subject frames := by
  induction hmixed with
  | nil => rfl
  | @frame fs fs' f later ih =>
    cases hf : f.isFailure with
    | false => rw [envelopesOf_cons hf, envelopesOf_cons hf, ih]
    | true => rw [envelopesOf_of_isFailure subject hf, envelopesOf_of_isFailure subject hf]
  | echo text later ih =>
    rw [envelopesOf_cons rfl, envelope?_echo h text, ih]
    rfl

variable {c : PubSub γ}

/-- What is published in return for an envelope has the subject of replies. -/
theorem subject_of_answered {reply : String} (hreply : c.replySubject = some reply)
    {es : List Envelope} {xs : List (List Event × List Envelope)}
    (h : List.Forall₂ (fun e x => c.Answered e x.1 x.2) es xs) :
    ∀ a ∈ xs.flatMap Prod.snd, a.subject = reply := by
  induction h with
  | nil => nofun
  | cons hx _ ih =>
    obtain ⟨fs, os, -, -, hanswers⟩ := hx
    intro a ha
    rw [List.flatMap_cons, List.mem_append, hanswers] at ha
    exact ha.elim (subject_of_mem_publications hreply) (ih a)

theorem Answers.subject_eq {reply : String} (hreply : c.replySubject = some reply)
    {es : List Envelope} {fs : List Event} {answers : List Envelope} {r : Except String Nat}
    (h : c.Answers es fs answers r) : ∀ a ∈ answers, a.subject = reply := by
  cases h with
  | returned hxs => exact subject_of_answered hreply hxs
  | stopped hxs hpanic => exact subject_of_answered hreply hxs

/-- Runs on subscriptions with the same envelopes are alike. -/
theorem alike_pump_of_envelopesOf_eq {subject : String} {frames others : List Frame}
    (h : envelopesOf subject frames = envelopesOf subject others) (published : List Envelope) :
    Alike (c.pump (subscription subject frames) published)
      (c.pump (subscription subject others) published) := by
  have halike := fun fs => (alike_pump (c := c) (subscription subject fs) published).trans
    (alike_pumpFrom 0 published subject fs)
  have hframes := halike frames
  rw [h] at hframes
  exact hframes.trans (halike others).symm

/-- A published envelope is decoded to itself under its own subject, and to nothing under any
other, whatever its texts are. A channel with the settings of an environment therefore publishes on
a subject that it is not subscribed to, and a broker that sends replies back changes nothing: not
what is delivered, nor what is published, nor how many envelopes are counted. -/
theorem published_replies_are_never_delivered :
    (∀ (s b t : String),
      (decodeEnvelope (Envelope.publishRequest ⟨s, b⟩) t).result =
        .ok (if s = t then some ⟨s, b⟩ else none)) ∧
    ∀ (γ : Type) (env : Environment) (config : PubSubConfig) (reply : String) (c : PubSub γ),
      (PubSubConfig.read env).result = .ok (some config) →
      config.replySubject = some reply → c.replySubject = some reply →
      ∀ frames mixed : List Frame, Echoed reply frames mixed →
        (∀ e ∈ (c.pump (subscription config.subject frames) []).state, e.subject = reply) ∧
        Alike (c.pump (subscription config.subject mixed) [])
          (c.pump (subscription config.subject frames) []) := by
  refine ⟨fun s b t => decodeEnvelope_publishRequest ⟨s, b⟩ t, ?_⟩
  intro γ env config reply c hread hconfig hreply frames mixed hmixed
  have hne : reply ≠ config.subject := PubSubConfig.replySubject_ne hread hconfig
  obtain ⟨answers, hstate, hanswers⟩ := answers_pump (c := c) [] config.subject frames
  refine ⟨?_, alike_pump_of_envelopesOf_eq (hmixed.envelopesOf_eq hne) []⟩
  rw [hstate, List.nil_append]
  exact hanswers.subject_eq hreply

/-- A channel that answers whatever it receives. -/
def bell : PubSub Unit :=
  { targets := [⟨"bell", false, [⟨"ring", ∅, [], false, fun _ => .text "pong"⟩]⟩]
    replySubject := some "answers" }

/-- An environment with a broker and a subject of replies. -/
def bellEnvironment : Environment :=
  fun key => ([("PUBSUB_URL", "ws://broker"), ("PUBSUB_REPLY_SUBJECT", "answers")]).lookup key

/-- The bell answers once, and the echo of its answer changes nothing. -/
theorem bell_ignores_its_echo :
    (bell.pump (subscription "chatterbox" [echo "chatterbox" "ping"]) []).state =
        [⟨"answers", "pong"⟩] ∧
      Alike
        (bell.pump
          (subscription "chatterbox" [echo "chatterbox" "ping", echo "answers" "pong"]) [])
        (bell.pump (subscription "chatterbox" [echo "chatterbox" "ping"]) []) :=
  ⟨by decide +kernel,
    (published_replies_are_never_delivered.2 Unit bellEnvironment
      ⟨"ws://broker", "chatterbox", some "answers"⟩ "answers" bell rfl rfl rfl _ _
      (.frame _ (.echo _ .nil))).2⟩

end PubSub

end Parley
