import Mathlib.Data.List.Forall2
import Parley.Channel.PubSub
import Parley.Proofs.Journal

/-!
# What a subscription delivers

A connection receives frames of all kinds, and may break down. The envelopes among the frames up to
then are delivered to every target, each once and in order, and the replies are published in the
order of the deliveries, whether or not a publication fails.

## Main definitions

- `Dispatched` — a message that is delivered to groups, up to the first panic
- `PubSub.envelopesOf`, `PubSub.lossOf` — the envelopes among frames, and the loss of the connection
- `PubSub.publications` — what is published for replies
- `PubSub.Alike` — runs that differ in their log only
- `PubSub.Answered`, `PubSub.Answers` — an envelope that is delivered and answered, and several

## Main results

- `Dispatcher.dispatched_dispatchEach` — a message is delivered to each of some groups
- `PubSub.streamItems_subscription` — the items of the stream of a subscription
- `PubSub.replyEach_apply` — replies are published in order, whatever fails
- `PubSub.alike_pumpFrom` — a subscription is answered as the stream of its envelopes is
- `PubSub.answers_streamOf` — envelopes are answered one after the other
- `PubSub.pump_answers_subscription` — what this means for the frames of a connection
-/

namespace Parley

variable {γ : Type}

-- ════════════════════════════════════════════════════════════════════════
-- Deliveries to several groups
-- ════════════════════════════════════════════════════════════════════════

/-- The events of the deliveries of a message to groups one after the other, with the outcomes; a
panic keeps the later groups from their turn. -/
inductive Dispatched (d : Dispatcher γ) (m : Message) :
    List (Group γ) → List Event → Except String (List (Outcome γ)) → Prop
  /-- All groups have had their turn. -/
  | returned {gs : List (Group γ)} {os : List (Outcome γ)}
      (hos : List.Forall₂ (fun g o => (d.dispatch m g).result = .ok o) gs os) :
      Dispatched d m gs (gs.flatMap fun g => (d.dispatch m g).events) (.ok os)
  /-- A handler of one of them has panicked. -/
  | stopped {earlier later : List (Group γ)} {g : Group γ} {os : List (Outcome γ)}
      {message : String}
      (hos : List.Forall₂ (fun g o => (d.dispatch m g).result = .ok o) earlier os)
      (hpanic : (d.dispatch m g).result = .error message) :
      Dispatched d m (earlier ++ g :: later)
        ((earlier ++ [g]).flatMap fun g => (d.dispatch m g).events) (.error message)

/-- The others have their turn after a group in which nothing panics. -/
theorem Dispatched.cons {d : Dispatcher γ} {m : Message} {g : Group γ} {gs : List (Group γ)}
    {es : List Event} {o : Outcome γ} {r : Except String (List (Outcome γ))}
    (ho : (d.dispatch m g).result = .ok o) (h : Dispatched d m gs es r) :
    Dispatched d m (g :: gs) ((d.dispatch m g).events ++ es) (r.map (o :: ·)) := by
  cases h with
  | returned hos => exact .returned (.cons ho hos)
  | stopped hos hpanic => exact .stopped (.cons ho hos) hpanic

/-- A message is delivered to groups one after the other. -/
theorem Dispatcher.dispatched_dispatchEach (d : Dispatcher γ) (m : Message) (gs : List (Group γ)) :
    Dispatched d m gs (d.dispatchEach m gs).events (d.dispatchEach m gs).result := by
  induction gs with
  | nil => exact .returned .nil
  | cons g rest ih =>
    have hcons : d.dispatchEach m (g :: rest) =
        (d.dispatch m g >>= fun o => d.dispatchEach m rest >>= fun os => pure (o :: os)) := rfl
    rw [hcons]
    cases hresult : (d.dispatch m g).result with
    | error message =>
      rw [Traced.bind_of_error hresult]
      have hstop : Dispatched d m ([] ++ g :: rest) _ _ := .stopped .nil hresult
      simpa using hstop
    | ok o =>
      rw [Traced.bind_of_ok hresult, Traced.bind_pure_of]
      exact ih.cons hresult

/-- A panic comes from the delivery to one of the groups. -/
theorem Dispatched.exists_error {d : Dispatcher γ} {m : Message} {gs : List (Group γ)}
    {es : List Event} {reason : String} (h : Dispatched d m gs es (.error reason)) :
    ∃ g ∈ gs, (d.dispatch m g).result = .error reason := by
  cases h with
  | stopped hos hpanic => exact ⟨_, by simp, hpanic⟩

namespace PubSub

-- ════════════════════════════════════════════════════════════════════════
-- Frames
-- ════════════════════════════════════════════════════════════════════════

/-- Whether a frame is a failure to read. -/
def Frame.isFailure : Frame → Bool
  | .failure _ => true
  | _ => false

theorem Frame.exists_failure {f : Frame} (h : f.isFailure = true) :
    ∃ reason, f = .failure reason := by
  cases f with
  | failure reason => exact ⟨reason, rfl⟩
  | text s => cases h
  | other => cases h

/-- The envelope of a frame: a frame of text has one if it is decoded to one for the subject. -/
def Frame.envelope? (subject : String) : Frame → Option Envelope
  | .text s =>
    match (decodeEnvelope s subject).result with
    | .ok e? => e?
    | .error _ => none
  | .other | .failure _ => none

/-- The envelopes of the frames before the first failure to read. -/
def envelopesOf (subject : String) (frames : List Frame) : List Envelope :=
  (frames.takeWhile fun f => !f.isFailure).filterMap (Frame.envelope? subject)

/-- The loss of the connection, at the first failure to read. -/
def lossOf : List Frame → Option ChannelError
  | [] => none
  | .failure reason :: _ => some (.disconnected name reason)
  | _ :: rest => lossOf rest

theorem envelopesOf_cons {subject : String} {f : Frame} (h : f.isFailure = false)
    (frames : List Frame) :
    envelopesOf subject (f :: frames) =
      (f.envelope? subject).toList ++ envelopesOf subject frames := by
  rw [envelopesOf, List.takeWhile_cons_of_pos (by simp [h]), List.filterMap_cons]
  cases f.envelope? subject <;> rfl

theorem envelopesOf_of_isFailure (subject : String) {f : Frame} (h : f.isFailure = true)
    (frames : List Frame) : envelopesOf subject (f :: frames) = [] := by
  rw [envelopesOf, List.takeWhile_cons_of_neg (by simp [h])]
  rfl

theorem lossOf_cons {f : Frame} (h : f.isFailure = false) (frames : List Frame) :
    lossOf (f :: frames) = lossOf frames := by
  cases f with
  | failure reason => cases h
  | text s => rfl
  | other => rfl

/-- A frame that is no failure gives its envelope, and no more than an entry of the log. -/
theorem Frame.item_eq (subject : String) {f : Frame} (h : f.isFailure = false) :
    deliveryEvents (f.item subject).events = [] ∧
      (f.item subject).result = .ok ((f.envelope? subject).map .ok) := by
  cases f with
  | failure reason => cases h
  | other => exact ⟨rfl, rfl⟩
  | text s =>
    have hitem : Frame.item subject (.text s) =
        (decodeEnvelope s subject >>= fun e? => pure (e?.map .ok)) := rfl
    rw [hitem, Traced.bind_pure_of, Frame.envelope?, decodeEnvelope]
    split
    · exact ⟨rfl, rfl⟩
    · split
      · exact ⟨rfl, rfl⟩
      · exact ⟨rfl, rfl⟩

theorem subscription_cons {subject : String} {f : Frame} (h : f.isFailure = false)
    (frames : List Frame) :
    subscription subject (f :: frames) = f.item subject :: subscription subject frames := by
  cases f with
  | failure reason => cases h
  | text s => rfl
  | other => rfl

/-- The stream of a subscription has the envelopes, and then the loss of the connection. -/
theorem streamItems_subscription (subject : String) (frames : List Frame) :
    streamItems (subscription subject frames) =
      (envelopesOf subject frames).map .ok ++ (lossOf frames).toList.map .error := by
  induction frames with
  | nil => rfl
  | cons f rest ih =>
    cases hf : f.isFailure with
    | false =>
      obtain ⟨-, hresult⟩ := Frame.item_eq subject hf
      rw [subscription_cons hf, envelopesOf_cons hf, lossOf_cons hf, streamItems,
        List.filterMap_cons, hresult, List.map_append, List.append_assoc, ← ih]
      cases f.envelope? subject <;> rfl
    | true =>
      obtain ⟨reason, rfl⟩ := Frame.exists_failure hf
      rfl

-- ════════════════════════════════════════════════════════════════════════
-- Publications
-- ════════════════════════════════════════════════════════════════════════

variable (c : PubSub γ)

/-- What is published for texts. -/
def publications (texts : List String) : List Envelope :=
  match c.replySubject with
  | some subject => texts.map fun text => ⟨subject, text⟩
  | none => []

variable {c} in
theorem publications_of_some {subject : String} (h : c.replySubject = some subject)
    (texts : List String) :
    c.publications texts = texts.map fun text => ⟨subject, text⟩ := by
  simp only [publications, h]

variable {c} in
theorem publications_of_none (h : c.replySubject = none) (texts : List String) :
    c.publications texts = [] := by
  simp only [publications, h]

theorem publications_nil : c.publications [] = [] := by
  unfold publications
  cases c.replySubject <;> rfl

variable {c} in
theorem subject_of_mem_publications {subject : String} (h : c.replySubject = some subject)
    {texts : List String} {e : Envelope} (he : e ∈ c.publications texts) : e.subject = subject := by
  rw [publications_of_some h] at he
  obtain ⟨text, -, rfl⟩ := List.mem_map.1 he
  rfl

/-- An envelope is published once, whether or not that fails. -/
theorem publish_apply (e : Envelope) (published : List Envelope) :
    ∃ logged r, deliveryEvents logged = [] ∧
      c.publish e published = ⟨published ++ [e], logged, .ok r⟩ := by
  unfold publish
  cases hfails : c.fails published.length with
  | true =>
    refine ⟨[] ++ ([] ++ []), .error (.sendFailed name "connection closed"), rfl, ?_⟩
    refine Act.bind_eq rfl (Act.bind_eq rfl ?_)
    rw [if_pos hfails]
    rfl
  | false =>
    refine ⟨[] ++ ([] ++ [.logged ⟨.trace, "Published", [("subject", e.subject)]⟩]), .ok (), rfl,
      ?_⟩
    refine Act.bind_eq rfl (Act.bind_eq rfl ?_)
    rw [if_neg (by simp [hfails])]
    rfl

/-- Replies are published in order, whether or not that fails, and only logged about. -/
theorem replyEach_apply (texts : List String) (published : List Envelope) :
    ∃ logged, deliveryEvents logged = [] ∧
      c.replyEach texts published = ⟨published ++ c.publications texts, logged, .ok ()⟩ := by
  induction texts generalizing published with
  | nil => exact ⟨[], rfl, by rw [publications_nil, List.append_nil]; rfl⟩
  | cons text rest ih =>
    unfold replyEach
    cases hsubject : c.replySubject with
    | none =>
      obtain ⟨logged, hlogged, hrest⟩ := ih published
      rw [publications_of_none hsubject] at hrest ⊢
      refine ⟨[.logged ⟨.debug, "Dropping pub/sub reply", [("reply", text)]⟩] ++ logged, ?_,
        Act.bind_eq (Act.log_apply ..) hrest⟩
      rw [deliveryEvents_append, hlogged]
      rfl
    | some subject =>
      rw [publications_of_some hsubject, List.map_cons, List.append_cons,
        ← publications_of_some hsubject]
      obtain ⟨logged, hlogged, hrest⟩ := ih (published ++ [⟨subject, text⟩])
      obtain ⟨es, r, hes, hpublish⟩ := c.publish_apply ⟨subject, text⟩ published
      cases r with
      | ok _ =>
        refine ⟨es ++ logged, ?_, Act.bind_eq hpublish hrest⟩
        rw [deliveryEvents_append, hes, hlogged, List.append_nil]
      | error _ =>
        refine ⟨_, ?_, Act.bind_eq hpublish (Act.bind_eq rfl hrest)⟩
        rw [deliveryEvents_append, hes]
        exact hlogged

/-- A panic of a handler keeps an envelope from being answered. -/
theorem deliver_of_error {e : Envelope} {reason : String}
    (h : (c.dispatcher.dispatchEach (message e) c.targets).result = .error reason)
    (published : List Envelope) :
    c.deliver e published =
      ⟨published, (c.dispatcher.dispatchEach (message e) c.targets).events, .error reason⟩ := by
  unfold deliver
  rw [Act.bind_apply_of_error h]
  rfl

/-- The replies of a delivery are published after it. -/
theorem deliver_of_ok {e : Envelope} {os : List (Outcome γ)}
    (h : (c.dispatcher.dispatchEach (message e) c.targets).result = .ok os)
    (published : List Envelope) :
    ∃ logged, deliveryEvents logged = [] ∧
      c.deliver e published =
        ⟨published ++ c.publications (replyTexts os),
          (c.dispatcher.dispatchEach (message e) c.targets).events ++ logged, .ok os⟩ := by
  obtain ⟨logged, hlogged, hreplies⟩ := c.replyEach_apply (replyTexts os) published
  refine ⟨logged ++ [], by rw [List.append_nil, hlogged], ?_⟩
  unfold deliver
  rw [Act.bind_apply_of_ok h]
  simp only [Act.liftM_apply]
  rw [Act.bind_eq hreplies rfl]

-- ════════════════════════════════════════════════════════════════════════
-- One item after the other
-- ════════════════════════════════════════════════════════════════════════

variable {c} {x : Traced (Option StreamItem)} {e : Envelope} (count : Nat)
  (stream : List (Traced (Option StreamItem))) (published : List Envelope)

/-- A run without an item is skipped. -/
theorem pumpFrom_of_none (hx : x.result = .ok none) :
    c.pumpFrom count (x :: stream) published =
      ⟨(c.pumpFrom count stream published).state,
        x.events ++ (c.pumpFrom count stream published).events,
        (c.pumpFrom count stream published).result⟩ := by
  rw [pumpFrom, Act.bind_apply_of_ok hx]
  rfl

/-- An envelope in whose delivery a handler panics is the last. -/
theorem pumpFrom_of_error {reason : String} (hx : x.result = .ok (some (.ok e)))
    (h : (c.dispatcher.dispatchEach (message e) c.targets).result = .error reason) :
    c.pumpFrom count (x :: stream) published =
      ⟨published, x.events ++ (c.dispatcher.dispatchEach (message e) c.targets).events,
        .error reason⟩ := by
  have hdeliver := c.deliver_of_error h published
  have hstop : (c.deliver e published).result = .error reason := by rw [hdeliver]
  rw [pumpFrom, Act.bind_apply_of_ok hx]
  simp only [Act.liftM_apply]
  rw [Act.bind_apply_of_error hstop, hdeliver]

/-- An envelope is answered and counted before the stream goes on. -/
theorem pumpFrom_of_ok {os : List (Outcome γ)} (hx : x.result = .ok (some (.ok e)))
    (h : (c.dispatcher.dispatchEach (message e) c.targets).result = .ok os) :
    ∃ logged, deliveryEvents logged = [] ∧
      c.pumpFrom count (x :: stream) published =
        ⟨(c.pumpFrom (count + 1) stream (published ++ c.publications (replyTexts os))).state,
          x.events ++ ((c.dispatcher.dispatchEach (message e) c.targets).events ++ logged ++
            (c.pumpFrom (count + 1) stream
              (published ++ c.publications (replyTexts os))).events),
          (c.pumpFrom (count + 1) stream
            (published ++ c.publications (replyTexts os))).result⟩ := by
  obtain ⟨logged, hlogged, hdeliver⟩ := c.deliver_of_ok h published
  refine ⟨logged, hlogged, ?_⟩
  rw [pumpFrom, Act.bind_apply_of_ok hx]
  simp only [Act.liftM_apply]
  rw [Act.bind_eq hdeliver rfl]

-- ════════════════════════════════════════════════════════════════════════
-- Streams of envelopes
-- ════════════════════════════════════════════════════════════════════════

/-- The same is published and counted by two runs, and the hook and the handlers write down the
same. -/
structure Alike (x y : Step (List Envelope) Nat) : Prop where
  state : x.state = y.state
  events : deliveryEvents x.events = deliveryEvents y.events
  result : x.result = y.result

theorem Alike.symm {x y : Step (List Envelope) Nat} (h : Alike x y) : Alike y x :=
  ⟨h.state.symm, h.events.symm, h.result.symm⟩

theorem Alike.trans {x y z : Step (List Envelope) Nat} (h : Alike x y) (h' : Alike y z) :
    Alike x z :=
  ⟨h.state.trans h'.state, h.events.trans h'.events, h.result.trans h'.result⟩

/-- The stream that has envelopes and nothing else. -/
def streamOf (es : List Envelope) : List (Traced (Option StreamItem)) :=
  es.map fun e => pure (some (.ok e))

theorem streamOf_cons (e : Envelope) (es : List Envelope) :
    streamOf (e :: es) = pure (some (.ok e)) :: streamOf es :=
  rfl

/-- A subscription is answered as its envelopes are. -/
theorem alike_pumpFrom (subject : String) (frames : List Frame) :
    Alike (c.pumpFrom count (subscription subject frames) published)
      (c.pumpFrom count (streamOf (envelopesOf subject frames)) published) := by
  induction frames generalizing count published with
  | nil => exact ⟨rfl, rfl, rfl⟩
  | cons f rest ih =>
    cases hf : f.isFailure with
    | true =>
      obtain ⟨reason, rfl⟩ := Frame.exists_failure hf
      exact ⟨rfl, rfl, rfl⟩
    | false =>
      obtain ⟨hevents, hitem⟩ := Frame.item_eq subject hf
      rw [subscription_cons hf, envelopesOf_cons hf]
      cases he : f.envelope? subject with
      | none =>
        rw [he] at hitem
        rw [pumpFrom_of_none _ _ _ hitem]
        refine ⟨(ih count published).state, ?_, (ih count published).result⟩
        rw [deliveryEvents_append, hevents]
        exact (ih count published).events
      | some e =>
        rw [he] at hitem
        have hpure : (pure (some (.ok e)) : Traced (Option StreamItem)).result =
            .ok (some (.ok e)) := rfl
        change Alike _ (c.pumpFrom count (streamOf (e :: envelopesOf subject rest)) published)
        rw [streamOf_cons]
        cases hresult : (c.dispatcher.dispatchEach (message e) c.targets).result with
        | error reason =>
          rw [pumpFrom_of_error _ _ _ hitem hresult, pumpFrom_of_error _ _ _ hpure hresult]
          refine ⟨rfl, ?_, rfl⟩
          rw [deliveryEvents_append, deliveryEvents_append, hevents]
          rfl
        | ok os =>
          obtain ⟨logged, hlogged, hrun⟩ :=
            pumpFrom_of_ok count (subscription subject rest) published hitem hresult
          obtain ⟨logged', hlogged', hrun'⟩ :=
            pumpFrom_of_ok count (streamOf (envelopesOf subject rest)) published hpure hresult
          obtain ⟨hstate, hlater, hcount⟩ :=
            ih (count + 1) (published ++ c.publications (replyTexts os))
          rw [hrun, hrun']
          refine ⟨hstate, ?_, hcount⟩
          simp only [deliveryEvents_append, hevents, hlogged, hlogged', hlater]
          rfl

/-- The end of a stream is only logged about. -/
theorem alike_pump : Alike (c.pump stream published) (c.pumpFrom 0 stream published) := by
  unfold pump
  cases hresult : (c.pumpFrom 0 stream published).result with
  | error reason =>
    rw [Act.bind_apply_of_error hresult]
    exact ⟨rfl, rfl, hresult.symm⟩
  | ok n =>
    rw [Act.bind_apply_of_ok hresult]
    refine ⟨rfl, ?_, hresult.symm⟩
    rw [deliveryEvents_append]
    exact List.append_nil _

-- ════════════════════════════════════════════════════════════════════════
-- Answers
-- ════════════════════════════════════════════════════════════════════════

variable (c)

/-- The envelope is delivered to all targets with these events of the hook and the handlers, and
these envelopes are published in return. -/
def Answered (e : Envelope) (es : List Event) (answers : List Envelope) : Prop :=
  ∃ fs os, Dispatched c.dispatcher (message e) c.targets fs (.ok os) ∧
    es = deliveryEvents fs ∧ answers = c.publications (replyTexts os)

/-- The envelopes are answered one after the other, and counted; a panic keeps the later ones from
their turn, and leaves its message only. -/
inductive Answers :
    List Envelope → List Event → List Envelope → Except String Nat → Prop
  /-- All envelopes are answered. -/
  | returned {es : List Envelope} {xs : List (List Event × List Envelope)}
      (hxs : List.Forall₂ (fun e x => c.Answered e x.1 x.2) es xs) :
      Answers es (xs.flatMap Prod.fst) (xs.flatMap Prod.snd) (.ok es.length)
  /-- A handler has panicked. -/
  | stopped {earlier later : List Envelope} {e : Envelope} {fs : List Event} {reason : String}
      {xs : List (List Event × List Envelope)}
      (hxs : List.Forall₂ (fun e x => c.Answered e x.1 x.2) earlier xs)
      (hpanic : Dispatched c.dispatcher (message e) c.targets fs (.error reason)) :
      Answers (earlier ++ e :: later) (xs.flatMap Prod.fst ++ deliveryEvents fs)
        (xs.flatMap Prod.snd) (.error reason)

variable {c}

theorem Answers.cons {e : Envelope} {es fs : List Event} {es' answers others : List Envelope}
    {r : Except String Nat} (he : c.Answered e es answers) (h : c.Answers es' fs others r) :
    c.Answers (e :: es') (es ++ fs) (answers ++ others) (r.map (· + 1)) := by
  cases h with
  | returned hxs => exact .returned (.cons (b := (es, answers)) he hxs)
  | stopped hxs hpanic =>
    rw [← List.append_assoc]
    exact .stopped (.cons (b := (es, answers)) he hxs) hpanic

/-- Envelopes are answered on top of what was published before. -/
theorem answers_streamOf (es : List Envelope) :
    ∃ answers r,
      (c.pumpFrom count (streamOf es) published).state = published ++ answers ∧
      (c.pumpFrom count (streamOf es) published).result = r.map (count + ·) ∧
      c.Answers es (deliveryEvents (c.pumpFrom count (streamOf es) published).events) answers
        r := by
  induction es generalizing count published with
  | nil => exact ⟨[], .ok 0, (List.append_nil _).symm, rfl, .returned .nil⟩
  | cons e rest ih =>
    have hdispatched := c.dispatcher.dispatched_dispatchEach (message e) c.targets
    rw [streamOf_cons]
    cases hresult : (c.dispatcher.dispatchEach (message e) c.targets).result with
    | error reason =>
      rw [hresult] at hdispatched
      rw [pumpFrom_of_error count (streamOf rest) published rfl hresult]
      exact ⟨[], .error reason, (List.append_nil _).symm, rfl, .stopped .nil hdispatched⟩
    | ok os =>
      rw [hresult] at hdispatched
      obtain ⟨logged, hlogged, hrun⟩ :=
        pumpFrom_of_ok count (streamOf rest) published (x := pure (some (.ok e))) rfl hresult
      obtain ⟨answers, r, hstate, hcount, hanswers⟩ :=
        ih (count + 1) (published ++ c.publications (replyTexts os))
      rw [hrun]
      refine ⟨c.publications (replyTexts os) ++ answers, r.map (· + 1), ?_, ?_, ?_⟩
      · rw [hstate, List.append_assoc]
      · rw [hcount]
        cases r with
        | error reason => rfl
        | ok n => exact congrArg Except.ok (Nat.add_right_comm count 1 n)
      · have hfirst : deliveryEvents (pure (some (.ok e)) : Traced (Option StreamItem)).events =
            [] := rfl
        simp only [deliveryEvents_append, hfirst, hlogged, List.nil_append, List.append_nil]
        exact Answers.cons ⟨_, os, hdispatched, rfl, rfl⟩ hanswers

/-- The envelopes of a subscription are answered. -/
theorem answers_pump (subject : String) (frames : List Frame) :
    ∃ answers,
      (c.pump (subscription subject frames) published).state = published ++ answers ∧
      c.Answers (envelopesOf subject frames)
        (deliveryEvents (c.pump (subscription subject frames) published).events) answers
        (c.pump (subscription subject frames) published).result := by
  obtain ⟨hstate, hevents, hresult⟩ :=
    (alike_pump (c := c) (subscription subject frames) published).trans
      (alike_pumpFrom 0 published subject frames)
  obtain ⟨answers, r, hanswered, hcount, hanswers⟩ :=
    answers_streamOf (c := c) 0 published (envelopesOf subject frames)
  refine ⟨answers, hstate.trans hanswered, ?_⟩
  rw [hevents, hresult, hcount]
  cases r with
  | error reason => exact hanswers
  | ok n => simpa [Except.map] using hanswers

/-- Without a panic all envelopes are counted. -/
theorem Answers.eq_length {es : List Envelope} {fs : List Event} {answers : List Envelope}
    {r : Except String Nat} (h : c.Answers es fs answers r)
    (hreturns : ∀ e ∈ es, ∀ g ∈ c.targets,
      ∃ o, (c.dispatcher.dispatch (message e) g).result = .ok o) :
    r = .ok es.length := by
  cases h with
  | returned hxs => rfl
  | stopped hxs hpanic =>
    obtain ⟨g, hg, hresult⟩ := hpanic.exists_error
    obtain ⟨o, ho⟩ := hreturns _ (List.mem_append_right _ List.mem_cons_self) g hg
    rw [hresult] at ho
    cases ho

/-- A subscription has the envelopes for its subject among the frames before the first failure to
read, in order, then the loss of the connection if there is one, and nothing after that. Each of
these envelopes is delivered to every target, once and in order, and the replies are published on
the reply subject in the order of the deliveries, whether or not a publication fails; only a panic
of a handler ends this early. Their number is the result. -/
theorem pump_answers_subscription (c : PubSub γ) (subject : String) (frames : List Frame)
    (published : List Envelope) :
    streamItems (subscription subject frames) =
        (envelopesOf subject frames).map .ok ++ (lossOf frames).toList.map .error ∧
      (∃ answers,
        (c.pump (subscription subject frames) published).state = published ++ answers ∧
        c.Answers (envelopesOf subject frames)
          (deliveryEvents (c.pump (subscription subject frames) published).events) answers
          (c.pump (subscription subject frames) published).result) ∧
      ((∀ e ∈ envelopesOf subject frames, ∀ g ∈ c.targets,
          ∃ o, (c.dispatcher.dispatch (message e) g).result = .ok o) →
        (c.pump (subscription subject frames) published).result =
          .ok (envelopesOf subject frames).length) := by
  obtain ⟨answers, hstate, hanswers⟩ := answers_pump published subject frames
  exact ⟨streamItems_subscription subject frames, ⟨answers, hstate, hanswers⟩,
    hanswers.eq_length⟩

end PubSub

end Parley
