import Parley.Channel.Chat
import Parley.Proofs.Dispatch.Return
import Parley.Proofs.Microblog.Delivery
import Parley.Proofs.PubSub.Subscription

/-!
# Replies go out whatever fails

On the channels that answer with texts, every reply with a text is sent once, in the order of the
invocations. A send that fails is logged: the sends after it, the outcomes and the pending
conversations are the same as without the failure.

## Main definitions

- `Invocation.written?`, `writtenReplies` — the replies with a text, told from the invocations
- `Reply.mentions` — whether a reply may mention the user
- `Microblog.phrase` — a text as it is posted
- `Steady` — a delivery that goes the same way whichever sends fail

## Main results

- `map_writtenReplies` — the texts of these replies are the texts of all replies
- `Router.result_route_of_ok` — outcomes for the consulted groups are the result of routing
- `Chat.deliver_of_ok` — the replies to a chat message
- `Steady.of_result` — deliveries that end well or in a panic, whichever sends fail
- `replies_go_out_whatever_fails` — what this means for the three channels
-/

namespace Parley

variable {γ : Type}

-- ════════════════════════════════════════════════════════════════════════
-- Replies with a text
-- ════════════════════════════════════════════════════════════════════════

/-- The reply of an invocation with its text, if there are both. -/
def Invocation.written? (i : Invocation γ) : Option (Reply γ × String) :=
  match i.result with
  | .ok reply => reply.message.map fun text => (reply, text)
  | .error _ => none

/-- The replies with a text, in the order of the outcomes and of their invocations. -/
def writtenReplies (os : List (Outcome γ)) : List (Reply γ × String) :=
  (os.flatMap Outcome.invocations).filterMap Invocation.written?

/-- Whether a reply may mention the user: a text may, and a response unless it declines. -/
def Reply.mentions : Reply γ → Bool
  | nothing => false
  | text _ => true
  | response r => r.mention

/-- A text as it is posted for a reply on an account that may mention users or not. -/
def Microblog.phrase (mentions : Bool) (user : String) (written : Reply γ × String) : String :=
  if mentions && written.1.mentions then "@" ++ user ++ " " ++ written.2 else written.2

theorem flatMap_replies (os : List (Outcome γ)) :
    os.flatMap Outcome.replies =
      (os.flatMap Outcome.invocations).filterMap fun i => i.result.toOption := by
  rw [List.filterMap_flatMap]
  rfl

/-- What is made of the text of each reply is made of the replies with a text. -/
theorem filterMap_replies {α : Type} {f : Reply γ → Option α} {form : Reply γ × String → α}
    (hf : ∀ reply, f reply = reply.message.map fun text => form (reply, text))
    (os : List (Outcome γ)) :
    (os.flatMap Outcome.replies).filterMap f = (writtenReplies os).map form := by
  rw [flatMap_replies, writtenReplies, List.filterMap_filterMap, List.map_filterMap]
  refine List.filterMap_congr fun i _ => ?_
  unfold Invocation.written?
  cases i.result with
  | error e => rfl
  | ok reply =>
    simp only [Except.toOption, Option.bind_some, hf, Option.map_map]
    rfl

theorem map_writtenReplies (os : List (Outcome γ)) :
    (writtenReplies os).map Prod.snd = replyTexts os :=
  (filterMap_replies (fun _ => (Option.map_id' ..).symm) os).symm

-- ════════════════════════════════════════════════════════════════════════
-- The channels
-- ════════════════════════════════════════════════════════════════════════

namespace Router

variable (r : Router γ) (m : Message)

/-- An outcome of a group is the result of a delivery to it. -/
theorem result_deliver_of_ok {g : γ} {o : Outcome γ}
    (ho : (r.dispatcher.dispatch m (r.group g)).result = .ok o) (key : Option String)
    (s : Store γ) : (r.deliver m key g s).result = .ok o := by
  cases key with
  | none => rw [r.deliver_none, ho]
  | some key => rw [r.deliver_some_of_ok m ho]

/-- Outcomes for each of several groups are the result of a delivery to all of them. -/
theorem result_deliverEach_of_ok {gs : List γ} {os : List (Outcome γ)}
    (hos : List.Forall₂ (fun g o => (r.dispatcher.dispatch m (r.group g)).result = .ok o) gs os)
    (key : Option String) (s : Store γ) : (r.deliverEach m key gs s).result = .ok os := by
  induction hos generalizing s with
  | nil => rfl
  | cons ho hos ih =>
    unfold deliverEach
    rw [Act.bind_apply_of_ok (r.result_deliver_of_ok m ho key s), Act.bind_apply_of_ok (ih _)]
    rfl

/-- Outcomes for the consulted groups are the result of routing the message. -/
theorem result_route_of_ok {s : Store γ} {os : List (Outcome γ)}
    (hos : List.Forall₂ (fun g o => (r.dispatcher.dispatch m g).result = .ok o)
      ((r.consulted s m).map r.group) os) : (r.route m s).result = .ok os := by
  obtain ⟨logged, -, hroute⟩ := r.route_eq m s
  rw [hroute]
  exact r.result_deliverEach_of_ok m (List.forall₂_map_left_iff.1 hos) _ _

end Router

namespace Microblog

variable (c : Microblog γ)

theorem render_eq (user : String) (reply : Reply γ) :
    c.render user reply = reply.message.map fun text => phrase c.mentions user (reply, text) := by
  cases reply with
  | nothing => rfl
  | text text => simp [render, phrase, Reply.message, Reply.mentions]
  | response r => rfl

theorem answers_eq (post : Post) (os : List (Outcome γ)) :
    c.answers post os = (writtenReplies os).map fun written =>
      ⟨phrase c.mentions post.user written, some post.id⟩ := by
  rw [answers, filterMap_replies (c.render_eq post.user), List.map_map]
  rfl

/-- A panic of a handler keeps a post from being answered. -/
theorem deliver_of_error {post : Post} {s : State γ} {reason : String}
    (h : (c.router.route (message post) s.store).result = .error reason) :
    ∃ es, c.deliver post s =
      ⟨{ s with store := (c.router.route (message post) s.store).state }, es, .error reason⟩ := by
  have hzoom : (Act.zoom State.store (fun store s => { s with store })
      (c.router.route (message post)) s).result = .error reason := h
  exact ⟨_, Act.bind_eq (Act.log_apply ..) (Act.bind_apply_of_error hzoom)⟩

end Microblog

namespace Chat

variable (c : Chat γ)

/-- Texts are sent in order, whether or not that fails. -/
theorem sendEach_apply (recipient : String) (texts : List String) (sent : List ChatReply) :
    ∃ es, c.sendEach recipient texts sent =
      ⟨sent ++ texts.map fun text => ⟨recipient, text⟩, es, .ok ()⟩ := by
  induction texts generalizing sent with
  | nil => exact ⟨[], by rw [List.map_nil, List.append_nil]; rfl⟩
  | cons text rest ih =>
    obtain ⟨es, hrest⟩ := ih (sent ++ [⟨recipient, text⟩])
    rw [List.append_assoc] at hrest
    unfold sendEach
    cases hfails : c.fails sent.length with
    | true =>
      let failed : Event := .logged ⟨.warn, "Chat reply failed", [("to", recipient)]⟩
      refine ⟨[] ++ ([] ++ ([failed] ++ es)), Act.bind_eq rfl (Act.bind_eq rfl ?_)⟩
      rw [if_pos hfails]
      exact Act.bind_eq (Act.log_apply ..) hrest
    | false =>
      refine ⟨[] ++ ([] ++ es), Act.bind_eq rfl (Act.bind_eq rfl ?_)⟩
      rw [if_neg (by simp [hfails])]
      exact hrest

variable {body : String} (hbody : body ≠ "") {sender : String} {sent : List ChatReply}

include hbody

/-- A chat message with a text is delivered to the targets before anything is sent. -/
theorem deliver_eq :
    c.deliver ⟨sender, some body⟩ =
      (liftM (c.dispatcher.dispatchEach (message sender body) c.targets) >>= fun outcomes =>
        c.sendEach sender (replyTexts outcomes) >>= fun _ => pure outcomes) := by
  have hnonempty : ¬ body.isEmpty := by simpa using hbody
  unfold deliver
  rw [Option.getD_some, if_neg hnonempty]

/-- The replies of a delivery are sent after it. -/
theorem deliver_of_ok {os : List (Outcome γ)}
    (h : (c.dispatcher.dispatchEach (message sender body) c.targets).result = .ok os) :
    ∃ es, c.deliver ⟨sender, some body⟩ sent =
      ⟨sent ++ (replyTexts os).map fun text => ⟨sender, text⟩, es, .ok os⟩ := by
  obtain ⟨es, hsend⟩ := c.sendEach_apply sender (replyTexts os) sent
  rw [c.deliver_eq hbody, Act.bind_apply_of_ok h]
  simp only [Act.liftM_apply]
  rw [Act.bind_eq hsend rfl]
  exact ⟨_, rfl⟩

/-- A panic of a handler keeps a chat message from being answered. -/
theorem deliver_of_error {reason : String}
    (h : (c.dispatcher.dispatchEach (message sender body) c.targets).result = .error reason) :
    ∃ es, c.deliver ⟨sender, some body⟩ sent = ⟨sent, es, .error reason⟩ := by
  rw [c.deliver_eq hbody, Act.bind_apply_of_error h]
  exact ⟨_, rfl⟩

end Chat

-- ════════════════════════════════════════════════════════════════════════
-- Failures of sends
-- ════════════════════════════════════════════════════════════════════════

/-- A delivery of a message to groups, given for every choice of the sends that fail: the choice
makes no difference, and unless a handler panics, the delivery has the outcomes of the groups and
leaves the state that is told from them. -/
structure Steady {σ : Type} (d : Dispatcher γ) (m : Message) (gs : List (Group γ))
    (run : (Nat → Bool) → Step σ (List (Outcome γ))) (left : List (Outcome γ) → σ) : Prop where
  /-- Any two choices lead to the same state and the same result. -/
  alike : ∀ fails fails', (run fails).state = (run fails').state ∧
    (run fails).result = (run fails').result
  /-- If the handlers return, so does the delivery, with one outcome for each group. -/
  complete : (∀ g ∈ gs, ∀ h ∈ g.chosen m, d.Returns m h) →
    ∃ os, List.Forall₂ (fun g o => (d.dispatch m g).result = .ok o) gs os ∧
      ∀ fails, (run fails).result = .ok os ∧ (run fails).state = left os

/-- A delivery is steady if the outcomes of the groups lead to one state, and a panic of a handler
to another. -/
theorem Steady.of_result {σ : Type} {d : Dispatcher γ} {m : Message} {gs : List (Group γ)}
    {run : (Nat → Bool) → Step σ (List (Outcome γ))} {left : List (Outcome γ) → σ}
    (result : Except String (List (Outcome γ))) (stopped : σ)
    (hresult : ∀ os, List.Forall₂ (fun g o => (d.dispatch m g).result = .ok o) gs os →
      result = .ok os)
    (hok : ∀ os, result = .ok os → ∀ fails, ∃ es, run fails = ⟨left os, es, .ok os⟩)
    (herror : ∀ reason, result = .error reason →
      ∀ fails, ∃ es, run fails = ⟨stopped, es, .error reason⟩) : Steady d m gs run left where
  alike fails fails' := by
    cases hr : result with
    | ok os =>
      obtain ⟨es, hrun⟩ := hok os hr fails
      obtain ⟨es', hrun'⟩ := hok os hr fails'
      rw [hrun, hrun']
      exact ⟨rfl, rfl⟩
    | error reason =>
      obtain ⟨es, hrun⟩ := herror reason hr fails
      obtain ⟨es', hrun'⟩ := herror reason hr fails'
      rw [hrun, hrun']
      exact ⟨rfl, rfl⟩
  complete hreturns := by
    obtain ⟨os, hos⟩ := d.exists_outcomes m hreturns
    refine ⟨os, hos, fun fails => ?_⟩
    obtain ⟨es, hrun⟩ := hok os (hresult os hos) fails
    rw [hrun]
    exact ⟨rfl, rfl⟩

/-- Replies go out completely and in order, and a send that fails changes nothing. On the
micro-blog, the chat and the publish-subscribe channel, the replies with a text are sent, each once
and in the order of the invocations: as they are, or on the micro-blog with a mention of the user
where the account and the reply allow it. The outcomes, the sends and the pending conversations
are the same whichever sends fail. -/
theorem replies_go_out_whatever_fails :
    (∀ os : List (Outcome γ), (writtenReplies os).map Prod.snd = replyTexts os) ∧
    (∀ (c : Microblog γ) (post : Post) (s : Microblog.State γ),
      Steady c.dispatcher (Microblog.message post)
        ((c.router.consulted s.store (Microblog.message post)).map c.group)
        (fun fails => { c with fails := fails }.deliver post s) fun os =>
          { store := (c.router.route (Microblog.message post) s.store).state
            postings := s.postings ++ (writtenReplies os).map fun written =>
              ⟨Microblog.phrase c.mentions post.user written, some post.id⟩ }) ∧
    (∀ (c : Chat γ) (sender body : String) (sent : List ChatReply), body ≠ "" →
      Steady c.dispatcher (Chat.message sender body) c.targets
        (fun fails => { c with fails := fails }.deliver ⟨sender, some body⟩ sent) fun os =>
          sent ++ (replyTexts os).map fun text => ⟨sender, text⟩) ∧
    ∀ (c : PubSub γ) (subject : String) (e : Envelope) (published : List Envelope),
      c.replySubject = some subject →
      Steady c.dispatcher (PubSub.message e) c.targets
        (fun fails => { c with fails := fails }.deliver e published) fun os =>
          published ++ (replyTexts os).map fun text => ⟨subject, text⟩ := by
  refine ⟨map_writtenReplies, fun c post s => ?_, fun c sender body sent hbody => ?_,
    fun c subject e published hsubject => ?_⟩
  · refine .of_result (c.router.route (Microblog.message post) s.store).result
      { s with store := (c.router.route (Microblog.message post) s.store).state }
      (fun _ => c.router.result_route_of_ok _) (fun os hos fails => ?_)
      fun _ hreason fails => { c with fails := fails }.deliver_of_error hreason
    rw [← c.answers_eq]
    exact { c with fails := fails }.deliver_of_ok hos
  · exact .of_result (c.dispatcher.dispatchEach (Chat.message sender body) c.targets).result sent
      (fun _ => c.dispatcher.dispatchEach_of_outcomes _)
      (fun _ hos fails => { c with fails := fails }.deliver_of_ok hbody hos)
      fun _ hreason fails => { c with fails := fails }.deliver_of_error hbody hreason
  · refine .of_result (c.dispatcher.dispatchEach (PubSub.message e) c.targets).result published
      (fun _ => c.dispatcher.dispatchEach_of_outcomes _) (fun os hos fails => ?_)
      fun _ hreason fails => ⟨_, { c with fails := fails }.deliver_of_error hreason published⟩
    obtain ⟨logged, -, hdeliver⟩ := { c with fails := fails }.deliver_of_ok hos published
    rw [← PubSub.publications_of_some hsubject]
    exact ⟨_, hdeliver⟩

/-- Four groups for every message: a greeting, a failure, silence, and a response that declines
mentions and stays in the conversation. -/
def reception : Nat → Group Nat
  | 0 => ⟨"bell", false, [⟨"ring", ∅, [], false, fun _ => .text "Hello"⟩]⟩
  | 1 => ⟨"clerk", false, [⟨"ask", ∅, [], false, fun _ => ⟨[], .failure "out for lunch"⟩⟩]⟩
  | 2 => ⟨"sofa", false, [⟨"sit", ∅, [], false, fun _ => ⟨[], .reply .nothing⟩⟩]⟩
  | _ => ⟨"desk", true, [⟨"wait", ∅, [], true, fun _ => .response
      { mention := false, message := some "Please wait", dialog := some .current }⟩]⟩

theorem reception_returns (d : Dispatcher Nat) (m : Message) :
    ∀ g ∈ [0, 1, 2, 3].map reception, ∀ h ∈ g.chosen m, d.Returns m h := by
  have hnone : ∀ g ∈ [0, 1, 2, 3].map reception, ∀ h ∈ g.handlers, ∀ args message,
      (h.action args).ending ≠ .panic message := by
    simp [reception, Reaction.text, Reaction.response]
  intro g hg h hh _ args _ message
  exact hnone g hg h (g.mem_handlers_of_mem_chosen hh) args message

/-- At the reception a greeting and a response go out on each channel, whatever fails. -/
theorem reception_replies_whatever_fails :
    let account : Microblog Nat := { group := reception, targets := [0, 1, 2, 3] }
    let room : Chat Nat := { targets := [0, 1, 2, 3].map reception }
    let feed : PubSub Nat :=
      { targets := [0, 1, 2, 3].map reception, replySubject := some "out" }
    (∃ os, ∀ fails,
      let step := { account with fails := fails }.deliver ⟨"7", "ann", "Hi"⟩ {}
      step.result = .ok os ∧ step.state.store.get? "ann" = some 3 ∧
        step.state.postings = [⟨"@ann Hello", some "7"⟩, ⟨"Please wait", some "7"⟩]) ∧
    ("Hi" ≠ "" ∧ ∃ os, ∀ fails,
      let step := { room with fails := fails }.deliver ⟨"ann", some "Hi"⟩ []
      step.result = .ok os ∧ step.state = [⟨"ann", "Hello"⟩, ⟨"ann", "Please wait"⟩]) ∧
    (feed.replySubject = some "out" ∧ ∃ os, ∀ fails,
      let step := { feed with fails := fails }.deliver ⟨"in", "Hi"⟩ []
      step.result = .ok os ∧ step.state = [⟨"out", "Hello"⟩, ⟨"out", "Please wait"⟩]) := by
  intro account room feed
  obtain ⟨-, hposts, hchats, hfeeds⟩ := replies_go_out_whatever_fails (γ := Nat)
  refine ⟨?_, ⟨by decide, ?_⟩, rfl, ?_⟩
  · have hsteady := hposts account ⟨"7", "ann", "Hi"⟩ {}
    obtain ⟨os, -, hruns⟩ := hsteady.complete (reception_returns _ _)
    refine ⟨os, fun fails => ⟨(hruns fails).1, ?_⟩⟩
    rw [(hsteady.alike fails account.fails).1]
    decide +kernel
  · have hsteady := hchats room "ann" "Hi" [] (by decide)
    obtain ⟨os, -, hruns⟩ := hsteady.complete (reception_returns _ _)
    refine ⟨os, fun fails => ⟨(hruns fails).1, ?_⟩⟩
    rw [(hsteady.alike fails room.fails).1]
    decide +kernel
  · have hsteady := hfeeds feed "out" ⟨"in", "Hi"⟩ [] rfl
    obtain ⟨os, -, hruns⟩ := hsteady.complete (reception_returns _ _)
    refine ⟨os, fun fails => ⟨(hruns fails).1, ?_⟩⟩
    rw [(hsteady.alike fails feed.fails).1]
    decide +kernel

end Parley
