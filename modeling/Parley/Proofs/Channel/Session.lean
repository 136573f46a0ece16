import Parley.Channel.Console
import Parley.Proofs.Microblog.Delivery
import Parley.Proofs.Text.Line

/-!
# Console sessions

A session at the console is a series of posts by the local user: one for each line on which
something is said, up to the line that quits, to a line that is no text, or to the end of the
input. What the posts say is read off the input alone; what comes of them is what comes of the
same posts on the micro-blog channel.

## Main definitions

- `Console.Session` — the posts of a session, and the line that broke it off
- `Console.Closes` — how a session ends
- `Microblog.State.Alike` — states that differ in the posts replied to only
- `Console.Performs` — a session that is the series of its posts

## Main results

- `Console.exists_session`, `Console.Session.unique` — the lines decide the session
- `Microblog.agree_deliver` — the number of a post matters to nothing but what replies to it
- `Console.answerEach_of_session` — lines are answered one after the other
- `Console.run_performs_posts` — what a session does
-/

namespace Parley

open Parley.Text

variable {γ : Type}

-- ════════════════════════════════════════════════════════════════════════
-- What is said in a session
-- ════════════════════════════════════════════════════════════════════════

namespace Console

/-- The line is text, and without the blanks around it it says `text`. -/
def Says (line : List UInt8) (text : List Char) : Prop :=
  ∃ s, line = encode s ∧ Trims s text

/-- What is posted in a session with these lines, and the line that is no text, if one breaks the
session off. -/
inductive Session : List (List UInt8) → List String → Option (List UInt8) → Prop
  /-- The input is over. -/
  | ended : Session [] [] none
  /-- A line quits; the lines after it are not read. -/
  | quit {line : List UInt8} {later : List (List UInt8)} (hline : Says line quitCommand.toList) :
      Session (line :: later) [] none
  /-- A line is no text; the lines after it are not read. -/
  | broken {line : List UInt8} {later : List (List UInt8)} (hline : ∀ s, line ≠ encode s) :
      Session (line :: later) [] (some line)
  /-- A line on which nothing is said is passed over. -/
  | blank {line : List UInt8} {later : List (List UInt8)} {texts : List String}
      {stop : Option (List UInt8)} (hline : Says line []) (hlater : Session later texts stop) :
      Session (line :: later) texts stop
  /-- Any other line is a post. -/
  | post {line : List UInt8} {later : List (List UInt8)} {text : String} {texts : List String}
      {stop : Option (List UInt8)} (hline : Says line text.toList) (hne : text ≠ "")
      (hquit : text ≠ quitCommand) (hlater : Session later texts stop) :
      Session (line :: later) (text :: texts) stop

theorem says_iff {line : List UInt8} {text : List Char} :
    Says line text ↔ ∃ s, decode line = .ok s ∧ trim s = text := by
  simp only [Says, decode_eq_ok_iff, trims_iff]

theorem Says.unique {line : List UInt8} {text text' : List Char} (h : Says line text)
    (h' : Says line text') : text = text' := by
  obtain ⟨s, hs, rfl⟩ := says_iff.1 h
  obtain ⟨s', hs', rfl⟩ := says_iff.1 h'
  rw [hs] at hs'
  rw [Except.ok.inj hs']

theorem Says.not_broken {line : List UInt8} {text : List Char} (h : Says line text)
    (hbroken : ∀ s, line ≠ encode s) : False := by
  obtain ⟨s, hs, -⟩ := h
  exact hbroken s hs

theorem Session.unique {lines : List (List UInt8)} {texts texts' : List String}
    {stop stop' : Option (List UInt8)} (h : Session lines texts stop)
    (h' : Session lines texts' stop') : texts = texts' ∧ stop = stop' := by
  induction h generalizing texts' stop' with
  | ended =>
    cases h'
    exact ⟨rfl, rfl⟩
  | quit hline =>
    cases h' with
    | quit => exact ⟨rfl, rfl⟩
    | broken hbroken => exact (hline.not_broken hbroken).elim
    | blank hblank => exact absurd (hline.unique hblank) (by decide)
    | post hline' hne hquit => exact absurd (String.toList_inj.1 (hline'.unique hline)) hquit
  | broken hbroken =>
    cases h' with
    | quit hline => exact (hline.not_broken hbroken).elim
    | broken => exact ⟨rfl, rfl⟩
    | blank hline => exact (hline.not_broken hbroken).elim
    | post hline => exact (hline.not_broken hbroken).elim
  | blank hblank hlater ih =>
    cases h' with
    | quit hline => exact absurd (hline.unique hblank) (by decide)
    | broken hbroken => exact (hblank.not_broken hbroken).elim
    | blank hblank' hlater' => exact ih hlater'
    | post hline hne => exact absurd (String.toList_eq_nil_iff.1 (hline.unique hblank)) hne
  | post hline hne hquit hlater ih =>
    cases h' with
    | quit hline' => exact absurd (String.toList_inj.1 (hline.unique hline')) hquit
    | broken hbroken => exact (hline.not_broken hbroken).elim
    | blank hblank => exact absurd (String.toList_eq_nil_iff.1 (hline.unique hblank)) hne
    | post hline' hne' hquit' hlater' =>
      obtain rfl := String.toList_inj.1 (hline.unique hline')
      obtain ⟨rfl, rfl⟩ := ih hlater'
      exact ⟨rfl, rfl⟩

theorem exists_session (lines : List (List UInt8)) : ∃ texts stop, Session lines texts stop := by
  induction lines with
  | nil => exact ⟨[], none, .ended⟩
  | cons line later ih =>
    obtain ⟨texts, stop, hlater⟩ := ih
    cases hdecode : decode line with
    | error fault =>
      refine ⟨[], some line, .broken fun s hs => ?_⟩
      rw [decode_eq_ok_iff.2 hs] at hdecode
      cases hdecode
    | ok s =>
      have hline : Says line (trim s) := says_iff.2 ⟨s, hdecode, rfl⟩
      by_cases hne : String.ofList (trim s) = ""
      · have hblank : trim s = [] := by simpa using hne
        exact ⟨texts, stop, .blank (hblank ▸ hline) hlater⟩
      · rw [← String.toList_ofList (l := trim s)] at hline
        by_cases hquit : String.ofList (trim s) = quitCommand
        · exact ⟨[], none, .quit (hquit ▸ hline)⟩
        · exact ⟨_, stop, .post hline hne hquit hlater⟩

end Console

-- ════════════════════════════════════════════════════════════════════════
-- Posts under other numbers
-- ════════════════════════════════════════════════════════════════════════

namespace Microblog

/-- Two states that differ at most in the posts that postings reply to. -/
structure State.Alike (s t : State γ) : Prop where
  /-- The same conversations are pending. -/
  store : s.store = t.store
  /-- The same texts were posted. -/
  texts : s.postings.map Posting.text = t.postings.map Posting.text

/-- Two runs that write down the same events and give the same result, in states that differ at
most in the posts that postings reply to. -/
structure Agree {α : Type} (x y : Step (State γ) α) : Prop where
  alike : x.state.Alike y.state
  events : x.events = y.events
  result : x.result = y.result

variable {s t : State γ}

theorem agree_pure {α : Type} (h : s.Alike t) (a : α) :
    Agree ((pure a : Act (State γ) α) s) ((pure a : Act (State γ) α) t) :=
  ⟨h, rfl, rfl⟩

theorem agree_liftM {α : Type} (h : s.Alike t) (x : Traced α) :
    Agree ((liftM x : Act (State γ) α) s) ((liftM x : Act (State γ) α) t) :=
  ⟨h, rfl, rfl⟩

theorem Agree.bind {α β : Type} {x y : Act (State γ) α} {f g : α → Act (State γ) β}
    (h : Agree (x s) (y t)) (hlater : ∀ a s t, s.Alike t → Agree (f a s) (g a t)) :
    Agree ((x >>= f) s) ((y >>= g) t) := by
  cases hresult : (x s).result with
  | error message =>
    rw [Act.bind_apply_of_error hresult, Act.bind_apply_of_error (h.result.symm.trans hresult)]
    exact ⟨h.alike, h.events, rfl⟩
  | ok a =>
    obtain ⟨halike, hevents, hok⟩ := hlater a _ _ h.alike
    rw [Act.bind_apply_of_ok hresult, Act.bind_apply_of_ok (h.result.symm.trans hresult)]
    exact ⟨halike, congrArg₂ _ h.events hevents, hok⟩

theorem agree_zoom {α : Type} (h : s.Alike t) (x : Act (Store γ) α) :
    Agree (Act.zoom State.store (fun store s => { s with store }) x s)
      (Act.zoom State.store (fun store s => { s with store }) x t) := by
  unfold Act.zoom
  rw [h.store]
  exact ⟨⟨rfl, h.texts⟩, rfl, rfl⟩

variable (c : Microblog γ) {p q : Post}

theorem agree_sendEach (huser : p.user = q.user) (texts : List String) (h : s.Alike t) :
    Agree (c.sendEach p texts s) (c.sendEach q texts t) := by
  induction texts generalizing s t with
  | nil => exact agree_pure h ()
  | cons text rest ih =>
    have hsend (p : Post) (s : State γ) : c.sendEach p (text :: rest) s =
        ((if c.fails s.postings.length then
            liftM (Traced.log .warn "Reply post failed" [("user", p.user)])
          else pure () : Act (State γ) Unit) >>= fun _ => c.sendEach p rest)
          { s with postings := s.postings ++ [⟨text, some p.id⟩] } := by
      rw [sendEach]
      change (if c.fails s.postings.length then _ else _ : Act (State γ) Unit) _ = _
      split
      · rfl
      · rfl
    have hlength : s.postings.length = t.postings.length := by
      simpa using congrArg List.length h.texts
    have hsent : State.Alike { s with postings := s.postings ++ [⟨text, some p.id⟩] }
        { t with postings := t.postings ++ [⟨text, some q.id⟩] } :=
      ⟨h.store, by simp [h.texts]⟩
    rw [hsend, hsend, hlength, huser]
    refine Agree.bind ?_ fun _ _ _ => ih
    split
    · exact agree_liftM hsent _
    · exact agree_pure hsent ()

/-- The number of a post matters to nothing but what replies to it. -/
theorem agree_deliver (huser : p.user = q.user) (htext : p.text = q.text) (h : s.Alike t) :
    Agree (c.deliver p s) (c.deliver q t) := by
  have hmessage : message p = message q := by rw [message, huser, htext, message]
  unfold deliver
  rw [hmessage, huser, htext]
  refine Agree.bind (agree_liftM h _) fun _ s t h => ?_
  refine Agree.bind (agree_zoom h _) fun os s t h => ?_
  exact Agree.bind (c.agree_sendEach huser _ h) fun _ s t h => agree_pure h os

theorem agree_deliveries {ps qs : List Post}
    (hposts : List.Forall₂ (fun p q => p.user = q.user ∧ p.text = q.text) ps qs)
    (h : s.Alike t) :
    (c.stateAfter s ps).Alike (c.stateAfter t qs) ∧
      (c.deliveries s ps).flatMap Step.events = (c.deliveries t qs).flatMap Step.events ∧
      (c.deliveries s ps).map Step.result = (c.deliveries t qs).map Step.result := by
  induction hposts generalizing s t with
  | nil => exact ⟨h, rfl, rfl⟩
  | cons hpost _ ih =>
    have hdeliver := c.agree_deliver hpost.1 hpost.2 h
    obtain ⟨hlast, hevents, hresults⟩ := ih hdeliver.alike
    refine ⟨hlast, ?_, ?_⟩
    · rw [deliveries, deliveries, List.flatMap_cons, List.flatMap_cons, hdeliver.events, hevents]
    · rw [deliveries, deliveries, List.map_cons, List.map_cons, hdeliver.result, hresults]

end Microblog

-- ════════════════════════════════════════════════════════════════════════
-- What is done in a session
-- ════════════════════════════════════════════════════════════════════════

/-- Whether an event is a text shown on the terminal. -/
def Event.isShown : Event → Bool
  | shown _ => true
  | _ => false

/-- What is written down, without what is shown on the terminal. -/
def unshownEvents (es : List Event) : List Event :=
  es.filter fun e => !e.isShown

@[simp]
theorem unshownEvents_append (es fs : List Event) :
    unshownEvents (es ++ fs) = unshownEvents es ++ unshownEvents fs :=
  List.filter_append es fs

namespace Console

/-- A text as a post of the local user. -/
def localPost (text : String) : Post :=
  ⟨"", localUser, text⟩

/-- How a session ends: with the number of posts, or with the fault of the line that broke it
off. -/
inductive Closes (count : Nat) :
    Option (List UInt8) → Except String (Except ChannelError Nat) → Prop
  | ended : Closes count none (.ok (.ok count))
  | broken {line : List UInt8} {fault : Utf8Error} (hline : decode line = .error fault) :
      Closes count (some line) (.ok (.error (.io (.notText line fault))))

variable (c : Microblog γ) {bytes : List UInt8} (s : Microblog.State γ)

theorem answer_of_quit (h : Says bytes quitCommand.toList) :
    answer c bytes s = ⟨s, [], .ok .quit⟩ := by
  obtain ⟨chars, hdecode, htrim⟩ := says_iff.1 h
  have hline : String.ofList (trim chars) = quitCommand := by rw [htrim, String.ofList_toList]
  rw [answer, hdecode]
  simp only [hline, if_true]
  rfl

theorem answer_of_blank (h : Says bytes []) :
    answer c bytes s = ⟨s, [.shown "> "], .ok .ignored⟩ := by
  obtain ⟨chars, hdecode, htrim⟩ := says_iff.1 h
  rw [answer, hdecode]
  simp only [htrim]
  rfl

theorem answer_of_post {text : String} {os : List (Outcome γ)} (h : Says bytes text.toList)
    (hne : text ≠ "") (hquit : text ≠ quitCommand)
    (hok : (c.deliver (localPost text) s).result = .ok os) :
    ∃ es, unshownEvents es = [] ∧
      answer c bytes s = ⟨(c.deliver (localPost text) s).state,
        (c.deliver (localPost text) s).events ++ es, .ok .answered⟩ := by
  obtain ⟨chars, hdecode, htrim⟩ := says_iff.1 h
  have hline : String.ofList (trim chars) = text := by rw [htrim, String.ofList_toList]
  have hsome : ¬ text.isEmpty := by simpa using hne
  rw [answer, hdecode]
  simp only [hline]
  rw [if_neg hquit, if_neg hsome, ← localPost, Act.bind_apply_of_ok hok]
  cases os.all Outcome.isNoMatch with
  | true => exact ⟨[.shown "(no handler matched)\n", .shown "> "], rfl, rfl⟩
  | false => exact ⟨[.shown "> "], rfl, rfl⟩

theorem answerEach_of_session {lines : List (List UInt8)} {texts : List String}
    {stop : Option (List UInt8)} (h : Session lines texts stop) (count : Nat)
    (hreturns : ∀ step ∈ c.deliveries s (texts.map localPost), ∃ os, step.result = .ok os) :
    (answerEach c count lines s).state = c.stateAfter s (texts.map localPost) ∧
      unshownEvents (answerEach c count lines s).events =
        unshownEvents ((c.deliveries s (texts.map localPost)).flatMap Step.events) ∧
      Closes (count + texts.length) stop (answerEach c count lines s).result := by
  induction h generalizing s count with
  | ended => exact ⟨rfl, rfl, .ended⟩
  | quit hline =>
    rw [answerEach, Act.bind_eq (answer_of_quit c s hline) rfl]
    exact ⟨rfl, rfl, .ended⟩
  | @broken line later hline =>
    cases hdecode : decode line with
    | ok chars => exact absurd (decode_eq_ok_iff.1 hdecode) (hline chars)
    | error fault =>
      have hanswer : answer c line s = ⟨s, [], .ok (.failed (.io (.notText line fault)))⟩ := by
        rw [answer, hdecode]
        rfl
      rw [answerEach, Act.bind_eq hanswer rfl]
      exact ⟨rfl, rfl, .broken hdecode⟩
  | blank hline hlater ih =>
    obtain ⟨hstate, hevents, hcloses⟩ := ih s count hreturns
    rw [answerEach, Act.bind_eq (answer_of_blank c s hline) rfl]
    exact ⟨hstate, hevents, hcloses⟩
  | @post line later text texts stop hline hne hquit hlater ih =>
    obtain ⟨⟨os, hos⟩, hreturns⟩ := List.forall_mem_cons.1 hreturns
    obtain ⟨es, hes, hanswer⟩ := answer_of_post c s hline hne hquit hos
    obtain ⟨hstate, hevents, hcloses⟩ := ih _ (count + 1) hreturns
    rw [answerEach, Act.bind_eq hanswer rfl]
    refine ⟨hstate, ?_, ?_⟩
    · have hcons : c.deliveries s ((text :: texts).map localPost) =
          c.deliver (localPost text) s ::
            c.deliveries (c.deliver (localPost text) s).state (texts.map localPost) := rfl
      rw [hcons, List.flatMap_cons, unshownEvents_append, unshownEvents_append, hes,
        List.append_nil, unshownEvents_append, ← hevents]
    · rw [List.length_cons, Nat.add_comm texts.length, ← Nat.add_assoc]
      exact hcloses

/-- A session that is the series of these posts on the micro-blog account: the same conversations
are pending after it, the same texts were posted, the hook, the handlers and the account wrote down
the same, and it gives the number of posts or the fault of the line that broke it off. -/
structure Performs (posts : List Post) (stop : Option (List UInt8))
    (step : Step (Microblog.State γ) (Except ChannelError Nat)) : Prop where
  alike : step.state.Alike (c.stateAfter s posts)
  events : unshownEvents step.events =
    unshownEvents ((c.deliveries s posts).flatMap Step.events)
  closes : Closes posts.length stop step.result
  /-- Without numbers to tell the posts apart, the states are the same. -/
  exact_of_unnumbered : (∀ post ∈ posts, post.id = "") → step.state = c.stateAfter s posts

theorem performs_of_session {lines : List (List UInt8)} {texts : List String}
    {stop : Option (List UInt8)} (hsession : Session lines texts stop) {posts : List Post}
    (htexts : posts.map Post.text = texts) (husers : ∀ post ∈ posts, post.user = localUser)
    (hreturns : ∀ step ∈ c.deliveries s posts, ∃ os, step.result = .ok os) :
    Performs c s posts stop (answerEach c 0 lines s) := by
  subst htexts
  have hposts : List.Forall₂ (fun p q => p.user = q.user ∧ p.text = q.text)
      ((posts.map Post.text).map localPost) posts := by
    rw [List.map_map, List.forall₂_map_left_iff, List.forall₂_same]
    exact fun post hpost => ⟨(husers post hpost).symm, rfl⟩
  obtain ⟨halike, hevents, hresults⟩ := c.agree_deliveries hposts (⟨rfl, rfl⟩ : s.Alike s)
  have hreturns' : ∀ step ∈ c.deliveries s ((posts.map Post.text).map localPost),
      ∃ os, step.result = .ok os := by
    intro step hstep
    have hmem := List.mem_map_of_mem (f := Step.result) hstep
    rw [hresults] at hmem
    obtain ⟨step', hstep', hresult⟩ := List.mem_map.1 hmem
    rw [← hresult]
    exact hreturns step' hstep'
  obtain ⟨hstate, hheard, hcloses⟩ := answerEach_of_session c s hsession 0 hreturns'
  refine ⟨hstate ▸ halike, hheard.trans (congrArg _ hevents), ?_, fun hids => ?_⟩
  · rw [Nat.zero_add, List.length_map] at hcloses
    exact hcloses
  · have hsame : (posts.map Post.text).map localPost = posts := by
      rw [List.map_map]
      refine (List.map_congr_left fun post hpost => ?_).trans (List.map_id posts)
      rw [Function.comp_apply, localPost, ← husers post hpost, ← hids post hpost]
      rfl
    rw [hstate, hsame]

/-- A session at the console is the micro-blog channel on trimmed lines. The input decides what is
posted, line by line up to the line that quits, that is no text, or after which there is none; and
the session is the series of these posts by the local user, whatever numbers they have, unless a
handler panics over one of them. -/
theorem run_performs_posts (input : List UInt8) :
    ∃ lines texts stop, Cut input lines ∧ Session lines texts stop ∧
      (∀ lines' texts' stop', Cut input lines' → Session lines' texts' stop' →
        lines' = lines ∧ texts' = texts ∧ stop' = stop) ∧
      ∀ (s : Microblog.State γ) (posts : List Post), posts.map Post.text = texts →
        (∀ post ∈ posts, post.user = localUser) →
        (∀ step ∈ c.deliveries s posts, ∃ os, step.result = .ok os) →
        Performs c s posts stop (run c input s) := by
  obtain ⟨texts, stop, hsession⟩ := exists_session (splitLines input)
  refine ⟨splitLines input, texts, stop, cut_iff.2 rfl, hsession, ?_, ?_⟩
  · intro lines' texts' stop' hcut hsession'
    obtain rfl := cut_iff.1 hcut
    exact ⟨rfl, hsession'.unique hsession⟩
  · intro s posts htexts husers hreturns
    have hperforms := performs_of_session c s hsession htexts husers hreturns
    -- the first prompt is shown, and nothing else is different
    exact ⟨hperforms.alike, hperforms.events, hperforms.closes, hperforms.exact_of_unnumbered⟩

/-- An account that greets whoever says anything. -/
def greeter : Microblog Unit where
  group _ := ⟨"bell", false, [⟨"ring", ∅, [], false, fun _ => .text "Hello"⟩]⟩
  targets := [()]

/-- Two posts, with a blank line between them, before a line that is no text. -/
theorem greeter_session_breaks_off :
    let input := encode "hi\r\n \t\n bye \n".toList ++ [0xFF, 10] ++ encode "hello".toList
    let posts : List Post := [⟨"1", localUser, "hi"⟩, ⟨"2", localUser, "bye"⟩]
    (∀ step ∈ greeter.deliveries {} posts, ∃ os, step.result = .ok os) ∧
      Performs greeter {} posts (some [0xFF]) (run greeter input {}) := by
  intro input posts
  have hreturns : ∀ step ∈ greeter.deliveries {} posts, ∃ os, step.result = .ok os := by
    have hall : (greeter.deliveries {} posts).all (fun step => step.result.toBool) = true := by
      decide +kernel
    intro step hstep
    have hok := List.all_eq_true.1 hall step hstep
    cases hresult : step.result with
    | error message => rw [hresult] at hok; cases hok
    | ok os => exact ⟨os, rfl⟩
  have hcut : Cut input [encode "hi".toList, encode " \t".toList, encode " bye ".toList, [0xFF],
      encode "hello".toList] := cut_iff.2 (by decide +kernel)
  have hbroken : ∀ s, [0xFF] ≠ encode s := by
    intro s hs
    have hdecode := decode_eq_ok_iff.2 hs
    cases hdecode
  have hsession : Session [encode "hi".toList, encode " \t".toList, encode " bye ".toList, [0xFF],
      encode "hello".toList] ["hi", "bye"] (some [0xFF]) :=
    .post ⟨_, rfl, trims_iff.2 (by decide)⟩ (by decide) (by decide) <|
      .blank ⟨_, rfl, trims_iff.2 (by decide)⟩ <|
      .post ⟨_, rfl, trims_iff.2 (by decide)⟩ (by decide) (by decide) <| .broken hbroken
  obtain ⟨lines, texts, stop, -, -, hunique, hperforms⟩ := run_performs_posts greeter input
  obtain ⟨rfl, rfl, rfl⟩ := hunique _ _ _ hcut hsession
  exact ⟨hreturns, hperforms {} posts rfl (by simp [posts]) hreturns⟩

end Console

end Parley
