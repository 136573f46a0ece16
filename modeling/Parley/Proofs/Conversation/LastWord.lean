import Mathlib.Data.List.Forall2
import Parley.Proofs.Conversation.Run
import Parley.Proofs.Dispatch.Candidates

/-!
# The last invocation has the last word

A pending group is taken out of the store before its message is delivered, and every invocation
then puts a group in or takes one out. What is pending in the end is therefore decided by the last
invocation alone, however many groups and handlers there were.

## Main definitions

- `GoesOn` — where an invocation leaves the conversation, told from its reply
- `LastWord` — where a list of invocations leaves it
- `Router.consulted` — the groups that a message is delivered to
- `Router.Settled` — what holds after a message

## Main results

- `Router.settled_route` — what holds after one message, on any store
- `Router.conversations_end_with_last_word` — what holds in a run from the empty store
-/

namespace Parley

variable {γ : Type}

-- ════════════════════════════════════════════════════════════════════════
-- Where invocations leave a conversation
-- ════════════════════════════════════════════════════════════════════════

/-- After an invocation by a handler of the group `g`, the conversation goes on with this group,
or with none. -/
inductive GoesOn (g : γ) (i : Invocation γ) : Option γ → Prop
  /-- The reply names the group. -/
  | named {reply : Reply γ} {next : γ} (hreply : i.result = .ok reply)
      (hdialog : reply.dialog = some (.group next)) : GoesOn g i (some next)
  /-- The reply stays with the group of its handler. -/
  | current {reply : Reply γ} (hreply : i.result = .ok reply)
      (hdialog : reply.dialog = some .current) : GoesOn g i (some g)
  /-- The reply says nothing about the conversation. -/
  | silent {reply : Reply γ} (hreply : i.result = .ok reply)
      (hdialog : reply.dialog = none) : GoesOn g i none
  /-- There is no reply. -/
  | failed {e : InvocationError} (herror : i.result = .error e) : GoesOn g i none

/-- The last of some invocations leaves the conversation at the entry; without an invocation there
is no entry. -/
def LastWord (is : List (γ × Invocation γ)) (entry : Option γ) : Prop :=
  match is.getLast? with
  | none => entry = none
  | some (g, i) => GoesOn g i entry

/-- The invocations of outcomes in order, each with the group of its handler. -/
def invocationsOf (gs : List γ) (os : List (Outcome γ)) : List (γ × Invocation γ) :=
  (gs.zip os).flatMap fun (g, o) => o.invocations.map fun i => (g, i)

theorem goesOn_nextDialog (g : γ) (i : Invocation γ) : GoesOn g i (Router.nextDialog g i) := by
  unfold Router.nextDialog
  cases hresult : i.result with
  | error e => exact .failed hresult
  | ok reply =>
    cases hdialog : reply.dialog with
    | none => simpa [hdialog] using GoesOn.silent hresult hdialog
    | some dialog =>
      cases dialog with
      | group next => simpa [hdialog] using GoesOn.named hresult hdialog
      | current => simpa [hdialog] using GoesOn.current hresult hdialog

/-- The entry that recorded invocations leave, where there was the entry `start` before. -/
def entryAfter (start : Option γ) (is : List (γ × Invocation γ)) : Option γ :=
  is.foldl (fun _ i => Router.nextDialog i.1 i.2) start

theorem entryAfter_append (start : Option γ) (is js : List (γ × Invocation γ)) :
    entryAfter start (is ++ js) = entryAfter (entryAfter start is) js :=
  List.foldl_append

/-- Where nothing was pending, the entry that is left is the last word. -/
theorem lastWord_entryAfter (is : List (γ × Invocation γ)) : LastWord is (entryAfter none is) := by
  rcases List.eq_nil_or_concat is with rfl | ⟨init, last, rfl⟩
  · rfl
  · unfold LastWord
    rw [List.concat_eq_append, entryAfter_append, List.getLast?_concat]
    exact goesOn_nextDialog last.1 last.2

-- ════════════════════════════════════════════════════════════════════════
-- Deliveries
-- ════════════════════════════════════════════════════════════════════════

namespace Router

variable (r : Router γ) (m : Message)

/-- The groups that a message is delivered to: the one that is pending for its key, or else all
targets. -/
def consulted (s : Store γ) (m : Message) : List γ :=
  match (m.get? r.keyFacet).bind s.get? with
  | some g => [g]
  | none => r.targets

/-- Recording invocations always ends well and writes only to the log. -/
theorem recordEach_apply (key : String) (g : γ) (is : List (Invocation γ)) (s : Store γ) :
    (r.recordEach key g is s).result = .ok () ∧
      deliveryEvents (r.recordEach key g is s).events = [] ∧
      (r.recordEach key g is s).state.get? key =
        entryAfter (s.get? key) (is.map fun i => (g, i)) := by
  induction is generalizing s with
  | nil => exact ⟨rfl, rfl, rfl⟩
  | cons i rest ih =>
    have hok : (r.recordNext key (nextDialog g i) s).result = .ok () := by
      cases nextDialog g i <;> rfl
    have hevents : deliveryEvents (r.recordNext key (nextDialog g i) s).events = [] := by
      cases nextDialog g i <;> rfl
    obtain ⟨hresult, hrest, hentry⟩ := ih (r.recordNext key (nextDialog g i) s).state
    unfold recordEach
    rw [Act.bind_apply_of_ok hok]
    refine ⟨hresult, ?_, ?_⟩
    · rw [deliveryEvents_append, hevents, hrest]
      rfl
    · rw [hentry, get?_recordNext, if_pos rfl]
      rfl

/-- A delivery without a key does nothing but dispatch the message. -/
theorem deliver_none (g : γ) (s : Store γ) :
    r.deliver m none g s =
      ⟨s, (r.dispatcher.dispatch m (r.group g)).events,
        (r.dispatcher.dispatch m (r.group g)).result⟩ := by
  have hdeliver : r.deliver m none g =
      (liftM (r.dispatcher.dispatch m (r.group g)) >>= fun o => pure o : Act (Store γ) _) := rfl
  rw [hdeliver]
  cases hresult : (r.dispatcher.dispatch m (r.group g)).result with
  | error message => rw [Act.bind_apply_of_error hresult]; rfl
  | ok o => rw [Act.bind_apply_of_ok hresult]; simp

/-- A delivery with a key dispatches the message and records the outcome. -/
theorem deliver_some_of_ok {key : String} {g : γ} {o : Outcome γ}
    (h : (r.dispatcher.dispatch m (r.group g)).result = .ok o) (s : Store γ) :
    r.deliver m (some key) g s =
      ⟨(r.recordEach key g o.invocations s).state,
        (r.dispatcher.dispatch m (r.group g)).events ++
          (r.recordEach key g o.invocations s).events, .ok o⟩ := by
  have hdeliver : r.deliver m (some key) g =
      (liftM (r.dispatcher.dispatch m (r.group g)) >>= fun o =>
        r.recordEach key g o.invocations >>= fun _ => pure o : Act (Store γ) _) := rfl
  have hrecord := (r.recordEach_apply key g o.invocations s).1
  rw [hdeliver, Act.bind_apply_of_ok h]
  simp only [Act.liftM_apply]
  rw [Act.bind_apply_of_ok hrecord]
  simp

/-- The outcome of a delivery is that of the dispatcher, and its invocations are recorded. -/
theorem deliver_apply {key : Option String} {g : γ} {s : Store γ} {o : Outcome γ}
    (h : (r.deliver m key g s).result = .ok o) :
    (r.dispatcher.dispatch m (r.group g)).result = .ok o ∧
      deliveryEvents (r.deliver m key g s).events =
        deliveryEvents (r.dispatcher.dispatch m (r.group g)).events ∧
      (key = none → (r.deliver m key g s).state = s) ∧
      ∀ k, key = some k →
        (r.deliver m key g s).state.get? k =
          entryAfter (s.get? k) (o.invocations.map fun i => (g, i)) := by
  cases key with
  | none =>
    rw [deliver_none] at h ⊢
    exact ⟨h, rfl, fun _ => rfl, nofun⟩
  | some k =>
    obtain ⟨o', hdispatch, -⟩ := Act.exists_ok_of_bind h
    obtain ⟨-, hevents, hentry⟩ := r.recordEach_apply k g o'.invocations s
    rw [r.deliver_some_of_ok m hdispatch] at h ⊢
    obtain rfl : o' = o := Except.ok.inj h
    refine ⟨hdispatch, ?_, nofun, ?_⟩
    · rw [deliveryEvents_append, hevents, List.append_nil]
    · intro k' hk
      obtain rfl : k = k' := Option.some.inj hk
      exact hentry

/-- Deliveries to several groups give an outcome for each group in order, and their invocations
are recorded in this order. -/
theorem deliverEach_apply {key : Option String} {gs : List γ} {s : Store γ}
    {os : List (Outcome γ)} (h : (r.deliverEach m key gs s).result = .ok os) :
    List.Forall₂ (fun g o => (r.dispatcher.dispatch m (r.group g)).result = .ok o) gs os ∧
      deliveryEvents (r.deliverEach m key gs s).events =
        deliveryEvents (gs.flatMap fun g => (r.dispatcher.dispatch m (r.group g)).events) ∧
      (key = none → (r.deliverEach m key gs s).state = s) ∧
      ∀ k, key = some k →
        (r.deliverEach m key gs s).state.get? k = entryAfter (s.get? k) (invocationsOf gs os) := by
  induction gs generalizing s os with
  | nil =>
    obtain rfl : [] = os := Except.ok.inj h
    exact ⟨.nil, rfl, fun _ => rfl, fun _ _ => rfl⟩
  | cons g rest ih =>
    obtain ⟨o, hfirst, hrest⟩ := Act.exists_ok_of_bind h
    obtain ⟨os', hothers, hos⟩ := Act.exists_ok_of_bind hrest
    obtain rfl : o :: os' = os := Except.ok.inj hos
    obtain ⟨hdispatch, hevents, hsame, hentry⟩ := r.deliver_apply m hfirst
    obtain ⟨hall, hevents', hsame', hentry'⟩ := ih hothers
    unfold deliverEach
    rw [Act.bind_apply_of_ok hfirst, Act.bind_apply_of_ok hothers]
    refine ⟨.cons hdispatch hall, ?_, fun hk => (hsame' hk).trans (hsame hk), ?_⟩
    · simp only [Act.pure_apply, List.append_nil, List.flatMap_cons, deliveryEvents_append,
        hevents, hevents']
    · intro k hk
      have hsplit : invocationsOf (g :: rest) (o :: os') =
          (o.invocations.map fun i => (g, i)) ++ invocationsOf rest os' := rfl
      rw [hsplit, entryAfter_append, ← hentry k hk]
      exact hentry' k hk

-- ════════════════════════════════════════════════════════════════════════
-- Messages
-- ════════════════════════════════════════════════════════════════════════

/-- What holds after a message that was routed with the outcomes `os`. -/
structure Settled (x : Exchange γ) (os : List (Outcome γ)) : Prop where
  /-- Each of the consulted groups gave the outcome in its place. -/
  delivered : List.Forall₂
    (fun g o => (r.dispatcher.dispatch x.message (r.group g)).result = .ok o)
    (r.consulted x.before x.message) os
  /-- The handlers of a group were invoked in the order of their identities. -/
  inOrder : ∀ o ∈ os, o.identities.Pairwise (· ≤ ·)
  /-- The hook and the handlers of these groups wrote down all that was written down. -/
  observed : deliveryEvents x.step.events = deliveryEvents
    ((r.consulted x.before x.message).flatMap fun g =>
      (r.dispatcher.dispatch x.message (r.group g)).events)
  /-- The last invocation decides about the entry of the message's key. -/
  entry : ∀ key, x.message.get? r.keyFacet = some key →
    LastWord (invocationsOf (r.consulted x.before x.message) os) (x.step.state.get? key)
  /-- The entries of all other keys stay. -/
  others : ∀ key, x.message.get? r.keyFacet ≠ some key →
    x.step.state.get? key = x.before.get? key
  /-- Without a key the whole store stays. -/
  anonymous : x.message.get? r.keyFacet = none → x.step.state = x.before
  /-- A pending group alone gets the message. -/
  pending : ∀ key g, x.message.get? r.keyFacet = some key → x.before.get? key = some g →
    ∃ o, os = [o] ∧ (r.dispatcher.dispatch x.message (r.group g)).result = .ok o

/-- A message is delivered to the consulted groups, on a store without what was pending. -/
theorem route_eq (s : Store γ) :
    ∃ logged : List Event, deliveryEvents logged = [] ∧
      r.route m s =
        (let step := r.deliverEach m (m.get? r.keyFacet) (r.consulted s m)
          (((m.get? r.keyFacet).map s.erase).getD s)
        ⟨step.state, logged ++ step.events, step.result⟩) := by
  unfold route consulted
  cases hkey : m.get? r.keyFacet with
  | none => exact ⟨[], rfl, rfl⟩
  | some key =>
    have htake : (takePending (some key) s : Step (Store γ) (Option γ)).result =
        .ok (s.get? key) := rfl
    refine ⟨match s.get? key with
      | some g => [.logged ⟨.debug, "Continuing conversation",
          [("key", key), ("dialog", (r.group g).name)]⟩]
      | none => [], ?_, ?_⟩
    · cases s.get? key <;> rfl
    · rw [Act.bind_apply_of_ok htake]
      simp only [Option.bind_some]
      cases s.get? key with
      | none => rfl
      | some g => rfl

/-- Whatever the store holds, a message that is routed without a panic settles. -/
theorem settled_route (s : Store γ) {os : List (Outcome γ)}
    (h : (r.route m s).result = .ok os) : r.Settled ⟨s, m, r.route m s⟩ os := by
  obtain ⟨logged, hlogged, hroute⟩ := r.route_eq m s
  have hdeliver : (r.deliverEach m (m.get? r.keyFacet) (r.consulted s m)
      (((m.get? r.keyFacet).map s.erase).getD s)).result = .ok os := by
    rw [hroute] at h
    exact h
  obtain ⟨hall, hevents, hsame, hentry⟩ := r.deliverEach_apply m hdeliver
  have hordered := List.Forall₂.flip (R := fun o g => o.identities.Pairwise (· ≤ ·) ∧
    (r.dispatcher.dispatch m (r.group g)).result = .ok o)
      (hall.imp fun _ _ h => ⟨Dispatcher.pairwise_identities_of_dispatch h, h⟩)
  refine ⟨hall, ((List.forall₂_and_left _ _).mp hordered).1, ?_, ?_, ?_, ?_, ?_⟩
  · change deliveryEvents (r.route m s).events = _
    rw [hroute, deliveryEvents_append, hlogged]
    exact hevents
  · intro key hkey
    change LastWord _ ((r.route m s).state.get? key)
    rw [hroute]
    simp only [hkey] at hentry ⊢
    rw [hentry key rfl, Option.map_some, Option.getD_some, Table.get?_erase, if_pos rfl]
    exact lastWord_entryAfter _
  · intro key hkey
    exact r.spares_route m hkey s
  · intro hkey
    change (r.route m s).state = s
    rw [hroute]
    rw [hkey] at hsame ⊢
    exact hsame rfl
  · intro key g hkey hpending
    have hconsulted : r.consulted s m = [g] := by
      simp only [consulted, hkey, Option.bind_some]
      rw [show s.get? key = some g from hpending]
    rw [hconsulted] at hall
    cases hall with
    | cons hfirst hrest =>
      cases hrest
      exact ⟨_, rfl, hfirst⟩

-- ════════════════════════════════════════════════════════════════════════
-- Runs of messages
-- ════════════════════════════════════════════════════════════════════════

/-- The entry of a key at the end of a run is what the last message with this key left. -/
theorem get?_storeAfter (s : Store γ) (ms : List Message) (key : String) :
    (r.storeAfter s ms).get? key =
      (((r.exchangesOf key (r.exchanges s ms)).getLast?).map
        fun x => x.step.state.get? key).getD (s.get? key) := by
  induction ms generalizing s with
  | nil => rfl
  | cons m rest ih =>
    have hstore : r.storeAfter s (m :: rest) = r.storeAfter (r.route m s).state rest := rfl
    rw [hstore, ih]
    by_cases hkey : m.get? r.keyFacet = some key
    · rw [exchanges, r.exchangesOf_cons_of_key hkey, List.getLast?_cons]
      cases (r.exchangesOf key (r.exchanges (r.route m s).state rest)).getLast? <;> rfl
    · rw [exchanges, r.exchangesOf_cons_of_ne hkey, r.spares_route m hkey s]

/-- In a run from the empty store in which no handler panics, every message settles; and in the
end nothing is pending for a key but what the last word on its last message was. -/
theorem conversations_end_with_last_word (ms : List Message)
    (returns : ∀ x ∈ r.exchanges ∅ ms, ∃ os, x.step.result = .ok os) :
    (∀ x ∈ r.exchanges ∅ ms, ∃ os, x.step.result = .ok os ∧ r.Settled x os) ∧
      ∀ key,
        match (r.exchangesOf key (r.exchanges ∅ ms)).getLast? with
        | none => (r.storeAfter ∅ ms).get? key = none
        | some x => ∃ os, x.step.result = .ok os ∧
            LastWord (invocationsOf (r.consulted x.before x.message) os)
              ((r.storeAfter ∅ ms).get? key) := by
  have hsettled : ∀ x ∈ r.exchanges ∅ ms, ∃ os, x.step.result = .ok os ∧ r.Settled x os := by
    intro x hx
    obtain ⟨os, hos⟩ := returns x hx
    refine ⟨os, hos, ?_⟩
    have hstep := r.step_of_mem_exchanges hx
    rw [hstep] at hos
    have h := r.settled_route x.message x.before hos
    rwa [← hstep] at h
  refine ⟨hsettled, fun key => ?_⟩
  rw [get?_storeAfter]
  cases hlast : (r.exchangesOf key (r.exchanges ∅ ms)).getLast? with
  | none => rfl
  | some x =>
    obtain ⟨hx, hkey⟩ := List.mem_filter.1 (List.mem_of_getLast? hlast)
    obtain ⟨os, hos, hsettled⟩ := hsettled x hx
    exact ⟨os, hos, hsettled.entry key (by simpa using hkey)⟩

/-- Two targets for a sender who says anything: group 0 fails, group 1 hands the conversation over
to group 2, and there it stays. -/
def handover : Router Nat where
  keyFacet := userFacet
  group
    | 0 => ⟨"door", false, [⟨"shut", ∅, [], false, fun _ => ⟨[], .failure "shut"⟩⟩]⟩
    | 1 => ⟨"bell", true,
        [⟨"ring", ∅, [], true, fun _ => .response { dialog := some (.group 2) }⟩]⟩
    | _ => ⟨"room", false,
        [⟨"talk", ∅, [], false, fun _ => .response { dialog := some .current }⟩]⟩
  targets := [0, 1]

/-- Three messages of one sender: the first one is handed over, and the others stay. -/
theorem handover_ends_with_last_word :
    let m := ({ channel := "chat" : Message }).insert userFacet "ann"
    let xs := handover.exchanges ∅ [m, m, m]
    (∀ x ∈ xs, ∃ os, x.step.result = .ok os) ∧
      (∀ x ∈ xs, ∃ os, x.step.result = .ok os ∧ handover.Settled x os) ∧
      (handover.storeAfter ∅ [m, m, m]).get? "ann" = some 2 := by
  intro m xs
  have hall : xs.all (fun x => x.step.result.toBool) = true := by decide +kernel
  have returns : ∀ x ∈ xs, ∃ os, x.step.result = .ok os := by
    intro x hx
    have hx := List.all_eq_true.1 hall x hx
    cases hresult : x.step.result with
    | error message => rw [hresult] at hx; cases hx
    | ok os => exact ⟨os, rfl⟩
  exact ⟨returns, (handover.conversations_end_with_last_word [m, m, m] returns).1,
    by decide +kernel⟩

end Router

end Parley
