import Mathlib.Data.List.Forall2
import Parley.Proofs.Dispatch.Candidates

/-!
# What becomes of a delivery

Every handler that a message is delivered to is announced to the hook and reported back to it, and
is called in between if the hook lets it and its arguments can be bound. What becomes of one
handler depends on no other one; only a panic keeps the later ones from their turn.

## Main definitions

- `Delivery` — the events of a delivery to one handler, and how it ends
- `Deliveries` — the same for deliveries to several handlers, up to the first panic

## Main results

- `Dispatcher.delivery_invoke` — one handler is delivered to in this way
- `Dispatcher.deliveries_invokeEach` — so is each of several
- `Dispatcher.dispatch_of_forall` — all candidates have their turn if none of them panics
- `Dispatcher.dispatch_brackets_deliveries` — so are the chosen handlers of a group
-/

namespace Parley

variable {γ : Type}

/-- The events of the hook and of a handler when a message is delivered to the handler, with the
reply or the reason why there is none; a panic leaves its message only. -/
inductive Delivery (d : Dispatcher γ) (m : Message) (h : Handler γ) :
    List Event → Except String (Except InvocationError (Reply γ)) → Prop
  /-- The hook refuses the delivery. -/
  | refused {reason : String} (hrefusal : d.hook.refusal h = some reason) :
      Delivery d m h [.before h.identity, .after h.identity]
        (.ok (.error (.delivery h.identity reason)))
  /-- An argument cannot be converted. -/
  | unbound {e : ConversionError} (hrefusal : d.hook.refusal h = none)
      (hbind : bindParameters m h = .error e) :
      Delivery d m h [.before h.identity, .after h.identity]
        (.ok (.error (.conversion h.identity e)))
  /-- The handler is called and fails. -/
  | failed {args : Args} {reason : String} (hrefusal : d.hook.refusal h = none)
      (hbind : bindParameters m h = .ok args) (hending : (h.action args).ending = .failure reason) :
      Delivery d m h
        ([.before h.identity, .called h.identity args] ++ deliveryEvents (h.action args).events ++
          [.after h.identity])
        (.ok (.error (.handler h.identity reason)))
  /-- The handler is called and replies. -/
  | replied {args : Args} {reply : Reply γ} (hrefusal : d.hook.refusal h = none)
      (hbind : bindParameters m h = .ok args) (hending : (h.action args).ending = .reply reply) :
      Delivery d m h
        ([.before h.identity, .called h.identity args] ++ deliveryEvents (h.action args).events ++
          [.after h.identity])
        (.ok (.ok reply))
  /-- The handler is called and panics. -/
  | panicked {args : Args} {message : String} (hrefusal : d.hook.refusal h = none)
      (hbind : bindParameters m h = .ok args) (hending : (h.action args).ending = .panic message) :
      Delivery d m h
        ([.before h.identity, .called h.identity args] ++ deliveryEvents (h.action args).events ++
          [.after h.identity])
        (.error message)

namespace Delivery

variable {d : Dispatcher γ} {m : Message} {h : Handler γ} {es fs : List Event}
  {x y : Except String (Except InvocationError (Reply γ))}

/-- The message, the hook and the handler decide what becomes of the delivery. -/
theorem unique (hx : Delivery d m h es x) (hy : Delivery d m h fs y) : es = fs ∧ x = y := by
  cases hx <;> cases hy <;> simp_all

/-- The hook is told first and last, also of a panic. -/
theorem bracketed (hx : Delivery d m h es x) :
    ∃ inner, es = .before h.identity :: inner ++ [.after h.identity] := by
  cases hx with
  | refused => exact ⟨[], rfl⟩
  | unbound => exact ⟨[], rfl⟩
  | failed | replied | panicked => exact ⟨_, rfl⟩

/-- An error is about the handler that the message was delivered to. -/
theorem identity_error {e : InvocationError} (he : Delivery d m h es (.ok (.error e))) :
    e.identity = h.identity := by
  cases he <;> rfl

end Delivery

/-- The events of deliveries to handlers one after the other, with their invocations; a panic keeps
the later handlers from their turn. -/
inductive Deliveries (d : Dispatcher γ) (m : Message) :
    List (Handler γ) → List Event → Except String (List (Invocation γ)) → Prop
  /-- All handlers have had their turn. -/
  | returned {hs : List (Handler γ)} {xs : List (List Event × Except InvocationError (Reply γ))}
      (hxs : List.Forall₂ (fun h x => Delivery d m h x.1 (.ok x.2)) hs xs) :
      Deliveries d m hs (xs.flatMap Prod.fst)
        (.ok (List.zipWith (fun h x => ⟨h.identity, x.2⟩) hs xs))
  /-- One of them has panicked. -/
  | stopped {earlier later : List (Handler γ)} {h : Handler γ}
      {xs : List (List Event × Except InvocationError (Reply γ))} {es : List Event}
      {message : String}
      (hxs : List.Forall₂ (fun h x => Delivery d m h x.1 (.ok x.2)) earlier xs)
      (hpanic : Delivery d m h es (.error message)) :
      Deliveries d m (earlier ++ h :: later) (xs.flatMap Prod.fst ++ es) (.error message)

namespace Deliveries

variable {d : Dispatcher γ} {m : Message} {h : Handler γ} {hs : List (Handler γ)}
  {es fs : List Event}

/-- The others have their turn after one that has not panicked. -/
theorem cons {x : Except InvocationError (Reply γ)} {r : Except String (List (Invocation γ))}
    (hx : Delivery d m h es (.ok x)) (hr : Deliveries d m hs fs r) :
    Deliveries d m (h :: hs) (es ++ fs) (r.map (⟨h.identity, x⟩ :: ·)) := by
  cases hr with
  | returned hxs => exact .returned (.cons (b := (es, x)) hx hxs)
  | @stopped earlier later h' xs es' message hxs hpanic =>
    rw [← List.append_assoc]
    exact .stopped (.cons (b := (es, x)) hx hxs) hpanic

end Deliveries

namespace Dispatcher

variable (d : Dispatcher γ) (m : Message)

/-- What happens between the notices to the hook, with these notices. -/
theorem delivery_attempt (h : Handler γ) :
    Delivery d m h
      ([.before h.identity] ++ deliveryEvents (d.attempt m h).events ++ [.after h.identity])
      (d.attempt m h).result := by
  cases hrefusal : d.hook.refusal h with
  | some reason =>
    rw [attempt, hrefusal]
    exact .refused hrefusal
  | none =>
    cases hbind : bindParameters m h with
    | error e =>
      rw [attempt, hrefusal, hbind]
      exact .unbound hrefusal hbind
    | ok args =>
      have hattempt : d.attempt m h = call h args := by rw [attempt, hrefusal, hbind]
      rw [hattempt, call]
      cases hending : (h.action args).ending with
      | reply reply => exact .replied hrefusal hbind hending
      | failure reason => exact .failed hrefusal hbind hending
      | panic message => exact .panicked hrefusal hbind hending

/-- The hook is told of the handler before and after an attempt, whatever comes of it. -/
theorem invoke_eq (h : Handler γ) :
    deliveryEvents (d.invoke m h).events =
        [.before h.identity] ++ deliveryEvents (d.attempt m h).events ++ [.after h.identity] ∧
      (d.invoke m h).result = (d.attempt m h).result.map (⟨h.identity, ·⟩) := by
  let fields := [("identity", h.identity), ("message", m.text)]
  -- what is left to do with the result of the attempt logs at most, and gives it back
  obtain ⟨finish, hinvoke, hfinish⟩ : ∃ finish : Except InvocationError (Reply γ) → _,
      d.invoke m h =
          (Traced.log d.level "Invoking handler" fields >>= fun _ =>
            Traced.emit (.before h.identity) >>= fun _ =>
              (d.attempt m h).closeWith (.after h.identity) >>= finish) ∧
        ∀ x, deliveryEvents (finish x).events = [] ∧
          (finish x).result = .ok ⟨h.identity, x⟩ := by
    refine ⟨_, rfl, fun x => ?_⟩
    cases x with
    | ok reply => exact ⟨rfl, rfl⟩
    | error e => exact ⟨rfl, rfl⟩
  rw [hinvoke, Traced.bind_of_ok (a := ()) rfl, Traced.bind_of_ok (a := ()) rfl]
  cases hresult : (d.attempt m h).result with
  | error message =>
    rw [Traced.bind_of_error (x := (d.attempt m h).closeWith _) hresult]
    refine ⟨?_, rfl⟩
    simp only [deliveryEvents_append, Traced.closeWith]
    rfl
  | ok x =>
    obtain ⟨hevents, hok⟩ := hfinish x
    rw [Traced.bind_of_ok (x := (d.attempt m h).closeWith _) hresult]
    refine ⟨?_, hok⟩
    simp only [deliveryEvents_append, Traced.closeWith, hevents, List.append_nil]
    rfl

/-- A message is delivered to a handler between two notices to the hook. -/
theorem delivery_invoke (h : Handler γ) :
    ∃ x, Delivery d m h (deliveryEvents (d.invoke m h).events) x ∧
      (d.invoke m h).result = x.map (⟨h.identity, ·⟩) := by
  obtain ⟨hevents, hresult⟩ := d.invoke_eq m h
  refine ⟨(d.attempt m h).result, ?_, hresult⟩
  rw [hevents]
  exact d.delivery_attempt m h

/-- A handler that does not panic leaves the others their turn. -/
theorem invokeEach_cons_of_ok {h : Handler γ} {i : Invocation γ}
    (hi : (d.invoke m h).result = .ok i) (rest : List (Handler γ)) :
    deliveryEvents (d.invokeEach m (h :: rest)).events =
        deliveryEvents (d.invoke m h).events ++ deliveryEvents (d.invokeEach m rest).events ∧
      (d.invokeEach m (h :: rest)).result = (d.invokeEach m rest).result.map (i :: ·) := by
  rw [invokeEach, Traced.bind_of_ok hi, Traced.bind_pure_of]
  exact ⟨deliveryEvents_append _ _, rfl⟩

/-- A message is delivered to handlers one after the other. -/
theorem deliveries_invokeEach (hs : List (Handler γ)) :
    Deliveries d m hs (deliveryEvents (d.invokeEach m hs).events) (d.invokeEach m hs).result := by
  induction hs with
  | nil => exact .returned .nil
  | cons h rest ih =>
    obtain ⟨x, hx, hresult⟩ := d.delivery_invoke m h
    cases x with
    | error message =>
      rw [invokeEach, Traced.bind_of_error hresult]
      exact .stopped .nil hx
    | ok x =>
      obtain ⟨hevents, hreturned⟩ := d.invokeEach_cons_of_ok m hresult rest
      rw [hevents, hreturned]
      exact .cons hx ih

/-- If no handler panics, all have their turn. The handlers are those of some things, which also
tell what comes of them. -/
theorem invokeEach_of_forall {ι : Type} {f : ι → Handler γ}
    {x : ι → List Event × Except InvocationError (Reply γ)} {cs : List ι}
    (hx : ∀ c ∈ cs, Delivery d m (f c) (x c).1 (.ok (x c).2)) :
    deliveryEvents (d.invokeEach m (cs.map f)).events = cs.flatMap (fun c => (x c).1) ∧
      (d.invokeEach m (cs.map f)).result = .ok (cs.map fun c => ⟨(f c).identity, (x c).2⟩) := by
  induction cs with
  | nil => exact ⟨rfl, rfl⟩
  | cons c rest ih =>
    obtain ⟨y, hy, hresult⟩ := d.delivery_invoke m (f c)
    obtain ⟨hfirst, rfl⟩ := hy.unique (hx c (.head _))
    obtain ⟨hrest, hlater⟩ := ih fun c' hc' => hx c' (.tail _ hc')
    obtain ⟨hevents, hreturned⟩ := d.invokeEach_cons_of_ok m hresult (rest.map f)
    rw [List.map_cons, hevents, hreturned, hfirst, hrest, hlater]
    exact ⟨rfl, rfl⟩

/-- Candidates are invoked one after the other, after a note to the log. -/
theorem run_eq (candidates : List (Handler γ)) (all : Bool) :
    let each := d.invokeEach m (if all then candidates else candidates.take 1)
    deliveryEvents (d.run m candidates all).events = deliveryEvents each.events ∧
      (d.run m candidates all).result = each.result.map .invoked := by
  have hrun : d.run m candidates all =
      (Traced.log .debug "Dispatching"
          [("candidates", toString candidates.length), ("invoke_all", toString all)] >>= fun _ =>
        d.invokeEach m (if all then candidates else candidates.take 1) >>= fun is =>
          pure (.invoked is)) := rfl
  rw [hrun, Traced.bind_of_ok (a := ()) rfl, Traced.bind_pure_of]
  exact ⟨deliveryEvents_append _ _, rfl⟩

/-- Every candidate of a group that invokes all of its handlers has its turn, if none panics. -/
theorem dispatch_of_forall {g : Group γ} {ι : Type} {f : ι → Handler γ}
    {x : ι → List Event × Except InvocationError (Reply γ)} {cs : List ι}
    (hall : g.invokeAll = true) (hcandidates : selectCandidates m g.handlers = cs.map f)
    (hsome : cs ≠ []) (hx : ∀ c ∈ cs, Delivery d m (f c) (x c).1 (.ok (x c).2)) :
    deliveryEvents (d.dispatch m g).events = cs.flatMap (fun c => (x c).1) ∧
      (d.dispatch m g).result =
        .ok (.invoked (cs.map fun c => ⟨(f c).identity, (x c).2⟩)) := by
  have hrun : d.dispatch m g = d.run m (cs.map f) true := by
    cases cs with
    | nil => exact absurd rfl hsome
    | cons c rest =>
      rw [dispatch, hcandidates, ← hall]
      rfl
  obtain ⟨hevents, hresult⟩ := d.run_eq m (cs.map f) true
  obtain ⟨heach, hreturned⟩ := d.invokeEach_of_forall m hx
  rw [hrun, hevents, hresult, if_pos rfl, heach, hreturned]
  exact ⟨rfl, rfl⟩

/-- A message is delivered to all candidates of a group, or to the first, in order and each between
two notices to the hook. What becomes of a handler is decided by the hook, the message and the
handler alone. -/
theorem dispatch_brackets_deliveries (g : Group γ) :
    let candidates := selectCandidates m g.handlers
    let chosen := if g.invokeAll then candidates else candidates.take 1
    let run := d.dispatch m g
    (candidates = [] → run.result = .ok .noMatch ∧ deliveryEvents run.events = []) ∧
      (candidates ≠ [] → ∃ result, Deliveries d m chosen (deliveryEvents run.events) result ∧
        run.result = result.map .invoked) ∧
      ∀ h es x, Delivery d m h es x →
        (∃ inner, es = .before h.identity :: inner ++ [.after h.identity]) ∧
        (∀ fs y, Delivery d m h fs y → fs = es ∧ y = x) ∧
        ∀ e, x = .ok (.error e) → e.identity = h.identity := by
  intro candidates chosen run
  refine ⟨fun hnone => ?_, fun hsome => ?_, fun h es x hx => ⟨hx.bracketed, ?_, ?_⟩⟩
  · have hrun : run = (Traced.log .info "No handler matched"
        [("group", g.name), ("message", m.text)] >>= fun _ => pure .noMatch) := by
      simp only [run, dispatch, show selectCandidates m g.handlers = [] from hnone]
    rw [hrun]
    exact ⟨rfl, rfl⟩
  · have hrun : run = d.run m candidates g.invokeAll := by
      cases hc : candidates with
      | nil => exact absurd hc hsome
      | cons h rest => simp only [run, dispatch, show selectCandidates m g.handlers = _ from hc]
    obtain ⟨hevents, hresult⟩ := d.run_eq m candidates g.invokeAll
    rw [hrun, hevents]
    exact ⟨_, d.deliveries_invokeEach m chosen, hresult⟩
  · exact fun fs y hy => hy.unique hx
  · rintro e rfl
    exact hx.identity_error

end Dispatcher

end Parley
