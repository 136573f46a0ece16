import Parley.Proofs.Dispatch.Order

/-!
# Groups in which one handler answers

In a group that does not invoke all of its handlers, the first candidate decides what comes of a
message. For handlers with a pattern for one facet, the candidates can be read off the patterns.

## Main definitions

- `Ending.outcome` — what comes of a message if the call of its only handler ends so
- `Registration.withPattern` — a handler with a pattern for one facet
- `Handler.Replies` — a handler whose arguments can be bound and which replies

## Main results

- `Dispatcher.dispatch_of_nil`, `Dispatcher.dispatch_of_cons` — what comes of a message
- `Dispatcher.delivery_of_cons` — the message is delivered to the first candidate only
- `Dispatcher.attempt_of_replies`, `Dispatcher.attempt_of_refusal` — what comes of the candidate
- `Roster.candidates_of_pairwise` — the candidates of a group whose handlers were registered in the
  order of their identities
-/

namespace Parley

variable {γ : Type}

/-- The arguments of the handler can be bound, and called with them it gives the reply. -/
def Handler.Replies (h : Handler γ) (m : Message) (reply : Reply γ) : Prop :=
  ∃ args, bindParameters m h = .ok args ∧ (h.action args).ending = .reply reply

/-- What comes of a message if the call of its only handler ends so. -/
def Ending.outcome (id : String) : Ending γ → Except String (Outcome γ)
  | .reply answer => .ok (.invoked [⟨id, .ok answer⟩])
  | .failure reason => .ok (.invoked [⟨id, .error (.handler id reason)⟩])
  | .panic reason => .error reason

namespace Dispatcher

variable (d : Dispatcher γ) {m : Message} {g : Group γ} {h : Handler γ} {rest : List (Handler γ)}

theorem dispatch_of_nil (hnone : selectCandidates m g.handlers = []) :
    (d.dispatch m g).result = .ok .noMatch := by
  rw [dispatch, hnone]
  rfl

theorem deliveryEvents_of_nil (hnone : selectCandidates m g.handlers = []) :
    deliveryEvents (d.dispatch m g).events = [] := by
  rw [dispatch, hnone]
  rfl

/-- The first candidate decides what comes of a message. -/
theorem dispatch_of_cons (hall : g.invokeAll = false)
    (hfirst : selectCandidates m g.handlers = h :: rest) :
    (d.dispatch m g).result =
      (d.attempt m h).result.map fun x => .invoked [⟨h.identity, x⟩] := by
  have hrun : d.dispatch m g = d.run m (h :: rest) false := by
    rw [dispatch, hfirst, ← hall]
  rw [hrun, (d.invokesOnly_run m h rest).2, (d.invoke_eq m h).2]
  cases (d.attempt m h).result <;> rfl

/-- A message is delivered to the first candidate only. -/
theorem delivery_of_cons (hall : g.invokeAll = false)
    (hfirst : selectCandidates m g.handlers = h :: rest) :
    ∃ x, Delivery d m h (deliveryEvents (d.dispatch m g).events) x ∧
      (d.dispatch m g).result = x.map fun r => .invoked [⟨h.identity, r⟩] := by
  have hrun : d.dispatch m g = d.run m (h :: rest) false := by
    rw [dispatch, hfirst, ← hall]
  obtain ⟨hevents, -⟩ := d.invokesOnly_run m h rest
  refine ⟨(d.attempt m h).result, ?_, d.dispatch_of_cons hall hfirst⟩
  rw [hrun, hevents, (d.invoke_eq m h).1]
  exact d.delivery_attempt m h

/-- The first candidate is called if its arguments can be bound. -/
theorem dispatch_of_bound (hall : g.invokeAll = false)
    (hfirst : selectCandidates m g.handlers = h :: rest) (hrefusal : d.hook.refusal h = none)
    {args : Args} (hbind : bindParameters m h = .ok args) :
    deliveryEvents (d.dispatch m g).events =
        [.before h.identity, .called h.identity args] ++ deliveryEvents (h.action args).events ++
          [.after h.identity] ∧
      (d.dispatch m g).result = (h.action args).ending.outcome h.identity := by
  obtain ⟨x, hdelivery, hresult⟩ := d.delivery_of_cons hall hfirst
  rw [hresult]
  cases hending : (h.action args).ending with
  | reply reply =>
    obtain ⟨hevents, rfl⟩ := hdelivery.unique (.replied hrefusal hbind hending)
    exact ⟨hevents, rfl⟩
  | failure reason =>
    obtain ⟨hevents, rfl⟩ := hdelivery.unique (.failed hrefusal hbind hending)
    exact ⟨hevents, rfl⟩
  | panic message =>
    obtain ⟨hevents, rfl⟩ := hdelivery.unique (.panicked hrefusal hbind hending)
    exact ⟨hevents, rfl⟩

/-- The first candidate is not called if an argument cannot be converted. -/
theorem dispatch_of_unbound (hall : g.invokeAll = false)
    (hfirst : selectCandidates m g.handlers = h :: rest) (hrefusal : d.hook.refusal h = none)
    {e : ConversionError} (hbind : bindParameters m h = .error e) :
    deliveryEvents (d.dispatch m g).events = [.before h.identity, .after h.identity] ∧
      (d.dispatch m g).result =
        .ok (.invoked [⟨h.identity, .error (.conversion h.identity e)⟩]) := by
  obtain ⟨x, hdelivery, hresult⟩ := d.delivery_of_cons hall hfirst
  obtain ⟨hevents, rfl⟩ := hdelivery.unique (.unbound hrefusal hbind)
  exact ⟨hevents, hresult⟩

/-- The first candidate is not called if the hook refuses it. -/
theorem dispatch_of_refused (hall : g.invokeAll = false)
    (hfirst : selectCandidates m g.handlers = h :: rest) {reason : String}
    (hrefusal : d.hook.refusal h = some reason) :
    deliveryEvents (d.dispatch m g).events = [.before h.identity, .after h.identity] ∧
      (d.dispatch m g).result =
        .ok (.invoked [⟨h.identity, .error (.delivery h.identity reason)⟩]) := by
  obtain ⟨x, hdelivery, hresult⟩ := d.delivery_of_cons hall hfirst
  obtain ⟨hevents, rfl⟩ := hdelivery.unique (.refused hrefusal)
  exact ⟨hevents, hresult⟩

theorem attempt_of_refusal {reason : String} (hrefusal : d.hook.refusal h = some reason) :
    (d.attempt m h).result = .ok (.error (.delivery h.identity reason)) := by
  rw [attempt, hrefusal]
  rfl

theorem attempt_of_replies {reply : Reply γ} (hrefusal : d.hook.refusal h = none)
    (hreplies : h.Replies m reply) : (d.attempt m h).result = .ok (.ok reply) := by
  obtain ⟨args, hbind, hending⟩ := hreplies
  rw [attempt, hrefusal]
  simp only [hbind, call, hending]

end Dispatcher

/-- The handler that a registration gives with a pattern for one facet. -/
def Registration.withPattern (r : Registration γ) (facet : String) (p : FacetPattern)
    (all : Bool) : Handler γ :=
  ⟨r.identity, (∅ : Table FacetPattern).insert facet p, r.bindings, all, r.action⟩

theorem Registration.build_withPattern {r : Registration γ} {facet raw : String}
    {p : FacetPattern} (hpatterns : r.patterns = [(facet, raw)])
    (hcompile : FacetPattern.compile raw = .ok p) (all : Bool) :
    r.build all = .ok (r.withPattern facet p all) := by
  rw [build, hpatterns, compilePatterns, hcompile]
  rfl

theorem Registration.accepts_withPattern (r : Registration γ) (facet : String) (p : FacetPattern)
    (all : Bool) (m : Message) :
    (r.withPattern facet p all).accepts m = p.accepts (m.get? facet) := by
  have hentries : (r.withPattern facet p all).patterns.entries = [(facet, p)] := rfl
  rw [Handler.accepts, hentries, List.all_cons, List.all_nil, Bool.and_true]

theorem Registration.captures_withPattern (r : Registration γ) (facet : String) (p : FacetPattern)
    (all : Bool) (m : Message) :
    (r.withPattern facet p all).captures m facet = p.captures (m.get? facet) := by
  have hpattern : (r.withPattern facet p all).patterns.get? facet = some p := by
    rw [withPattern, Table.get?_insert, if_pos rfl]
  rw [Handler.captures, hpattern, Option.bind_some]

/-- Handlers are in the order of their identities if they were registered in it. -/
theorem Registration.pairwise_built {rs : List (Registration γ)}
    (hordered : rs.Pairwise fun r r' => r.identity ≤ r'.identity) (all : Bool) :
    (built all rs).Pairwise Handler.InOrder := by
  refine List.Pairwise.filterMap _ (fun r r' hle h hh h' hh' => ?_) hordered
  rw [Handler.InOrder, identity_of_build (Except.toOption_eq_some_iff.mp hh),
    identity_of_build (Except.toOption_eq_some_iff.mp hh')]
  exact hle

/-- Handlers that were registered in the order of their identities are candidates in it. -/
theorem Roster.candidates_of_pairwise {r : Roster γ}
    (hordered : r.registrations.Pairwise fun r r' => r.identity ≤ r'.identity) (m : Message) :
    selectCandidates m r.build.handlers =
      (Registration.built r.invokeAll r.registrations).filter fun h => h.accepts m := by
  have hsorted : sortHandlers (Registration.built r.invokeAll r.registrations) =
      Registration.built r.invokeAll r.registrations :=
    List.mergeSort_of_pairwise
      ((Registration.pairwise_built hordered r.invokeAll).imp
        fun (h : _ ≤ _) => decide_eq_true h)
  rw [Roster.selectCandidates_build, selectCandidates, hsorted]

end Parley
