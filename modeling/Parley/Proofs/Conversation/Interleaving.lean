import Mathlib.Data.List.Induction
import Mathlib.Logic.Function.Basic
import Parley.Proofs.Conversation.LastWord

/-!
# Deliveries at the same time

Routers that share a store may deliver messages at the same time. A delivery has the store to
itself once to take out what is pending and then once for every invocation; between these turns
other deliveries may have theirs.

## Main definitions

- `Errand` — a message that a router is to deliver
- `Deed`, `Progress` — what a delivery does in one turn, and how far it has come
- `Turn` — one turn of a delivery
- `Turns` — turns of one delivery in a row
- `Run` — turns of any number of deliveries, in any order

## Main results

- `Turns.route` — turns in a row do to the store what `Router.route` does to it
- `Run.turns` — turns in a row are among the turns that several deliveries may have
- `Run.split` — a run can be stopped at every moment

## Design notes

What comes of a dispatch is left open in a turn: a handler may remember what it was asked before,
and may so answer one of two messages otherwise than the other.
-/

namespace Parley

variable {γ : Type}

/-- A message that a router is to deliver. -/
structure Errand (γ : Type) where
  router : Router γ
  message : Message

/-- What a delivery does in one turn. -/
inductive Deed (γ : Type)
  /-- It takes out what is pending for the key. -/
  | took (key : String) (found : Option γ)
  /-- It dispatches the message to a group; the result is a panic or an outcome. -/
  | dispatched (g : γ) (result : Except String (Outcome γ))
  /-- It records where the conversation of the key goes on. -/
  | recorded (key : String) (next : Option γ)

/-- How far a delivery has come. -/
inductive Progress (γ : Type)
  /-- What is pending is yet to be taken out. -/
  | arrived
  /-- There are outcomes; of the last of them some invocations may be unrecorded, and more groups
  may follow. -/
  | underway (outcomes : List (Outcome γ)) (unrecorded : List (Option γ)) (groups : List γ)
  /-- A handler has panicked. -/
  | panicked (message : String)

/-- What came of a delivery that has ended. -/
def Progress.result? : Progress γ → Option (Except String (List (Outcome γ)))
  | underway outcomes [] [] => some (.ok outcomes)
  | panicked message => some (.error message)
  | _ => none

namespace Errand

/-- The key of the sender. -/
def key (e : Errand γ) : Option String :=
  e.message.get? e.router.keyFacet

/-- How a delivery starts. Without a key there is nothing to take out. -/
def start (e : Errand γ) : Progress γ :=
  match e.key with
  | some _ => .arrived
  | none => .underway [] [] e.router.targets

/-- What there is to record of an outcome of the group `g`. -/
def notes (e : Errand γ) (g : γ) (o : Outcome γ) : List (Option γ) :=
  match e.key with
  | some _ => o.invocations.map (Router.nextDialog g)
  | none => []

end Errand

-- ════════════════════════════════════════════════════════════════════════
-- Turns
-- ════════════════════════════════════════════════════════════════════════

/-- One turn of a delivery, from one progress and store to the next. -/
inductive Turn (e : Errand γ) : Progress γ → Store γ → Deed γ → Progress γ → Store γ → Prop
  | take {key : String} {s : Store γ} (hkey : e.key = some key) :
      Turn e .arrived s (.took key (s.get? key)) (.underway [] [] (e.router.consulted s e.message))
        (s.erase key)
  | dispatch {os : List (Outcome γ)} {g : γ} {gs : List γ} {o : Outcome γ} {s : Store γ} :
      Turn e (.underway os [] (g :: gs)) s (.dispatched g (.ok o))
        (.underway (os ++ [o]) (e.notes g o) gs) s
  | panic {os : List (Outcome γ)} {g : γ} {gs : List γ} {message : String} {s : Store γ} :
      Turn e (.underway os [] (g :: gs)) s (.dispatched g (.error message)) (.panicked message) s
  | record {os : List (Outcome γ)} {next : Option γ} {rest : List (Option γ)} {gs : List γ}
      {key : String} {s : Store γ} (hkey : e.key = some key) :
      Turn e (.underway os (next :: rest) gs) s (.recorded key next) (.underway os rest gs)
        (e.router.recordNext key next s).state

theorem Turn.dispatch_of_notes {e : Errand γ} {g : γ} {o : Outcome γ} {notes : List (Option γ)}
    (h : e.notes g o = notes) (os : List (Outcome γ)) (gs : List γ) (s : Store γ) :
    Turn e (.underway os [] (g :: gs)) s (.dispatched g (.ok o)) (.underway (os ++ [o]) notes gs)
      s := by
  rw [← h]
  exact .dispatch

/-- Turns of one delivery in a row. -/
inductive Turns (e : Errand γ) :
    Progress γ → Store γ → List (Deed γ) → Progress γ → Store γ → Prop
  | nil (p : Progress γ) (s : Store γ) : Turns e p s [] p s
  | cons {p q r : Progress γ} {s t u : Store γ} {d : Deed γ} {ds : List (Deed γ)}
      (now : Turn e p s d q t) (later : Turns e q t ds r u) : Turns e p s (d :: ds) r u

theorem Turns.trans {e : Errand γ} {p q r : Progress γ} {s t u : Store γ} {ds es : List (Deed γ)}
    (first : Turns e p s ds q t) (second : Turns e q t es r u) : Turns e p s (ds ++ es) r u := by
  induction first with
  | nil => exact second
  | cons now _ ih => exact .cons now (ih second)

/-- A dispatch gives what the dispatcher of the errand gives. -/
def Deed.Faithful (e : Errand γ) : Deed γ → Prop
  | dispatched g result => (e.router.dispatcher.dispatch e.message (e.router.group g)).result = result
  | _ => True

-- ════════════════════════════════════════════════════════════════════════
-- A delivery that nobody disturbs
-- ════════════════════════════════════════════════════════════════════════

section Alone

variable (e : Errand γ)

/-- Recording in turns leaves the store that recording at once leaves. -/
theorem Turns.recordEach {key : String} (hkey : e.key = some key) (g : γ)
    (os : List (Outcome γ)) (gs : List γ) (is : List (Invocation γ)) (s : Store γ) :
    ∃ ds, (∀ d ∈ ds, d.Faithful e) ∧
      Turns e (.underway os (is.map (Router.nextDialog g)) gs) s ds (.underway os [] gs)
        (e.router.recordEach key g is s).state := by
  induction is generalizing s with
  | nil => exact ⟨[], by simp, .nil _ _⟩
  | cons i rest ih =>
    obtain ⟨ds, hds, hturns⟩ := ih (e.router.recordNext key (Router.nextDialog g i) s).state
    have hok : (e.router.recordNext key (Router.nextDialog g i) s).result = .ok () := by
      cases Router.nextDialog g i <;> rfl
    refine ⟨.recorded key (Router.nextDialog g i) :: ds, ?_, ?_⟩
    · simpa [Deed.Faithful] using hds
    · rw [Router.recordEach, Act.bind_apply_of_ok hok]
      exact .cons (.record hkey) hturns

/-- A delivery to one group that does not panic, in turns. -/
theorem Turns.deliver {g : γ} {o : Outcome γ} (os : List (Outcome γ)) (gs : List γ) (s : Store γ)
    (h : (e.router.dispatcher.dispatch e.message (e.router.group g)).result = .ok o) :
    (e.router.deliver e.message e.key g s).result = .ok o ∧
      ∃ ds, (∀ d ∈ ds, d.Faithful e) ∧
        Turns e (.underway os [] (g :: gs)) s ds (.underway (os ++ [o]) [] gs)
          (e.router.deliver e.message e.key g s).state := by
  cases hkey : e.key with
  | none =>
    rw [Router.deliver_none]
    refine ⟨h, [.dispatched g (.ok o)], by simpa [Deed.Faithful] using h, ?_⟩
    have hnotes : e.notes g o = [] := by rw [Errand.notes, hkey]
    exact .cons (.dispatch_of_notes hnotes os gs s) (.nil _ _)
  | some key =>
    rw [Router.deliver_some_of_ok _ _ h]
    obtain ⟨ds, hds, hturns⟩ := Turns.recordEach e hkey g (os ++ [o]) gs o.invocations s
    refine ⟨rfl, .dispatched g (.ok o) :: ds, ?_, ?_⟩
    · intro d hd
      rcases List.mem_cons.1 hd with rfl | hd
      · exact h
      · exact hds d hd
    · have hnotes : e.notes g o = o.invocations.map (Router.nextDialog g) := by
        rw [Errand.notes, hkey]
      exact .cons (.dispatch_of_notes hnotes os gs s) hturns

/-- After a delivery that does not panic the other groups have their turn. -/
theorem Router.deliverEach_cons_of_ok (r : Router γ) (m : Message) {key : Option String} {g : γ}
    {o : Outcome γ} {s : Store γ} (h : (r.deliver m key g s).result = .ok o) (rest : List γ) :
    let later := r.deliverEach m key rest (r.deliver m key g s).state
    (r.deliverEach m key (g :: rest) s).state = later.state ∧
      (r.deliverEach m key (g :: rest) s).result = later.result.map (o :: ·) := by
  intro later
  rw [Router.deliverEach, Act.bind_apply_of_ok h]
  cases hlater : later.result with
  | error message =>
    rw [Act.bind_apply_of_error hlater]
    exact ⟨rfl, rfl⟩
  | ok others =>
    rw [Act.bind_apply_of_ok hlater]
    exact ⟨rfl, rfl⟩

/-- Deliveries to several groups, in turns. -/
theorem Turns.deliverEach (os : List (Outcome γ)) (gs : List γ) (s : Store γ) :
    let step := e.router.deliverEach e.message e.key gs s
    ∃ ds p, (∀ d ∈ ds, d.Faithful e) ∧ Turns e (.underway os [] gs) s ds p step.state ∧
      p.result? = some (step.result.map (os ++ ·)) := by
  induction gs generalizing os s with
  | nil =>
    refine ⟨[], _, by simp, .nil _ _, ?_⟩
    exact congrArg (some <| Except.ok ·) (List.append_nil os).symm
  | cons g rest ih =>
    intro step
    cases hresult : (e.router.dispatcher.dispatch e.message (e.router.group g)).result with
    | error message =>
      have hdeliver : e.router.deliver e.message e.key g s =
          ⟨s, (e.router.dispatcher.dispatch e.message (e.router.group g)).events,
            .error message⟩ := Act.bind_apply_of_error hresult
      have hstep : step.state = s ∧ step.result = .error message := by
        simp only [step, Router.deliverEach]
        rw [Act.bind_apply_of_error (congrArg Step.result hdeliver), hdeliver]
        exact ⟨rfl, rfl⟩
      refine ⟨[.dispatched g (.error message)], .panicked message, ?_, ?_, ?_⟩
      · simpa [Deed.Faithful] using hresult
      · rw [hstep.1]
        exact .cons .panic (.nil _ _)
      · rw [hstep.2]
        rfl
    | ok o =>
      obtain ⟨hok, ds, hds, hturns⟩ := Turns.deliver e os rest s hresult
      obtain ⟨hstate, hlater⟩ := e.router.deliverEach_cons_of_ok e.message hok rest
      obtain ⟨ds', p, hds', hturns', hp⟩ :=
        ih (os ++ [o]) (e.router.deliver e.message e.key g s).state
      refine ⟨ds ++ ds', p, ?_, ?_, ?_⟩
      · intro d hd
        exact (List.mem_append.1 hd).elim (hds d) (hds' d)
      · rw [show step.state = _ from hstate]
        exact hturns.trans hturns'
      · rw [hp, show step.result = _ from hlater]
        cases (e.router.deliverEach e.message e.key rest
            (e.router.deliver e.message e.key g s).state).result with
        | error message => rfl
        | ok others => simp [Except.map]

/-- A delivery that nobody disturbs leaves the store and has the result that `Router.route` gives
it. -/
theorem Turns.route (s : Store γ) :
    let step := e.router.route e.message s
    ∃ ds p, (∀ d ∈ ds, d.Faithful e) ∧ Turns e e.start s ds p step.state ∧
      p.result? = some step.result := by
  intro step
  obtain ⟨logged, -, hroute⟩ := e.router.route_eq e.message s
  have hmap : ∀ x : Except String (List (Outcome γ)), x.map ([] ++ ·) = x := by
    intro x
    cases x <;> rfl
  cases hkey : e.key with
  | none =>
    have hmessage : e.message.get? e.router.keyFacet = none := hkey
    obtain ⟨ds, p, hds, hturns, hp⟩ := Turns.deliverEach e [] e.router.targets s
    rw [hmap, hkey] at hp
    rw [hkey] at hturns
    have hstep : step.state = (e.router.deliverEach e.message none e.router.targets s).state ∧
        step.result = (e.router.deliverEach e.message none e.router.targets s).result := by
      simp only [step, hroute, hmessage, Router.consulted, Option.bind_none, Option.map_none,
        Option.getD_none, and_self]
    rw [Errand.start, hkey, hstep.1, hstep.2]
    exact ⟨ds, p, hds, hturns, hp⟩
  | some key =>
    have hmessage : e.message.get? e.router.keyFacet = some key := hkey
    obtain ⟨ds, p, hds, hturns, hp⟩ :=
      Turns.deliverEach e [] (e.router.consulted s e.message) (s.erase key)
    rw [hmap, hkey] at hp
    rw [hkey] at hturns
    have hstep : step.state = (e.router.deliverEach e.message (some key)
          (e.router.consulted s e.message) (s.erase key)).state ∧
        step.result = (e.router.deliverEach e.message (some key)
          (e.router.consulted s e.message) (s.erase key)).result := by
      simp only [step, hroute, hmessage, Option.map_some, Option.getD_some, and_self]
    rw [Errand.start, hkey, hstep.1, hstep.2]
    refine ⟨.took key (s.get? key) :: ds, p, ?_, .cons (.take hkey) hturns, hp⟩
    intro d hd
    rcases List.mem_cons.1 hd with rfl | hd
    · trivial
    · exact hds d hd

end Alone

-- ════════════════════════════════════════════════════════════════════════
-- Several deliveries
-- ════════════════════════════════════════════════════════════════════════

variable {ι : Type}

/-- A store in use, and how far the deliveries have come. -/
structure Traffic (ι γ : Type) where
  store : Store γ
  progress : ι → Progress γ

/-- No delivery has had a turn. -/
def Traffic.start (errands : ι → Errand γ) (s : Store γ) : Traffic ι γ :=
  ⟨s, fun i => (errands i).start⟩

/-- Turns of deliveries in any order, with what was done in each of them. -/
inductive Run [DecidableEq ι] (errands : ι → Errand γ) :
    Traffic ι γ → List (ι × Deed γ) → Traffic ι γ → Prop
  | nil (a : Traffic ι γ) : Run errands a [] a
  | turn {a b : Traffic ι γ} {trace : List (ι × Deed γ)} {i : ι} {d : Deed γ} {p : Progress γ}
      {s : Store γ} (before : Run errands a trace b)
      (now : Turn (errands i) (b.progress i) b.store d p s) :
      Run errands a (trace ++ [(i, d)]) ⟨s, Function.update b.progress i p⟩

namespace Run

variable [DecidableEq ι] {errands : ι → Errand γ} {a b c : Traffic ι γ}
  {trace : List (ι × Deed γ)}

/-- A delivery may have several turns in a row. -/
theorem turns {i : ι} {p q : Progress γ} {s t : Store γ} {ds : List (Deed γ)}
    (before : Run errands a trace b) (hp : b.progress i = p) (hs : b.store = s)
    (row : Turns (errands i) p s ds q t) :
    Run errands a (trace ++ ds.map (i, ·)) ⟨t, Function.update b.progress i q⟩ := by
  induction row generalizing trace b with
  | nil p s =>
    subst hp hs
    rw [Function.update_eq_self, List.map_nil, List.append_nil]
    exact before
  | @cons p q r s t u d ds now later ih =>
    subst hp hs
    have h := ih (before.turn now) (Function.update_self i q b.progress) rfl
    rw [Function.update_idem, List.append_assoc] at h
    exact h

/-- A run can be stopped at every moment, and goes on from there. -/
theorem split {first second : List (ι × Deed γ)} (h : Run errands a (first ++ second) c) :
    ∃ b, Run errands a first b ∧ Run errands b second c := by
  induction second using List.reverseRecOn generalizing c with
  | nil => exact ⟨c, by rwa [List.append_nil] at h, .nil c⟩
  | append_singleton init last ih =>
    rw [← List.append_assoc] at h
    generalize hall : first ++ init ++ [last] = all at h
    cases h with
    | nil => simp at hall
    | turn before now =>
      obtain ⟨rfl, hlast⟩ := List.append_inj' hall rfl
      obtain rfl := List.singleton_inj.1 hlast
      obtain ⟨b, hfirst, hinit⟩ := ih before
      exact ⟨b, hfirst, hinit.turn now⟩

end Run

end Parley
