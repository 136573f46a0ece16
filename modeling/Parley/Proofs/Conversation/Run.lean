import Parley.Proofs.Conversation.Entry

/-!
# Runs of messages through a router

A router gets messages one after the other, each with the store that the one before it left. A
panic ends the delivery of its own message only, so the run goes on with the store at the panic.

## Main definitions

- `Exchange` — a message of a run with the store before it and what came of it
- `Router.exchanges` — the exchanges of a run
- `Router.exchangesOf` — those with the messages of one sender
- `Router.storeAfter` — the store at the end of a run
-/

namespace Parley

variable {γ : Type}

/-- A message that was routed. -/
structure Exchange (γ : Type) where
  /-- The store before the message. -/
  before : Store γ
  /-- The message. -/
  message : Message
  /-- The store after the message, with the events and the outcomes. -/
  step : Step (Store γ) (List (Outcome γ))

namespace Router

variable (r : Router γ)

/-- Routes messages one after the other. -/
def exchanges : Store γ → List Message → List (Exchange γ)
  | _, [] => []
  | s, m :: rest => ⟨s, m, r.route m s⟩ :: exchanges (r.route m s).state rest

/-- The exchanges of a run whose messages have the given key. -/
def exchangesOf (key : String) (xs : List (Exchange γ)) : List (Exchange γ) :=
  xs.filter fun x => x.message.get? r.keyFacet = some key

theorem exchangesOf_cons_of_key {key : String} {x : Exchange γ}
    (h : x.message.get? r.keyFacet = some key) (xs : List (Exchange γ)) :
    r.exchangesOf key (x :: xs) = x :: r.exchangesOf key xs :=
  List.filter_cons_of_pos (by simpa using h)

theorem exchangesOf_cons_of_ne {key : String} {x : Exchange γ}
    (h : x.message.get? r.keyFacet ≠ some key) (xs : List (Exchange γ)) :
    r.exchangesOf key (x :: xs) = r.exchangesOf key xs :=
  List.filter_cons_of_neg (by simpa using h)

/-- The store after messages were routed one after the other. -/
def storeAfter (s : Store γ) (ms : List Message) : Store γ :=
  ms.foldl (fun s m => (r.route m s).state) s

/-- Every exchange of a run is the routing of its message. -/
theorem step_of_mem_exchanges {s : Store γ} {ms : List Message} {x : Exchange γ}
    (hx : x ∈ r.exchanges s ms) : x.step = r.route x.message x.before := by
  induction ms generalizing s with
  | nil => cases hx
  | cons m rest ih =>
    rcases List.mem_cons.1 hx with rfl | hx
    · rfl
    · exact ih hx

end Router

end Parley
