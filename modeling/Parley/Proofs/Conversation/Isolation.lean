import Parley.Proofs.Conversation.Run

/-!
# Senders do not hear each other

What a sender sees of a run is what came of the sender's own messages. It is the same when the
messages of all others are left out, however the messages were interleaved.

## Main definitions

- `Exchange.answer` — what a sender sees of an exchange

## Main results

- `Router.answers_filter` — a run and the run of one sender's messages, from stores that agree on
  this sender
- `Router.senders_are_isolated` — the same from the empty store
-/

namespace Parley

variable {γ : Type}

/-- What came of a message, without the store: the outcomes or the panic, and the events. -/
def Exchange.answer (x : Exchange γ) : Message × Except String (List (Outcome γ)) × List Event :=
  (x.message, x.step.result, x.step.events)

namespace Router

variable (r : Router γ) (key : String)

/-- The messages of one sender. -/
def messagesOf (ms : List Message) : List Message :=
  ms.filter fun m => m.get? r.keyFacet = some key

/-- Two runs from stores that agree on a sender, one of all messages and one of this sender's
messages alone: the answers to this sender are the same, and so is what is pending in the end. -/
theorem answers_filter (ms : List Message) {s t : Store γ} (h : s.get? key = t.get? key) :
    (r.exchangesOf key (r.exchanges s ms)).map Exchange.answer =
        (r.exchanges t (r.messagesOf key ms)).map Exchange.answer ∧
      (r.storeAfter s ms).get? key = (r.storeAfter t (r.messagesOf key ms)).get? key := by
  induction ms generalizing s t with
  | nil => exact ⟨rfl, h⟩
  | cons m rest ih =>
    by_cases hkey : m.get? r.keyFacet = some key
    · -- a message of the sender is routed in both runs, and heeds what both stores agree on
      have hmessages : r.messagesOf key (m :: rest) = m :: r.messagesOf key rest :=
        List.filter_cons_of_pos (by simpa using hkey)
      obtain ⟨hresult, hevents, hentry⟩ := r.heedsOnly_route m hkey s t h
      obtain ⟨hanswers, hstore⟩ := ih hentry
      rw [hmessages, exchanges, r.exchangesOf_cons_of_key hkey]
      refine ⟨?_, hstore⟩
      simp only [exchanges, List.map_cons, Exchange.answer, hresult, hevents]
      exact congrArg _ hanswers
    · -- a message of another sender is routed in the first run only, and spares the entry
      have hmessages : r.messagesOf key (m :: rest) = r.messagesOf key rest :=
        List.filter_cons_of_neg (by simpa using hkey)
      rw [hmessages, exchanges, r.exchangesOf_cons_of_ne hkey]
      exact ih ((r.spares_route m hkey s).trans h)

/-- From the empty store, a sender gets the same answers and is left with the same pending group
whether or not anyone else sends messages in between. -/
theorem senders_are_isolated (ms : List Message) :
    (r.exchangesOf key (r.exchanges ∅ ms)).map Exchange.answer =
        (r.exchanges ∅ (r.messagesOf key ms)).map Exchange.answer ∧
      (r.storeAfter ∅ ms).get? key = (r.storeAfter ∅ (r.messagesOf key ms)).get? key :=
  r.answers_filter key ms rfl

end Router

end Parley
