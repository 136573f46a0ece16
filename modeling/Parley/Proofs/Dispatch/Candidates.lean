import Parley.Dispatch
import Parley.Proofs.Journal

/-!
# The candidates of a message

The handlers that accept a message stand in the order of their identities, and a delivery invokes
all of them or the first one. Whatever becomes of an invocation, it is listed under the identity of
its handler.

## Main definitions

- `Group.chosen` — the handlers of a group that a message is delivered to

## Main results

- `pairwise_selectCandidates` — candidates are in the order of their identities
- `Dispatcher.identities_of_dispatch` — a delivery invokes the chosen handlers in order
- `Dispatcher.pairwise_identities_of_dispatch` — this is the order of identities
-/

namespace Parley

variable {γ : Type}

/-- Whether the identities of two handlers are in order. -/
def Handler.InOrder (h h' : Handler γ) : Prop :=
  h.identity ≤ h'.identity

/-- The first of some handlers in order has the lowest identity. -/
theorem Handler.identity_le_of_mem {h h' : Handler γ} {hs : List (Handler γ)}
    (hordered : (h :: hs).Pairwise InOrder) (hmem : h' ∈ h :: hs) : h.identity ≤ h'.identity := by
  rcases List.mem_cons.mp hmem with rfl | hmem
  · exact String.le_refl _
  · exact List.rel_of_pairwise_cons hordered hmem

/-- Handlers are sorted by an order that is transitive. -/
theorem Handler.sortOrder_trans (a b c : Handler γ) (hab : decide (a.identity ≤ b.identity))
    (hbc : decide (b.identity ≤ c.identity)) : decide (a.identity ≤ c.identity) :=
  decide_eq_true (String.le_trans (of_decide_eq_true hab) (of_decide_eq_true hbc))

/-- Handlers are sorted by an order that is total. -/
theorem Handler.sortOrder_total (a b : Handler γ) :
    decide (a.identity ≤ b.identity) || decide (b.identity ≤ a.identity) := by
  rcases String.le_total a.identity b.identity with h | h
  · rw [decide_eq_true h, Bool.true_or]
  · rw [decide_eq_true h, Bool.or_true]

theorem pairwise_sortHandlers (hs : List (Handler γ)) :
    (sortHandlers hs).Pairwise Handler.InOrder :=
  (List.pairwise_mergeSort Handler.sortOrder_trans Handler.sortOrder_total hs).imp
    of_decide_eq_true

theorem pairwise_selectCandidates (m : Message) (hs : List (Handler γ)) :
    (selectCandidates m hs).Pairwise Handler.InOrder :=
  (pairwise_sortHandlers hs).filter _

/-- The handlers of a group that a message is delivered to: all candidates, or the first. -/
def Group.chosen (g : Group γ) (m : Message) : List (Handler γ) :=
  let candidates := selectCandidates m g.handlers
  if g.invokeAll then candidates else candidates.take 1

theorem Group.pairwise_chosen (g : Group γ) (m : Message) :
    (g.chosen m).Pairwise Handler.InOrder := by
  unfold chosen
  split
  · exact pairwise_selectCandidates m g.handlers
  · exact (pairwise_selectCandidates m g.handlers).sublist (List.take_sublist 1 _)

namespace Dispatcher

variable {d : Dispatcher γ} {m : Message}

/-- An invocation is listed under the identity of its handler. -/
theorem identity_of_invoke {h : Handler γ} {i : Invocation γ}
    (hi : (d.invoke m h).result = .ok i) : i.identity = h.identity := by
  obtain ⟨_, -, hi⟩ := Traced.exists_ok_of_bind hi
  obtain ⟨_, -, hi⟩ := Traced.exists_ok_of_bind hi
  obtain ⟨result, -, hi⟩ := Traced.exists_ok_of_bind hi
  cases result with
  | ok reply =>
    cases hi
    rfl
  | error e =>
    obtain ⟨_, -, hi⟩ := Traced.exists_ok_of_bind hi
    cases hi
    rfl

theorem identities_of_invokeEach {hs : List (Handler γ)} {is : List (Invocation γ)}
    (hi : (d.invokeEach m hs).result = .ok is) :
    is.map Invocation.identity = hs.map Handler.identity := by
  induction hs generalizing is with
  | nil =>
    cases hi
    rfl
  | cons h rest ih =>
    obtain ⟨i, hfirst, hi⟩ := Traced.exists_ok_of_bind hi
    obtain ⟨others, hrest, hi⟩ := Traced.exists_ok_of_bind hi
    cases hi
    rw [List.map_cons, List.map_cons, identity_of_invoke hfirst, ih hrest]

/-- A delivery to a group invokes the chosen handlers in order. -/
theorem identities_of_dispatch {g : Group γ} {o : Outcome γ}
    (ho : (d.dispatch m g).result = .ok o) :
    o.identities = (g.chosen m).map Handler.identity := by
  unfold dispatch at ho
  unfold Group.chosen
  split at ho
  · next hnone =>
    obtain ⟨_, -, ho⟩ := Traced.exists_ok_of_bind ho
    cases ho
    simp [hnone, Outcome.identities, Outcome.invocations]
  · next h rest hsome =>
    obtain ⟨_, -, ho⟩ := Traced.exists_ok_of_bind ho
    obtain ⟨is, his, ho⟩ := Traced.exists_ok_of_bind ho
    cases ho
    rw [hsome]
    exact identities_of_invokeEach his

/-- The invocations of a delivery are in the order of identities. -/
theorem pairwise_identities_of_dispatch {g : Group γ} {o : Outcome γ}
    (ho : (d.dispatch m g).result = .ok o) : o.identities.Pairwise (· ≤ ·) := by
  rw [identities_of_dispatch ho]
  exact List.pairwise_map.mpr (g.pairwise_chosen m)

end Dispatcher

end Parley
