import Parley.Proofs.Dispatch.Order

/-!
# Deliveries that return

A delivery ends in a panic only if the handler that it calls does. So whether a message has an
outcome depends on nothing but the handlers that are called for it, with the arguments that they
are called with.

## Main definitions

- `Dispatcher.Returns` — a handler that does not panic over a message

## Main results

- `Dispatcher.exists_result_attempt_iff` — one handler
- `Dispatcher.exists_outcome_iff` — a group
- `Dispatcher.exists_outcomes` — several groups
-/

namespace Parley

variable {γ : Type}

theorem Group.mem_handlers_of_mem_chosen (g : Group γ) {m : Message} {h : Handler γ}
    (hh : h ∈ g.chosen m) : h ∈ g.handlers := by
  have hcandidate : h ∈ selectCandidates m g.handlers := by
    unfold chosen at hh
    split at hh
    · exact hh
    · exact List.mem_of_mem_take hh
  exact (mem_selectCandidates.1 hcandidate).1

namespace Dispatcher

variable (d : Dispatcher γ) (m : Message)

/-- If the handler is called for the message, it does not panic. -/
def Returns (h : Handler γ) : Prop :=
  d.hook.refusal h = none → ∀ args, bindParameters m h = .ok args →
    ∀ message, (h.action args).ending ≠ .panic message

theorem exists_result_attempt_iff (h : Handler γ) :
    (∃ x, (d.attempt m h).result = .ok x) ↔ d.Returns m h := by
  obtain ⟨es, hdelivery⟩ : ∃ es, Delivery d m h es (d.attempt m h).result :=
    ⟨_, d.delivery_attempt m h⟩
  constructor
  · rintro ⟨x, hx⟩ hrefusal args hbind message hpanic
    rw [hx] at hdelivery
    obtain ⟨-, hunique⟩ := hdelivery.unique (.panicked hrefusal hbind hpanic)
    cases hunique
  · intro hreturns
    cases hresult : (d.attempt m h).result with
    | ok x => exact ⟨x, rfl⟩
    | error message =>
      rw [hresult] at hdelivery
      cases hdelivery with
      | panicked hrefusal hbind hpanic => exact absurd hpanic (hreturns hrefusal _ hbind _)

theorem exists_invocation_iff (h : Handler γ) :
    (∃ i, (d.invoke m h).result = .ok i) ↔ d.Returns m h := by
  rw [← exists_result_attempt_iff, (d.invoke_eq m h).2]
  cases (d.attempt m h).result <;> simp [Except.map]

theorem exists_invocations_iff (hs : List (Handler γ)) :
    (∃ is, (d.invokeEach m hs).result = .ok is) ↔ ∀ h ∈ hs, d.Returns m h := by
  induction hs with
  | nil => exact iff_of_true ⟨[], rfl⟩ nofun
  | cons h rest ih =>
    rw [List.forall_mem_cons, ← ih, ← exists_invocation_iff]
    constructor
    · rintro ⟨is, his⟩
      obtain ⟨i, hi, his⟩ := Traced.exists_ok_of_bind his
      obtain ⟨others, hothers, -⟩ := Traced.exists_ok_of_bind his
      exact ⟨⟨i, hi⟩, ⟨others, hothers⟩⟩
    · rintro ⟨⟨i, hi⟩, ⟨others, hothers⟩⟩
      refine ⟨i :: others, ?_⟩
      rw [invokeEach, Traced.bind_of_ok hi, Traced.bind_of_ok hothers]
      rfl

/-- A message has an outcome unless one of the chosen handlers panics over it. -/
theorem exists_outcome_iff (g : Group γ) :
    (∃ o, (d.dispatch m g).result = .ok o) ↔ ∀ h ∈ g.chosen m, d.Returns m h := by
  rw [← exists_invocations_iff, dispatch, Group.chosen]
  split
  · next hnone =>
    simp only [hnone, List.take_nil, ite_self]
    exact iff_of_true ⟨.noMatch, rfl⟩ ⟨[], rfl⟩
  · next h rest hsome =>
    rw [(d.run_eq m (h :: rest) g.invokeAll).2, hsome]
    cases (d.invokeEach m (if g.invokeAll then h :: rest else (h :: rest).take 1)).result <;>
      simp [Except.map]

/-- A message has an outcome for each of several groups unless one of their chosen handlers panics
over it. -/
theorem exists_outcomes {gs : List (Group γ)}
    (hreturns : ∀ g ∈ gs, ∀ h ∈ g.chosen m, d.Returns m h) :
    ∃ os, List.Forall₂ (fun g o => (d.dispatch m g).result = .ok o) gs os := by
  induction gs with
  | nil => exact ⟨[], .nil⟩
  | cons g rest ih =>
    obtain ⟨hfirst, hrest⟩ := List.forall_mem_cons.1 hreturns
    obtain ⟨o, ho⟩ := (d.exists_outcome_iff m g).2 hfirst
    obtain ⟨os, hos⟩ := ih hrest
    exact ⟨o :: os, .cons ho hos⟩

/-- Outcomes for each of several groups are the result of a delivery to all of them. -/
theorem dispatchEach_of_outcomes {gs : List (Group γ)} {os : List (Outcome γ)}
    (hos : List.Forall₂ (fun g o => (d.dispatch m g).result = .ok o) gs os) :
    (d.dispatchEach m gs).result = .ok os := by
  induction hos with
  | nil => rfl
  | cons ho hos ih =>
    rw [dispatchEach, Traced.bind_of_ok ho, Traced.bind_of_ok ih]
    rfl

end Dispatcher

end Parley
