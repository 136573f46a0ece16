import Parley.Proofs.Bots.Question
import Parley.Proofs.Dispatch.Return

/-!
# Arithmetic is exact or fails

Whatever the message, the handler of an operation that is called for it states the exact result for
its two numbers, or fails if there is no result or the result is out of range. There is one
exception: the quotient of the least number by minus one is out of range as well, but ends the run.

## Main definitions

- `DividesLeast` — a handler that is called for this quotient

## Main results

- `returns_iff` — the handlers that do not panic
- `arithmetic_is_exact_or_fails` — how the answers end, and what comes of a message
- `quotient_of_least_number_panics` — a message for which there is no outcome
-/

namespace Parley.MathWiz

variable {γ : Type}

theorem Wording.identity_injective {w w' : Wording} (h : w.identity = w'.identity) : w = w' := by
  cases w with
  | sign op | words op =>
    cases w' with
    | sign op' | words op' => cases op <;> cases op' <;> first | rfl | exact absurd h (by decide)

theorem Special.identity_ne (x : Special) (w : Wording) : x.identity ≠ w.identity := by
  cases w with
  | sign op | words op => cases x <;> cases op <;> decide

variable {d : Dispatcher γ} {m : Message} {h : Handler γ}

/-- The handler of an operation is told by its identity. -/
theorem performs_of_identity (hh : h ∈ (group : Group γ).handlers) {w : Wording}
    (hidentity : h.identity = w.identity) : w.Performs h := by
  rcases exists_of_mem_handlers hh with ⟨w', hperforms⟩ | ⟨x, hanswers⟩
  · obtain rfl := Wording.identity_injective (hperforms.identity.symm.trans hidentity)
    exact hperforms
  · exact absurd (hanswers.identity.symm.trans hidentity) (x.identity_ne w)

/-- The handler is one of quotients, and it is called with the least number and minus one. -/
def DividesLeast (d : Dispatcher γ) (m : Message) (h : Handler γ) : Prop :=
  (∃ w : Wording, h.identity = w.identity ∧ w.operation = .divided) ∧
    d.hook.refusal h = none ∧ bindParameters m h = .ok ⟨[.int Int32.minValue, .int (-1)]⟩

/-- The only handlers that panic are those that divide the least number by minus one. -/
theorem returns_iff (hh : h ∈ (group : Group γ).handlers) :
    d.Returns m h ↔ ¬DividesLeast d m h := by
  constructor
  · rintro hreturns ⟨⟨w, hidentity, hw⟩, hrefusal, hbind⟩
    refine hreturns hrefusal _ hbind "attempt to divide with overflow" ?_
    rw [(performs_of_identity hh hidentity).action, hw, Operation.answer_divided_least]
  · intro hother hrefusal args hbind message hpanic
    rcases exists_of_mem_handlers hh with ⟨w, hperforms⟩ | ⟨x, hanswers⟩
    · obtain ⟨a, b, rfl⟩ := eq_of_bindParameters hperforms hbind
      obtain ⟨e, he⟩ := Operation.exists_ends (γ := γ) w.operation a b
      rw [hperforms.action, Operation.answer_of_ends he] at hpanic
      obtain rfl : e = .panic message := hpanic
      cases he with
      | panicked hop ha hb =>
        subst ha hb
        exact hother ⟨⟨w, hperforms.identity, hop⟩, hrefusal, hbind⟩
    · rw [hanswers.action] at hpanic
      cases hpanic

theorem chosen_eq (m : Message) : (group : Group γ).chosen m =
    (selectCandidates m (group : Group γ).handlers).take 1 := by
  have hone : (group : Group γ).invokeAll = false := rfl
  rw [Group.chosen, hone, if_neg Bool.false_ne_true]

theorem exists_candidates_of_mem_chosen (hh : h ∈ (group : Group γ).chosen m) :
    ∃ rest, selectCandidates m (group : Group γ).handlers = h :: rest := by
  rw [chosen_eq] at hh
  cases hcandidates : selectCandidates m (group : Group γ).handlers with
  | nil =>
    rw [hcandidates] at hh
    cases hh
  | cons first rest =>
    rw [hcandidates] at hh
    obtain rfl := List.mem_singleton.1 hh
    exact ⟨rest, rfl⟩

/-- The answer of every operation about any two numbers is the exact result if it is a 32-bit
number, and a failure if not, but for the quotient of the least number by minus one. So a message
has an outcome unless a handler is called for this quotient, and where a handler of an operation is
called, it is with two numbers, and what comes of the message is what the answer about them ends
in. -/
theorem arithmetic_is_exact_or_fails :
    (∀ (op : Operation) (a b : Int32), ∃ e : Ending γ,
      op.answer a b = ⟨[], e⟩ ∧ ∀ e', op.Ends a b e' ↔ e' = e) ∧
    ∀ (d : Dispatcher γ) (m : Message),
      ((∃ o, (d.dispatch m group).result = .ok o) ↔
        ∀ h ∈ (group : Group γ).chosen m, ¬DividesLeast d m h) ∧
      ∀ h ∈ (group : Group γ).chosen m, ∀ w : Wording, h.identity = w.identity →
        d.hook.refusal h = none → ∀ args, bindParameters m h = .ok args →
          ∃ a b e, args = ⟨[.int a, .int b]⟩ ∧ w.operation.Ends a b e ∧
            (d.dispatch m group).result = e.outcome w.identity := by
  refine ⟨fun op a b => ?_, fun d m => ⟨?_, ?_⟩⟩
  · obtain ⟨e, he⟩ := Operation.exists_ends (γ := γ) op a b
    exact ⟨e, Operation.answer_of_ends he, fun e' => ⟨fun he' => he'.unique he, fun h => h ▸ he⟩⟩
  · rw [d.exists_outcome_iff]
    exact forall₂_congr fun h hh => returns_iff (Group.mem_handlers_of_mem_chosen _ hh)
  · intro h hh w hidentity hrefusal args hbind
    have hperforms := performs_of_identity (Group.mem_handlers_of_mem_chosen _ hh) hidentity
    obtain ⟨a, b, rfl⟩ := eq_of_bindParameters hperforms hbind
    obtain ⟨e, he⟩ := Operation.exists_ends (γ := γ) w.operation a b
    obtain ⟨rest, hfirst⟩ := exists_candidates_of_mem_chosen hh
    obtain ⟨-, hresult⟩ := d.dispatch_of_bound rfl hfirst hrefusal hbind
    rw [hperforms.action, Operation.answer_of_ends he, hidentity] at hresult
    exact ⟨a, b, e, rfl, he, hresult⟩

/-- Seven divided by zero. -/
theorem division_by_zero_is_reported :
    (({} : Dispatcher Unit).dispatch (asked "what is 7 / 0") group).result =
      .ok (.invoked [⟨"divided", .error (.handler "divided" "cannot divide 7 by zero")⟩]) := by
  have hquestion : question 7 0 (.sign .slash true true) = "what is 7 / 0" := by decide
  have htext : (asked "what is 7 / 0").get? textFacet =
      some (question 7 0 (.sign .slash true true)) := by
    rw [hquestion]
    exact get?_asked _
  have hown : ¬(Spelling.sign .slash true true).wording.Stolen 0 := fun h => h.2.1 rfl
  obtain ⟨⟨rest, hfirst⟩, hbind⟩ := bound_of_question (γ := Unit) htext (by decide) hown
  have hchosen : (Wording.sign .divided).handler ∈
      (group : Group Unit).chosen (asked "what is 7 / 0") := by
    rw [chosen_eq, hfirst]
    exact List.mem_cons_self
  obtain ⟨a, b, e, hargs, hends, hresult⟩ :=
    (arithmetic_is_exact_or_fails.2 {} (asked "what is 7 / 0")).2 _ hchosen (.sign .divided) rfl
      rfl _ hbind
  cases hargs
  have hfails : Operation.divided.Ends 7 0 (.failure (γ := Unit) "cannot divide 7 by zero") :=
    .undefined (by decide)
  rw [hresult, hends.unique hfails]
  rfl

/-- The least number divided by minus one: the answer is neither the exact result nor a failure, and
the message has no outcome. -/
theorem quotient_of_least_number_panics :
    (divided Int32.minValue (-1) : Reaction Unit) =
        ⟨[], .panic "attempt to divide with overflow"⟩ ∧
      (({} : Dispatcher Unit).dispatch (asked "what is -2147483648 / -1") group).result =
        .error "attempt to divide with overflow" := by
  have hquestion : question Int32.minValue (-1) (.sign .slash true true) =
      "what is -2147483648 / -1" := by decide
  have htext : (asked "what is -2147483648 / -1").get? textFacet =
      some (question Int32.minValue (-1) (.sign .slash true true)) := by
    rw [hquestion]
    exact get?_asked _
  have hown : ¬(Spelling.sign .slash true true).wording.Stolen (-1) := fun h => h.2.1 rfl
  obtain ⟨⟨rest, hfirst⟩, hbind⟩ := bound_of_question (γ := Unit) htext (by decide) hown
  obtain ⟨-, hresult⟩ := Dispatcher.dispatch_of_bound {} rfl hfirst rfl hbind
  refine ⟨Operation.answer_divided_least, hresult.trans ?_⟩
  rw [(Wording.performs_handler _).action]
  exact congrArg (fun r => Ending.outcome _ (Reaction.ending r)) Operation.answer_divided_least

end Parley.MathWiz
