import Mathlib.Data.Int.Init
import Parley.Bots.MathWiz
import Parley.Proofs.Dispatch.Binding
import Parley.Proofs.Dispatch.Leading
import Parley.Proofs.Handler.Registration

/-!
# Operations on 32-bit numbers

Each operation of the arithmetic bot states its exact result if there is one and it is a 32-bit
number, and fails if not, save for the one quotient that is out of range: that of the least number
by minus one.

## Main definitions

- `Operation` — the operations
- `Operation.Ends` — how the answer about two numbers ends
- `Operation.registration` — a handler of the operation

## Main results

- `Operation.answer_of_ends`, `Operation.exists_ends` — every answer ends in one of these ways
- `exists_of_mem_handlers` — the handlers of the bot
- `eq_of_bindParameters` — a handler of an operation is called with two numbers
-/

namespace Parley.MathWiz

variable {γ : Type}

-- ════════════════════════════════════════════════════════════════════════
-- 32-bit numbers
-- ════════════════════════════════════════════════════════════════════════

theorem int32?_eq_some_iff {n : Int} {i : Int32} : int32? n = some i ↔ i.toInt = n := by
  constructor
  · intro h
    unfold int32? at h
    split at h
    · next hrange =>
      cases h
      have hbelow : Int32.minValue.toInt = -2 ^ 31 := Int32.toInt_minValue
      have habove : Int32.maxValue.toInt = 2 ^ 31 - 1 := Int32.toInt_maxValue
      exact Int32.toInt_ofInt_of_le (by omega) (by omega)
    · cases h
  · rintro rfl
    rw [int32?, if_pos ⟨i.minValue_le_toInt, i.toInt_le⟩, Int32.ofInt_toInt]

theorem int32?_eq_none_iff {n : Int} : int32? n = none ↔ ∀ i : Int32, i.toInt ≠ n := by
  rw [Option.eq_none_iff_forall_ne_some]
  exact forall_congr' fun i => not_congr int32?_eq_some_iff

/-- A quotient is a 32-bit number unless it is that of the least number by minus one. -/
theorem exists_toInt_eq_tdiv_iff {a b : Int32} :
    (∃ i : Int32, i.toInt = a.toInt.tdiv b.toInt) ↔ ¬(a = Int32.minValue ∧ b = -1) := by
  have hbelow := a.le_toInt
  have habove := a.toInt_lt
  constructor
  · rintro ⟨i, hi⟩ ⟨rfl, rfl⟩
    have hquotient : Int32.minValue.toInt.tdiv (-1 : Int32).toInt = 2 ^ 31 := by decide
    have := i.toInt_lt
    omega
  · intro hother
    suffices hrange : -2 ^ 31 ≤ a.toInt.tdiv b.toInt ∧ a.toInt.tdiv b.toInt < 2 ^ 31 from
      ⟨_, Int32.toInt_ofInt_of_le hrange.1 hrange.2⟩
    by_cases hone : b.toInt.natAbs = 1
    · rcases Int.natAbs_eq_iff.1 hone with hb | hb
      · rw [hb, show ((1 : Nat) : Int) = 1 from rfl, Int.tdiv_one]
        exact ⟨hbelow, habove⟩
      · have hleast : a.toInt ≠ -2 ^ 31 := fun ha =>
          hother ⟨Int32.toInt_inj.1 ha, Int32.toInt_inj.1 hb⟩
        rw [hb, show ((1 : Nat) : Int) = 1 from rfl, Int.tdiv_neg, Int.tdiv_one]
        omega
    · -- by any other number the magnitude is halved at least
      have hmagnitude := Int.natAbs_tdiv a.toInt b.toInt
      have hhalf : a.toInt.natAbs / b.toInt.natAbs ≤ a.toInt.natAbs / 2 := by
        rcases Nat.eq_zero_or_pos b.toInt.natAbs with hzero | hpos
        · rw [hzero, Nat.div_zero]
          exact Nat.zero_le _
        · exact Nat.div_le_div_left (by omega) (by decide)
      change _ = a.toInt.natAbs / b.toInt.natAbs at hmagnitude
      omega

-- ════════════════════════════════════════════════════════════════════════
-- Operations
-- ════════════════════════════════════════════════════════════════════════

/-- The operations of the bot. -/
inductive Operation
  | times
  | plus
  | minus
  | divided
  deriving Repr, DecidableEq

namespace Operation

/-- The answer about two numbers. -/
def answer : Operation → Int32 → Int32 → Reaction γ
  | times => MathWiz.times
  | plus => MathWiz.plus
  | minus => MathWiz.minus
  | divided => MathWiz.divided

/-- The words of the operation, as they stand between two numbers. -/
def words : Operation → String
  | times => " times "
  | plus => " plus "
  | minus => " minus "
  | divided => " divided by "

/-- The exact result, rounded toward zero if it is a quotient. There is no quotient by zero. -/
def result? : Operation → Int32 → Int32 → Option Int
  | times, a, b => some (a.toInt * b.toInt)
  | plus, a, b => some (a.toInt + b.toInt)
  | minus, a, b => some (a.toInt - b.toInt)
  | divided, a, b => if b = 0 then none else some (a.toInt.tdiv b.toInt)

/-- How the answer about two numbers ends: with the exact result where it is a 32-bit number, and
else with a failure, but for one quotient. -/
inductive Ends (op : Operation) (a b : Int32) : Ending γ → Prop
  /-- The exact result is stated. -/
  | stated {n : Int32} (h : op.result? a b = some n.toInt) :
      Ends op a b (.reply (.text (digits a ++ op.words ++ digits b ++ " is " ++ digits n)))
  /-- There is no result. -/
  | undefined (h : op.result? a b = none) :
      Ends op a b (.failure ("cannot divide " ++ digits a ++ " by zero"))
  /-- The result is out of range. -/
  | overflow {n : Int} (hop : op ≠ divided) (h : op.result? a b = some n)
      (hn : ∀ i : Int32, i.toInt ≠ n) :
      Ends op a b (.failure (digits a ++ op.words ++ digits b ++ " overflows"))
  /-- The quotient is out of range. -/
  | panicked (hop : op = divided) (ha : a = Int32.minValue) (hb : b = -1) :
      Ends op a b (.panic "attempt to divide with overflow")

variable {op : Operation} {a b : Int32} {n : Int} {e : Ending γ}

theorem result?_divided (hb : b ≠ 0) : divided.result? a b = some (a.toInt.tdiv b.toInt) :=
  if_neg hb

/-- What is not a quotient has an exact result, and is answered by it. -/
theorem answer_of_ne (hop : op ≠ divided) (h : op.result? a b = some n) :
    (op.answer a b : Reaction γ) = MathWiz.answer a b op.words n := by
  cases op with
  | divided => exact absurd rfl hop
  | times | plus | minus =>
    cases h
    rfl

theorem answer_divided (hb : b ≠ 0) {i : Int32} (hi : i.toInt = a.toInt.tdiv b.toInt) :
    (divided.answer a b : Reaction γ) =
      .text (digits a ++ " divided by " ++ digits b ++ " is " ++ digits i) := by
  change MathWiz.divided a b = _
  rw [MathWiz.divided, if_neg hb, int32?_eq_some_iff.2 hi]

theorem answer_divided_least :
    (divided.answer Int32.minValue (-1) : Reaction γ) =
      ⟨[], .panic "attempt to divide with overflow"⟩ := by
  have hnone : int32? (Int32.minValue.toInt.tdiv (-1 : Int32).toInt) = none := by decide
  change MathWiz.divided _ _ = _
  rw [MathWiz.divided, if_neg (by decide), hnone]

theorem answer_of_ends (h : op.Ends a b e) : (op.answer a b : Reaction γ) = ⟨[], e⟩ := by
  cases h with
  | @stated i hi =>
    by_cases hop : op = divided
    · subst hop
      by_cases hb : b = 0
      · rw [result?, if_pos hb] at hi
        cases hi
      · rw [result?_divided hb] at hi
        exact answer_divided hb (Option.some.inj hi).symm
    · rw [answer_of_ne hop hi, MathWiz.answer, int32?_eq_some_iff.2 rfl]
      rfl
  | undefined hnone =>
    cases op with
    | times | plus | minus => cases hnone
    | divided =>
      have hb : b = 0 := by
        by_contra hb
        rw [result?_divided hb] at hnone
        cases hnone
      exact if_pos hb
  | overflow hop hsome hout =>
    rw [answer_of_ne hop hsome, MathWiz.answer,
      int32?_eq_none_iff.2 hout]
  | panicked hop ha hb =>
    rw [hop, ha, hb]
    exact answer_divided_least

theorem exists_ends (op : Operation) (a b : Int32) : ∃ e : Ending γ, op.Ends a b e := by
  cases hexact : op.result? a b with
  | none => exact ⟨_, .undefined hexact⟩
  | some n =>
    by_cases hn : ∃ i : Int32, i.toInt = n
    · obtain ⟨i, rfl⟩ := hn
      exact ⟨_, .stated hexact⟩
    · by_cases hop : op = divided
      · subst hop
        have hb : b ≠ 0 := by
          rintro rfl
          cases hexact
        rw [result?_divided hb] at hexact
        rw [← Option.some.inj hexact, exists_toInt_eq_tdiv_iff, not_not] at hn
        exact ⟨_, .panicked rfl hn.1 hn.2⟩
      · exact ⟨_, .overflow hop hexact (not_exists.1 hn)⟩

theorem Ends.unique {e' : Ending γ} (h : op.Ends a b e) (h' : op.Ends a b e') : e = e' :=
  congrArg Reaction.ending ((answer_of_ends h).symm.trans (answer_of_ends h'))

end Operation

-- ════════════════════════════════════════════════════════════════════════
-- Handlers
-- ════════════════════════════════════════════════════════════════════════

/-- How a handler expects its operation to be written. -/
inductive Wording
  | sign (op : Operation)
  | words (op : Operation)
  deriving Repr, DecidableEq

namespace Wording

/-- The operation. -/
def operation : Wording → Operation
  | sign op | words op => op

/-- The identity of the handler. -/
def identity : Wording → String
  | sign .times => "times"
  | sign .plus => "plus"
  | sign .minus => "minus"
  | sign .divided => "divided"
  | words .times => "times_words"
  | words .plus => "plus_words"
  | words .minus => "minus_words"
  | words .divided => "divided_words"

/-- What stands between the placeholders of the pattern. -/
def separator : Wording → String
  | sign .times => " ?[*x] ?"
  | sign .plus => " ?+ ?"
  | sign .minus => " ?- ?"
  | sign .divided => " ?/ ?"
  | words op => op.words

/-- The pattern of the handler. -/
def pattern (w : Wording) : String :=
  "what is \x7ba\x7d" ++ w.separator ++ "\x7bb\x7d"

/-- The registration of the handler. -/
def registration (w : Wording) : Registration γ :=
  binary w.identity w.pattern w.operation.answer

/-- All of them, in the order of their identities. -/
def all : List Wording :=
  [sign .divided, words .divided, sign .minus, words .minus, sign .plus, words .plus, sign .times,
    words .times]

/-- The handler takes two numbers and gives the answer of the operation about them. -/
structure Performs (w : Wording) (h : Handler γ) : Prop where
  identity : h.identity = w.identity
  bindings : h.bindings = [.capture textFacet "a" .int, .capture textFacet "b" .int]
  action (a b : Int32) : h.action ⟨[.int a, .int b]⟩ = w.operation.answer a b

end Wording

/-- The questions with an answer of their own. -/
inductive Special
  | sum
  | product
  deriving Repr, DecidableEq

namespace Special

/-- The identity of the handler. -/
def identity : Special → String
  | sum => "2_plus_2"
  | product => "2_times_2"

/-- The pattern of the handler. -/
def pattern : Special → String
  | sum => "what is 2 ?+ ?2"
  | product => "what is 2 ?[*x] ?2"

/-- The answer. -/
def reply : Special → String
  | sum => "The same thing as 2 x 2"
  | product => "The same thing as 2 + 2"

/-- The registration of the handler. -/
def registration (x : Special) : Registration γ :=
  { identity := x.identity
    patterns := [(textFacet, x.pattern)]
    action := fun _ => .text x.reply }

/-- The handler takes nothing and always gives the answer. -/
structure Answers (x : Special) (h : Handler γ) : Prop where
  identity : h.identity = x.identity
  bindings : h.bindings = []
  action (args : Args) : h.action args = .text x.reply

end Special

/-- The registrations of the bot, in the order of their identities. -/
def sorted : List (Registration γ) :=
  [Special.sum, Special.product].map Special.registration ++
    Wording.all.map Wording.registration

theorem perm_sorted : (roster : Roster γ).registrations.Perm sorted := by
  have hroster : (roster : Roster γ).registrations =
      [Special.product, Special.sum].map Special.registration ++
        [Wording.sign .times, .words .times, .sign .plus, .words .plus, .sign .minus,
          .words .minus, .sign .divided, .words .divided].map Wording.registration := rfl
  rw [hroster]
  exact (List.Perm.map _ (by decide)).append (List.Perm.map _ (by decide))

theorem identities_sorted :
    (sorted : List (Registration γ)).map Registration.identity =
      ["2_plus_2", "2_times_2", "divided", "divided_words", "minus", "minus_words", "plus",
        "plus_words", "times", "times_words"] := rfl

/-- The bot does not depend on the order in which its handlers are registered. -/
theorem group_eq_build_sorted : (group : Group γ) = Roster.build ⟨"math_wiz", false, sorted⟩ := by
  have hnodup : ((roster : Roster γ).registrations.map Registration.identity).Nodup := by
    rw [(perm_sorted.map Registration.identity).nodup_iff, identities_sorted]
    decide
  exact Roster.build_eq_of_perm "math_wiz" false perm_sorted hnodup

theorem pairwise_sorted :
    (sorted : List (Registration γ)).Pairwise fun r r' => r.identity ≤ r'.identity := by
  rw [← List.pairwise_map (f := Registration.identity) (R := (· ≤ ·)), identities_sorted]
  decide

/-- The candidates are the handlers that accept the message, in the order of their identities. -/
theorem candidates_eq (m : Message) :
    selectCandidates m (group : Group γ).handlers =
      (Registration.built false sorted).filter fun h => h.accepts m := by
  rw [group_eq_build_sorted]
  exact Roster.candidates_of_pairwise pairwise_sorted m

/-- Every handler of the bot is one of an operation, or a special case. -/
theorem exists_of_mem_handlers {h : Handler γ} (hh : h ∈ (group : Group γ).handlers) :
    (∃ w : Wording, w.Performs h) ∨ ∃ x : Special, x.Answers h := by
  rw [group_eq_build_sorted, Roster.handlers_build, (perm_sortHandlers _).mem_iff,
    Registration.mem_built_iff] at hh
  obtain ⟨r, hr, hbuild⟩ := hh
  have hgives := Registration.gives_of_build hbuild
  rcases List.mem_append.1 hr with hr | hr
  · obtain ⟨x, -, rfl⟩ := List.mem_map.1 hr
    exact .inr ⟨x, hgives.identity, hgives.bindings, fun args => by rw [hgives.action]; rfl⟩
  · obtain ⟨w, -, rfl⟩ := List.mem_map.1 hr
    exact .inl ⟨w, hgives.identity, hgives.bindings, fun a b => by rw [hgives.action]; rfl⟩

-- ════════════════════════════════════════════════════════════════════════
-- Arguments
-- ════════════════════════════════════════════════════════════════════════

theorem convert_int {raw : Option String} {v : Value} (h : convert raw .int = .ok v) :
    ∃ n, v = .int n := by
  cases raw with
  | none =>
    cases h
    exact ⟨0, rfl⟩
  | some raw =>
    rw [convert, if_neg (by decide), readValue] at h
    cases hread : readInteger 0x80000000 0x7FFFFFFF (Text.trim raw.toList) with
    | ok n =>
      rw [hread] at h
      cases h
      exact ⟨_, rfl⟩
    | error e =>
      rw [hread] at h
      cases h

/-- Both numbers come from one match of the pattern, and the first is converted before the
second. -/
theorem bindParameters_eq {w : Wording} {h : Handler γ} (hperforms : w.Performs h) (m : Message) :
    let value (name : String) := (h.captures m textFacet).bind fun t => t.first? name
    bindParameters m h =
      match convert (value "a") .int, convert (value "b") .int with
      | .ok a, .ok b => .ok ⟨[a, b]⟩
      | .ok _, .error e => .error e
      | .error e, _ => .error e := by
  intro value
  rw [bindParameters_eq_mapM, hperforms.bindings, List.mapM_cons, List.mapM_cons, List.mapM_nil]
  change Except.map _ (convert (value "a") .int >>= fun v =>
    (convert (value "b") .int >>= fun w => .ok [w]) >>= fun vs => .ok (v :: vs)) = _
  cases convert (value "a") .int with
  | error e => rfl
  | ok a => cases convert (value "b") .int <;> rfl

/-- A handler of an operation is called with two numbers. -/
theorem eq_of_bindParameters {w : Wording} {h : Handler γ} (hperforms : w.Performs h)
    {m : Message} {args : Args} (hbind : bindParameters m h = .ok args) :
    ∃ a b, args = ⟨[.int a, .int b]⟩ := by
  rw [bindParameters_eq hperforms] at hbind
  split at hbind
  · next v v' hv hv' =>
    obtain ⟨a, rfl⟩ := convert_int hv
    obtain ⟨b, rfl⟩ := convert_int hv'
    cases hbind
    exact ⟨a, b, rfl⟩
  · cases hbind
  · cases hbind

end Parley.MathWiz
