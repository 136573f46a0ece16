import Parley.Dispatch

/-!
# The arithmetic bot

Answers questions about sums, differences, products and quotients of two 32-bit numbers.

## Main definitions

- `MathWiz.times`, `MathWiz.plus`, `MathWiz.minus`, `MathWiz.divided` — the answers
- `MathWiz.roster`, `MathWiz.group` — the bot
-/

namespace Parley.MathWiz

variable {γ : Type}

/-- The 32-bit number of an integer, if it is in range. -/
def int32? (n : Int) : Option Int32 :=
  if Int32.minValue.toInt ≤ n ∧ n ≤ Int32.maxValue.toInt then some (Int32.ofInt n) else none

/-- A number in decimal digits. -/
def digits (n : Int32) : String :=
  toString n.toInt

/-- The sentence that states an exact result, or a failure if the result is out of range. -/
def answer (a b : Int32) (operation : String) (exact : Int) : Reaction γ :=
  match int32? exact with
  | some n => .text (digits a ++ operation ++ digits b ++ " is " ++ digits n)
  | none => ⟨[], .failure (digits a ++ operation ++ digits b ++ " overflows")⟩

/-- The product. -/
def times (a b : Int32) : Reaction γ :=
  answer a b " times " (a.toInt * b.toInt)

/-- The sum. -/
def plus (a b : Int32) : Reaction γ :=
  answer a b " plus " (a.toInt + b.toInt)

/-- The difference. -/
def minus (a b : Int32) : Reaction γ :=
  answer a b " minus " (a.toInt - b.toInt)

/-- The quotient, rounded toward zero. There is none by zero, and the one quotient that is out of
range ends the run. -/
def divided (a b : Int32) : Reaction γ :=
  if b = 0 then ⟨[], .failure ("cannot divide " ++ digits a ++ " by zero")⟩
  else
    match int32? (a.toInt.tdiv b.toInt) with
    | some n => .text (digits a ++ " divided by " ++ digits b ++ " is " ++ digits n)
    | none => ⟨[], .panic "attempt to divide with overflow"⟩

/-- The handler of an operation on the numbers of a question. -/
def binary (identity pattern : String) (operation : Int32 → Int32 → Reaction γ) :
    Registration γ :=
  { identity := identity
    patterns := [(textFacet, pattern)]
    bindings := [.capture textFacet "a" .int, .capture textFacet "b" .int]
    action := fun args =>
      .withValue (args.int 0) fun a => .withValue (args.int 1) fun b => operation a b }

/-- The registrations of the bot. -/
def roster : Roster γ :=
  { name := "math_wiz"
    registrations :=
      [{ identity := "2_times_2"
         patterns := [(textFacet, "what is 2 ?[*x] ?2")]
         action := fun _ => .text "The same thing as 2 + 2" },
        { identity := "2_plus_2"
          patterns := [(textFacet, "what is 2 ?+ ?2")]
          action := fun _ => .text "The same thing as 2 x 2" },
        binary "times" "what is \x7ba\x7d ?[*x] ?\x7bb\x7d" times,
        binary "times_words" "what is \x7ba\x7d times \x7bb\x7d" times,
        binary "plus" "what is \x7ba\x7d ?+ ?\x7bb\x7d" plus,
        binary "plus_words" "what is \x7ba\x7d plus \x7bb\x7d" plus,
        binary "minus" "what is \x7ba\x7d ?- ?\x7bb\x7d" minus,
        binary "minus_words" "what is \x7ba\x7d minus \x7bb\x7d" minus,
        binary "divided" "what is \x7ba\x7d ?/ ?\x7bb\x7d" divided,
        binary "divided_words" "what is \x7ba\x7d divided by \x7bb\x7d" divided] }

/-- The bot. -/
def group : Group γ :=
  roster.build

end Parley.MathWiz
