import Parley.Program

/-!
# The command line

Reads lines from the standard input as they come, and writes replies to the standard output and
all else to the standard error output.
-/

open Parley

namespace Parley.Program

/-- The values of the variables that the program reads. -/
def readEnvironment : IO Environment := do
  let vars ← keys.mapM fun key => do pure (key, ← IO.getEnv key)
  pure fun key => (vars.lookup key).join

/-- Shows what happened in a step of a session after `count` postings. -/
def showStep {α : Type} (count : Nat) (step : Step (Microblog.State Topic) α) : IO Unit := do
  let stdout ← IO.getStdout
  stdout.putStr (outputText (step.state.postings.drop count))
  stdout.flush
  IO.eprint (shownText step.events)

/-- Answers lines in order. Gives the state after them, or the exit code if the session is over. -/
def answerLines (c : Microblog Topic) (state : Microblog.State Topic) :
    List (List UInt8) → IO (Except UInt32 (Microblog.State Topic))
  | [] => pure (.ok state)
  | line :: rest => do
    let step := Console.answer c line state
    showStep state.postings.length step
    match step.result with
    | .ok .ignored | .ok .answered => answerLines c step.state rest
    | .ok .quit => pure (.error 0)
    | .ok (.failed e) =>
      IO.eprint (errorLine (.channel e))
      pure (.error 1)
    | .error message =>
      IO.eprintln message
      pure (.error 101)

/-- Answers lines as they come; `unread` holds the bytes of a line that has not ended. -/
partial def answerInput (c : Microblog Topic) (state : Microblog.State Topic)
    (unread : List UInt8) : IO UInt32 := do
  let chunk ← (← IO.getStdin).read 4096
  let bytes := unread ++ chunk.toList
  let tail := if chunk.isEmpty then [] else (bytes.reverse.takeWhile (· ≠ 10)).reverse
  match ← answerLines c state (Text.splitLines (bytes.take (bytes.length - tail.length))) with
  | .error code => pure code
  | .ok state => if chunk.isEmpty then pure 0 else answerInput c state tail

end Parley.Program

/-- Runs the program and gives its exit code. -/
def main : IO UInt32 := do
  let begun := Program.start (← Program.readEnvironment)
  IO.eprint (Program.shownText begun.events)
  match begun.result with
  | .error message =>
    IO.eprintln message
    pure 101
  | .ok (.error e) =>
    IO.eprint (Program.errorLine e)
    pure 1
  | .ok (.ok c) =>
    IO.eprint (Program.shownText Console.prompt.events)
    Program.answerInput c {} []
