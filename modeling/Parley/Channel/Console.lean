import Parley.Channel.Error
import Parley.Channel.Microblog

/-!
# The console

Lines typed at a terminal are posts by one local user on a micro-blog account.

## Main definitions

- `localUser` — the author of all lines
- `Console.answer` — answers a line
- `Console.run` — answers the lines of an input until it ends or asks to quit

## Design notes

A prompt is shown before each line that is waited for. Lines are decoded one at a time, so the
lines before one that is no text are answered.
-/

namespace Parley.Console

open Parley.Text

variable {γ : Type}

/-- The author of all lines. -/
def localUser : String :=
  "local-user"

/-- The line that ends a session. -/
def quitCommand : String :=
  "/quit"

/-- Writes a text on the terminal. -/
def write (text : String) : Traced Unit :=
  Traced.emit (.shown text)

/-- Shows the prompt. -/
def prompt : Traced Unit :=
  write "> "

/-- What comes of a line. -/
inductive Progress
  /-- The line was blank. -/
  | ignored
  /-- The line was a post. -/
  | answered
  /-- The line ends the session. -/
  | quit
  /-- The line is no text. -/
  | failed (e : ChannelError)
  deriving Repr, DecidableEq

/-- Answers a line, and shows the next prompt unless the session is over. -/
def answer (c : Microblog γ) (bytes : List UInt8) : Act (Microblog.State γ) Progress :=
  match decode bytes with
  | .error fault => pure (.failed (.io (.notText bytes fault)))
  | .ok chars => do
    let line := String.ofList (trim chars)
    if line = quitCommand then pure .quit
    else if line.isEmpty then
      prompt
      pure .ignored
    else
      let outcomes ← c.deliver ⟨"", localUser, line⟩
      if outcomes.all Outcome.isNoMatch then write "(no handler matched)\n"
      prompt
      pure .answered

/-- Answers lines; `count` posts have been answered before. Gives the number of posts answered,
or the error of a line that is no text. -/
def answerEach (c : Microblog γ) (count : Nat) :
    List (List UInt8) → Act (Microblog.State γ) (Except ChannelError Nat)
  | [] => pure (.ok count)
  | bytes :: rest => do
    match ← answer c bytes with
    | .ignored => answerEach c count rest
    | .answered => answerEach c (count + 1) rest
    | .quit => pure (.ok count)
    | .failed e => pure (.error e)

/-- Answers the lines of an input. -/
def run (c : Microblog γ) (input : List UInt8) :
    Act (Microblog.State γ) (Except ChannelError Nat) := do
  prompt
  answerEach c 0 (splitLines input)

end Parley.Console
