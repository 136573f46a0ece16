import Parley.Dispatch

/-!
# The chat command bot

Three commands in the body of a message: to repeat a text, to greet, and to list the commands.

## Main definitions

- `ChatCommands.help` — the list of commands
- `ChatCommands.roster`, `ChatCommands.group` — the bot
-/

namespace Parley.ChatCommands

variable {γ : Type}

/-- The list of commands. -/
def help : String :=
  "Commands available\n" ++
    "help - Displays this message\n" ++
    "echo <text> - Echos the text\n" ++
    "my name is <name> - greets the sender"

/-- Repeats the text after the command. -/
def echo : Registration γ :=
  { identity := "echo"
    patterns := [(bodyFacet, "echo \x7bmessage:.*$\x7d")]
    bindings := [.capture bodyFacet "message" .text]
    action := fun args => .withValue (args.text 0) .text }

/-- Greets by name. -/
def greet : Registration γ :=
  { identity := "greet"
    patterns := [(bodyFacet, "my name is \x7bname\x7d")]
    bindings := [.capture bodyFacet "name" .text]
    action := fun args => .withValue (args.text 0) fun name =>
      .text ("Hello " ++ name ++ ", it is very nice to meet you") }

/-- Lists the commands. -/
def helpCommand : Registration γ :=
  { identity := "help"
    patterns := [(bodyFacet, "help")]
    action := fun _ => .text help }

/-- The registrations of the bot. -/
def roster : Roster γ :=
  { name := "chat_commands", registrations := [echo, greet, helpCommand] }

/-- The bot. -/
def group : Group γ :=
  roster.build

end Parley.ChatCommands
