import Parley.Bots.Hashtags
import Parley.Bots.KnockKnock
import Parley.Bots.MathWiz
import Parley.Channel.Console
import Parley.Config

/-!
# The program

The bots talk on the console; mail and publish-subscribe are switched on by the environment.

## Main definitions

- `Topic` — the groups of handlers that the console talks to
- `Program.start` — what the environment switches on
- `Program.run` — what the program writes for an environment and an input

## Design notes

Whether a server of a configured channel can be reached is not seen from the console, so those
channels appear here only by their settings.
-/

namespace Parley

/-- The groups that a conversation on the console can be with. -/
inductive Topic
  | mathWiz
  | knockKnock
  | whosThere
  | punchline
  | hashtags
  deriving Repr, DecidableEq

/-- The group of a topic. -/
def Topic.group : Topic → Group Topic
  | mathWiz => MathWiz.group
  | knockKnock => (KnockKnock.roster whosThere).build
  | whosThere => (KnockKnock.whosThereRoster punchline).build
  | punchline => KnockKnock.punchlineRoster.build
  | hashtags => Hashtags.group

/-- What stops the program. -/
inductive ProgramError
  | config (e : ConfigError)
  | channel (e : ChannelError)
  deriving Repr, DecidableEq

namespace ProgramError

/-- The error in words. -/
def message : ProgramError → String
  | config e => "Configuration error: " ++ e.message
  | channel e => "Channel error: " ++ e.message

/-- The error with the names of its kinds. -/
def shown : ProgramError → String
  | config e => "Config(" ++ e.shown ++ ")"
  | channel e => "Channel(" ++ e.shown ++ ")"

end ProgramError

namespace Program

/-- The variables that the program reads. -/
def keys : List String :=
  [deliveryLevelKey, mentionsKey, MailConfig.hostKey, MailConfig.portKey, MailConfig.usernameKey,
    MailConfig.passwordKey, MailConfig.folderKey, MailConfig.intervalKey, PubSubConfig.urlKey,
    PubSubConfig.subjectKey, PubSubConfig.replySubjectKey]

/-- What the program has written when it ends. -/
structure Report where
  /-- What is on the standard output. -/
  stdout : String
  /-- What is on the standard error output. -/
  stderr : String
  /-- The exit code. -/
  exitCode : UInt8
  deriving Repr, DecidableEq

/-- The greeting. -/
def banner : String :=
  "🤖 Chatterbox v0.1.0\n   Type a message and press Enter. /quit to exit.\n\n"

/-- The line on the mail channel. -/
def mailLine (c : MailConfig) : String :=
  "   Mail: enabled (IMAP: " ++ c.host ++ ":" ++ toString c.port ++ ", folder: " ++ c.folder ++
    ", every " ++ toString c.interval ++ "s)\n"

/-- The line on the publish-subscribe channel. -/
def pubSubLine (c : PubSubConfig) : String :=
  "   Pub/sub: enabled (" ++ c.url ++ ", subject: " ++ c.subject ++ ", replies: " ++
    c.replySubject.getD "off" ++ ")\n"

/-- The line on all channels. -/
def channelsLine (mail : Option MailConfig) (pubSub : Option PubSubConfig) : String :=
  let names := ["cli"] ++ (mail.map fun _ => "mail").toList ++
    (pubSub.map fun _ => "pubsub").toList
  "   Channels: " ++ ", ".intercalate names ++ "\n\n"

/-- The account that the console talks to. -/
def console (c : RouterConfig) : Microblog Topic :=
  { dispatcher := { level := c.deliveryLevel }
    group := Topic.group
    targets := [.mathWiz, .knockKnock, .hashtags]
    mentions := c.mentions }

/-- Shows what the environment switches on, and gives the account that the console talks to. -/
def start (env : Environment) : Traced (Except ProgramError (Microblog Topic)) := do
  match ← RouterConfig.read env with
  | .error e => pure (.error (.config e))
  | .ok router =>
    Console.write banner
    match ← MailConfig.read env with
    | .error e => pure (.error (.config e))
    | .ok mail =>
      Console.write ((mail.map mailLine).getD "")
      let pubSub ← PubSubConfig.read env
      Console.write ((pubSub.map pubSubLine).getD "")
      Console.write (channelsLine mail pubSub)
      pure (.ok (console router))

/-- A session: what the environment switches on, and then the console. -/
def session (env : Environment) (input : List UInt8) :
    Act (Microblog.State Topic) (Except ProgramError Nat) := do
  match ← (start env : Traced _) with
  | .error e => pure (.error e)
  | .ok c =>
    match ← Console.run c input with
    | .error e => pure (.error (.channel e))
    | .ok count => pure (.ok count)

/-- What a run showed on the terminal. -/
def shownText (events : List Event) : String :=
  String.join (events.filterMap fun
    | .shown text => some text
    | _ => none)

/-- Postings as lines of the output. -/
def outputText (postings : List Posting) : String :=
  String.join (postings.map fun p => p.text ++ "\n")

/-- The last line of a session that an error ends. -/
def errorLine (e : ProgramError) : String :=
  "Error: " ++ e.shown ++ "\n"

/-- What is left of a session when it ends. -/
def report (step : Step (Microblog.State Topic) (Except ProgramError Nat)) : Report :=
  let stdout := outputText step.state.postings
  let stderr := shownText step.events
  match step.result with
  | .ok (.ok _) => { stdout, stderr, exitCode := 0 }
  | .ok (.error e) => { stdout, stderr := stderr ++ errorLine e, exitCode := 1 }
  | .error message => { stdout, stderr := stderr ++ message ++ "\n", exitCode := 101 }

/-- What the program writes for an environment and the bytes of its input. -/
def run (env : Environment) (input : List UInt8) : Report :=
  report (session env input {})

end Program

end Parley
