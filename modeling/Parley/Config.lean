import Parley.Journal
import Parley.Text.Blank

/-!
# Configuration

Settings come from environment variables. A setting that is absent takes its default; one that
cannot be read takes its default with a warning, or is an error, as each variable says.

## Main definitions

- `Environment` — the values of variables
- `ConfigError` — what makes a configuration unusable
- `RouterConfig`, `MailConfig`, `PubSubConfig` — the settings of each part, and their `read`
-/

namespace Parley

open Parley.Text

/-- The values of the variables that are set. -/
abbrev Environment := String → Option String

/-- What makes a configuration unusable. -/
inductive ConfigError
  /-- A variable that must have a value has none. -/
  | missing (key : String)
  /-- The value of a variable cannot be read. -/
  | invalid (key reason : String)
  deriving Repr, DecidableEq

namespace ConfigError

/-- The error in words. -/
def message : ConfigError → String
  | missing key => "Missing required environment variable: " ++ key
  | invalid key reason => "Invalid configuration value for " ++ key ++ ": " ++ reason

/-- The error with the name of its kind. -/
def shown : ConfigError → String
  | missing key => "MissingEnvVar(" ++ quoted key ++ ")"
  | invalid key reason =>
    "InvalidValue \x7b key: " ++ quoted key ++ ", message: " ++ quoted reason ++ " \x7d"

end ConfigError

/-- The largest value of a 64-bit word. -/
def maxWord : Nat :=
  0xFFFFFFFFFFFFFFFF

/-- A text with capital ASCII letters made small. -/
def lowercase (s : List Char) : String :=
  String.ofList (s.map Char.toLower)

/-- The level of a name in any case, or of a number from one, the most important, to five. -/
def Level.read? (s : List Char) : Option Level :=
  match readNatural maxWord s with
  | .ok 1 => some .error
  | .ok 2 => some .warn
  | .ok 3 => some .info
  | .ok 4 => some .debug
  | .ok 5 => some .trace
  | _ =>
    match lowercase s with
    | "error" => some .error
    | "warn" => some .warn
    | "info" => some .info
    | "debug" => some .debug
    | "trace" => some .trace
    | _ => none

/-- Why a text is no level. -/
def Level.expectation : String :=
  "error parsing level: expected one of \"error\", \"warn\", \"info\", \"debug\", \"trace\", " ++
    "or a number 1-5"

/-- The truth value of a switch, in any case and with blanks around it. -/
def readFlag? (s : List Char) : Option Bool :=
  match lowercase (trim s) with
  | "1" | "true" | "yes" | "on" => some true
  | "0" | "false" | "no" | "off" => some false
  | _ => none

/-- Reads a switch; a value that is none gives the default, with a warning. -/
def readFlag (env : Environment) (key : String) (default : Bool) : Traced Bool :=
  match env key with
  | none => pure default
  | some value =>
    match readFlag? value.toList with
    | some b => pure b
    | none => do
      Traced.log .warn "Unrecognized flag value, using default"
        [("key", key), ("value", value), ("default", toString default)]
      pure default

/-- Reads a number up to a bound; a value that is none gives the default, with a warning. -/
def readNumber (env : Environment) (key : String) (above default : Nat) : Traced Nat :=
  match env key with
  | none => pure default
  | some value =>
    match readNatural above (trim value.toList) with
    | .ok n => pure n
    | .error _ => do
      Traced.log .warn "Unparseable value, using default"
        [("key", key), ("value", value), ("default", toString default)]
      pure default

/-- Reads a variable that must have a value, and not the empty one. -/
def readRequired (env : Environment) (key : String) : Except ConfigError String :=
  match env key with
  | none => .error (.missing key)
  | some value => if value.isEmpty then .error (.missing key) else .ok value

/-- The variable of the level at which deliveries are logged. -/
def deliveryLevelKey : String := "CHATTERBOX_DELIVERY_LOG_LEVEL"

/-- The variable that says whether replies may mention users. -/
def mentionsKey : String := "CHATTERBOX_PREFIX_REPLIES"

/-- The settings of all channels. -/
structure RouterConfig where
  /-- The level at which deliveries are logged. -/
  deliveryLevel : Level := .info
  /-- Whether replies may mention users. -/
  mentions : Bool := true
  deriving Repr, DecidableEq

/-- Reads the settings of all channels. A level that is none is an error. -/
def RouterConfig.read (env : Environment) : Traced (Except ConfigError RouterConfig) :=
  let level : Except ConfigError Level :=
    match env deliveryLevelKey with
    | none => .ok .info
    | some value =>
      match Level.read? (trim value.toList) with
      | some level => .ok level
      | none => .error (.invalid deliveryLevelKey (quoted value ++ ": " ++ Level.expectation))
  match level with
  | .error e => pure (.error e)
  | .ok deliveryLevel => do
    let mentions ← readFlag env mentionsKey true
    pure (.ok { deliveryLevel, mentions })

/-- The settings of the mail channel. -/
structure MailConfig where
  /-- The host of the mailbox. -/
  host : String
  /-- Its port. -/
  port : Nat
  /-- The name of the account. -/
  username : String
  /-- The password of the account. -/
  password : String
  /-- The folder that is polled. -/
  folder : String
  /-- The seconds between two polls. -/
  interval : Nat
  deriving DecidableEq

namespace MailConfig

/-- The variable of the host. -/
def hostKey : String := "MAIL_IMAP_HOST"

/-- The variable of the port. -/
def portKey : String := "MAIL_IMAP_PORT"

/-- The variable of the account. -/
def usernameKey : String := "MAIL_USERNAME"

/-- The variable of the password. -/
def passwordKey : String := "MAIL_PASSWORD"

/-- The variable of the folder. -/
def folderKey : String := "MAIL_FOLDER"

/-- The variable of the seconds between two polls. -/
def intervalKey : String := "MAIL_POLL_INTERVAL_SECS"

/-- Reads the settings of the mail channel, which is off without a host. With one, there must be
an account and its password. -/
def read (env : Environment) : Traced (Except ConfigError (Option MailConfig)) :=
  match env hostKey with
  | none => pure (.ok none)
  | some host => do
    let port ← readNumber env portKey 65535 993
    match readRequired env usernameKey, readRequired env passwordKey with
    | .error e, _ => pure (.error e)
    | _, .error e => pure (.error e)
    | .ok username, .ok password =>
      let interval ← readNumber env intervalKey maxWord 5
      pure (.ok (some
        { host, port, username, password, folder := (env folderKey).getD "INBOX", interval }))

/-- The settings with their names, except for the password. -/
def shown (c : MailConfig) : String :=
  "MailConfig \x7b imap_host: " ++ quoted c.host ++
    ", imap_port: " ++ toString c.port ++
    ", username: " ++ quoted c.username ++
    ", password: SecretBox<str>([REDACTED])" ++
    ", folder: " ++ quoted c.folder ++
    ", poll_interval_secs: " ++ toString c.interval ++ " \x7d"

end MailConfig

/-- The settings of the publish-subscribe channel. -/
structure PubSubConfig where
  /-- Where the broker is. -/
  url : String
  /-- The subject that is subscribed to. -/
  subject : String
  /-- The subject of replies; without it, they are dropped. -/
  replySubject : Option String
  deriving Repr, DecidableEq

namespace PubSubConfig

/-- The variable of the broker. -/
def urlKey : String := "PUBSUB_URL"

/-- The variable of the subject. -/
def subjectKey : String := "PUBSUB_SUBJECT"

/-- The variable of the subject of replies. -/
def replySubjectKey : String := "PUBSUB_REPLY_SUBJECT"

/-- Reads the settings of the publish-subscribe channel, which is off without a broker. Replies on
the subscribed subject would come back as messages, so they are switched off with a warning. -/
def read (env : Environment) : Traced (Option PubSubConfig) :=
  match env urlKey with
  | none => pure none
  | some url =>
    let subject := (env subjectKey).getD "chatterbox"
    match env replySubjectKey with
    | none => pure (some { url, subject, replySubject := none })
    | some reply =>
      if reply = subject then do
        Traced.log .warn "Reply subject equals subscribed subject, replies disabled"
          [("subject", reply)]
        pure (some { url, subject, replySubject := none })
      else pure (some { url, subject, replySubject := some reply })

end PubSubConfig

end Parley
