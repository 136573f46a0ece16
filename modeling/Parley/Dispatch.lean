import Parley.Handler.Group
import Parley.Message

/-!
# Dispatching messages

A message goes to the handlers of a group whose patterns accept its facets: to the first of them
in the order of identities, or to all of them. The delivery hook is asked before a handler is
called and told afterwards, whatever happened in between.

## Main definitions

- `selectCandidates` — the handlers that accept a message
- `bindParameters` — the arguments that a message gives to a handler
- `Invocation`, `Outcome` — what came of a message
- `Dispatcher` — the hook, and the level at which deliveries are logged
- `Dispatcher.invoke`, `Dispatcher.dispatch`, `Dispatcher.dispatchHandlers` — delivery to one
  handler, to a group, and to handlers without a group

## Design notes

Whether a handler can be called is decided in three stages, by the hook, by the conversion of the
arguments and by the handler itself. Each stage has its own constructor of `InvocationError`.
-/

namespace Parley

variable {γ : Type}

/-- Whether all patterns of a handler accept the facets of a message. -/
def Handler.accepts (h : Handler γ) (m : Message) : Bool :=
  h.patterns.entries.all fun e => e.2.accepts (m.get? e.1)

/-- The handlers that accept a message, in the order of their identities. -/
def selectCandidates (m : Message) (hs : List (Handler γ)) : List (Handler γ) :=
  (sortHandlers hs).filter fun h => h.accepts m

/-- What the pattern of a facet captures from a message. -/
def Handler.captures (h : Handler γ) (m : Message) (facet : String) : Option TemplateMatch :=
  (h.patterns.get? facet).bind fun p => p.captures (m.get? facet)

/-- Binds arguments in order. `known` holds the captures of the facets that were needed before, so
that each facet is matched once. -/
def bindFrom (m : Message) (h : Handler γ) (known : List (String × Option TemplateMatch)) :
    List Binding → Except ConversionError (List Value)
  | [] => .ok []
  | b :: rest =>
    match b.placeholder with
    | none => do
      let v ← convert (m.get? b.facet) b.target
      let vs ← bindFrom m h known rest
      pure (v :: vs)
    | some name =>
      let matched := (known.lookup b.facet).getD (h.captures m b.facet)
      do
        let v ← convert (matched.bind fun t => t.first? name) b.target
        let vs ← bindFrom m h ((b.facet, matched) :: known) rest
        pure (v :: vs)

/-- The arguments of a handler, or the error of the first binding that cannot be converted. -/
def bindParameters (m : Message) (h : Handler γ) : Except ConversionError Args :=
  (bindFrom m h [] h.bindings).map Args.mk

/-- Why an invocation has no reply. -/
inductive InvocationError
  /-- An argument could not be converted. -/
  | conversion (identity : String) (e : ConversionError)
  /-- The hook refused the delivery. -/
  | delivery (identity reason : String)
  /-- The handler failed. -/
  | handler (identity reason : String)
  deriving Repr, DecidableEq

namespace InvocationError

/-- The identity of the handler that was to be invoked. -/
def identity : InvocationError → String
  | conversion id _ | delivery id _ | handler id _ => id

/-- The error in words. -/
def message : InvocationError → String
  | conversion id e => "Handler " ++ id ++ " parameter binding failed: " ++ e.message
  | delivery id reason => "Before-delivery hook refused handler " ++ id ++ ": " ++ reason
  | handler id reason => "Handler " ++ id ++ " failed: " ++ reason

end InvocationError

/-- What came of one handler. -/
structure Invocation (γ : Type) where
  /-- The identity of the handler. -/
  identity : String
  /-- Its reply, or why there is none. -/
  result : Except InvocationError (Reply γ)

/-- What came of a message. -/
inductive Outcome (γ : Type)
  /-- No handler accepted it. -/
  | noMatch
  /-- Handlers were invoked, in this order. -/
  | invoked (is : List (Invocation γ))

namespace Outcome

/-- Whether no handler accepted the message. -/
def isNoMatch : Outcome γ → Bool
  | noMatch => true
  | invoked _ => false

/-- The invocations, in order. -/
def invocations : Outcome γ → List (Invocation γ)
  | noMatch => []
  | invoked is => is

/-- The identities of the invoked handlers. -/
def identities (o : Outcome γ) : List String :=
  o.invocations.map Invocation.identity

/-- The replies, in order. -/
def replies (o : Outcome γ) : List (Reply γ) :=
  o.invocations.filterMap fun i => i.result.toOption

/-- The failures, in order. -/
def failures (o : Outcome γ) : List InvocationError :=
  o.invocations.filterMap fun i =>
    match i.result with
    | .ok _ => none
    | .error e => some e

end Outcome

/-- The texts of all replies, in order. -/
def replyTexts (os : List (Outcome γ)) : List String :=
  (os.flatMap Outcome.replies).filterMap Reply.message

/-- A hook around deliveries. -/
structure Hook (γ : Type) where
  /-- The reason why a handler may not be called, if there is one. -/
  refusal : Handler γ → Option String := fun _ => none

/-- Delivers messages to handlers. -/
structure Dispatcher (γ : Type) where
  /-- The hook. -/
  hook : Hook γ := {}
  /-- The level at which deliveries are logged. -/
  level : Level := .info

namespace Dispatcher

/-- The call of a handler with its arguments. -/
def call (h : Handler γ) (args : Args) : Traced (Except InvocationError (Reply γ)) :=
  let r := h.action args
  let ending : Except String (Except InvocationError (Reply γ)) :=
    match r.ending with
    | .reply reply => .ok (.ok reply)
    | .failure reason => .ok (.error (.handler h.identity reason))
    | .panic message => .error message
  ⟨.called h.identity args :: r.events, ending⟩

/-- What happens between the two notices to the hook. -/
def attempt (d : Dispatcher γ) (m : Message) (h : Handler γ) :
    Traced (Except InvocationError (Reply γ)) :=
  match d.hook.refusal h with
  | some reason => pure (.error (.delivery h.identity reason))
  | none =>
    match bindParameters m h with
    | .error e => pure (.error (.conversion h.identity e))
    | .ok args => call h args

/-- Delivers a message to a handler, whether or not its patterns accept it. -/
def invoke (d : Dispatcher γ) (m : Message) (h : Handler γ) : Traced (Invocation γ) := do
  let fields := [("identity", h.identity), ("message", m.text)]
  Traced.log d.level "Invoking handler" fields
  Traced.emit (.before h.identity)
  let result ← (d.attempt m h).closeWith (.after h.identity)
  match result with
  | .ok _ => pure ()
  | .error _ => Traced.log .error "Unable to invoke handler" fields
  pure ⟨h.identity, result⟩

/-- Delivers a message to handlers one after the other. -/
def invokeEach (d : Dispatcher γ) (m : Message) : List (Handler γ) → Traced (List (Invocation γ))
  | [] => pure []
  | h :: rest => do
    let i ← d.invoke m h
    let is ← d.invokeEach m rest
    pure (i :: is)

/-- Delivers a message to the candidates, to all of them or to the first. -/
def run (d : Dispatcher γ) (m : Message) (candidates : List (Handler γ)) (all : Bool) :
    Traced (Outcome γ) := do
  Traced.log .debug "Dispatching"
    [("candidates", toString candidates.length), ("invoke_all", toString all)]
  let is ← d.invokeEach m (if all then candidates else candidates.take 1)
  pure (.invoked is)

/-- Delivers a message to a group. -/
def dispatch (d : Dispatcher γ) (m : Message) (g : Group γ) : Traced (Outcome γ) :=
  match selectCandidates m g.handlers with
  | [] => do
    Traced.log .info "No handler matched" [("group", g.name), ("message", m.text)]
    pure .noMatch
  | h :: rest => d.run m (h :: rest) g.invokeAll

/-- Delivers a message to handlers without a group. The first candidate decides whether all of
them are invoked. -/
def dispatchHandlers (d : Dispatcher γ) (m : Message) (hs : List (Handler γ)) :
    Traced (Outcome γ) :=
  match selectCandidates m hs with
  | [] => do
    Traced.log .info "No handler matched" [("message", m.text)]
    pure .noMatch
  | h :: rest => d.run m (h :: rest) h.invokeAll

/-- Delivers a message to each of some groups. -/
def dispatchEach (d : Dispatcher γ) (m : Message) : List (Group γ) → Traced (List (Outcome γ))
  | [] => pure []
  | g :: rest => do
    let o ← d.dispatch m g
    let os ← d.dispatchEach m rest
    pure (o :: os)

end Dispatcher

end Parley
