import Parley.Conversation.Router
import Parley.Unicode.Classes

/-!
# The micro-blog channel

Posts that mention the bot are messages, and replies are posts in return. Conversations are kept
for each user.

## Main definitions

- `Post`, `Posting` — a post that arrived and one that is sent
- `normalizeText` — a post without the mentions at its start
- `Microblog` — a router, the manner of replies, and the postings that will fail
- `Microblog.deliver` — answers a post
-/

namespace Parley

open Parley.Text Parley.Unicode

variable {γ : Type}

/-- A post that mentions the bot. -/
structure Post where
  /-- The number under which the post can be replied to. -/
  id : String
  /-- The author. -/
  user : String
  /-- The text. -/
  text : String
  deriving Repr, DecidableEq

/-- A post that is sent. -/
structure Posting where
  /-- The text. -/
  text : String
  /-- The post that it replies to. -/
  inReplyTo : Option String
  deriving Repr, DecidableEq

/-- The longest name that a mention can have. -/
def mentionLimit : Nat :=
  15

/-- What follows a mention and the blanks after it, if the text starts with one: an at sign, one
to fifteen word characters, and at least one blank. -/
def afterMention? : List Char → Option (List Char)
  | [] => none
  | c :: cs =>
    if c = '@' then
      let name := cs.takeWhile wordTable.contains
      match cs.dropWhile wordTable.contains with
      | [] => none
      | d :: rest =>
        if 1 ≤ name.length ∧ name.length ≤ mentionLimit ∧ isBlank d then
          some (rest.dropWhile isBlank)
        else none
    else none

/-- What follows a mention is shorter than the text with it. -/
theorem length_afterMention?_lt {s rest : List Char} (h : afterMention? s = some rest) :
    rest.length < s.length := by
  cases s with
  | nil => simp [afterMention?] at h
  | cons c cs =>
    simp only [afterMention?] at h
    split at h
    · split at h
      · simp at h
      · rename_i d tail heq
        split at h
        · have hrest : tail.dropWhile isBlank = rest := Option.some.inj h
          have hname := (List.dropWhile_suffix (l := cs) wordTable.contains).length_le
          have hblank := (List.dropWhile_suffix (l := tail) isBlank).length_le
          rw [heq] at hname
          rw [hrest] at hblank
          simp only [List.length_cons] at hname ⊢
          omega
        · simp at h
    · simp at h

/-- The text without the mentions at its start. -/
def stripMentions (s : List Char) : List Char :=
  match h : afterMention? s with
  | some rest =>
    have : rest.length < s.length := length_afterMention?_lt h
    stripMentions rest
  | none => s
termination_by s.length

/-- The text of a post without the mentions at its start. -/
def normalizeText (s : String) : String :=
  String.ofList (stripMentions s.toList)

/-- A micro-blog account. -/
structure Microblog (γ : Type) where
  /-- Delivers to handlers. -/
  dispatcher : Dispatcher γ := {}
  /-- The groups by their names. -/
  group : γ → Group γ
  /-- The groups that get a message that continues no conversation. -/
  targets : List γ
  /-- Whether replies may mention the user. -/
  mentions : Bool := true
  /-- Which postings fail, counted from the first. -/
  fails : Nat → Bool := fun _ => false

/-- What changes as posts are answered. -/
structure Microblog.State (γ : Type) where
  /-- The pending conversations. -/
  store : Store γ := ∅
  /-- The postings so far, in order. -/
  postings : List Posting := []

namespace Microblog

/-- The name of the channel. -/
def name : String :=
  "microblog"

/-- The router of the account, which tells users apart. -/
def router (c : Microblog γ) : Router γ :=
  { dispatcher := c.dispatcher
    keyFacet := userFacet
    group := c.group
    targets := c.targets }

/-- The text that is posted for a reply, if any. A reply mentions the user if the account allows
it and the reply does not decline. -/
def render (c : Microblog γ) (user : String) (reply : Reply γ) : Option String :=
  let mention (text : String) := "@" ++ user ++ " " ++ text
  match reply with
  | .nothing => none
  | .text text => some (if c.mentions then mention text else text)
  | .response r => r.message.map fun text => if c.mentions && r.mention then mention text else text

/-- The message of a post. -/
def message (post : Post) : Message :=
  ({ channel := name : Message }.insert userFacet post.user).insert textFacet
    (normalizeText post.text)

/-- Sends texts in reply to a post; a failure is logged and changes nothing else. -/
def sendEach (c : Microblog γ) (post : Post) : List String → Act (State γ) Unit
  | [] => pure ()
  | text :: rest => do
    let state ← Act.get
    Act.modify fun s => { s with postings := s.postings ++ [⟨text, some post.id⟩] }
    if c.fails state.postings.length then
      Traced.log .warn "Reply post failed" [("user", post.user)]
    c.sendEach post rest

/-- Answers a post. -/
def deliver (c : Microblog γ) (post : Post) : Act (State γ) (List (Outcome γ)) := do
  Traced.log .info "Post received" [("user", post.user), ("text", normalizeText post.text)]
  let outcomes ← Act.zoom State.store (fun store s => { s with store })
    (c.router.route (message post))
  c.sendEach post ((outcomes.flatMap Outcome.replies).filterMap (c.render post.user))
  pure outcomes

end Microblog

end Parley
