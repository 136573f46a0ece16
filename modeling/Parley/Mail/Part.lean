import Parley.Mail.ContentType
import Parley.Mail.Transfer

/-!
# The parts of a mail

A mail is one part, or several between boundaries, each with a header of its own. The parts are
listed as they stand in the mail, a part with parts in it before those. A mail within a mail is one
part, whatever it holds.

## Main definitions

- `Part` — what a part holds
- `Header`, `Entity` — the header of a part, and the part with it
- `Scope`, `Frame` — what the part that is being read stands in
- `PartReader` — the state of reading a mail
- `readParts` — the parts of a mail

## Design notes

A part whose encoding is broken, or that no boundary ends, is shown as the text that it is made of,
whatever its header says, and so is a mail within a mail that has no header.
-/

namespace Parley.Mail

open Parley.Text

/-- What a part holds. -/
inductive Part
  /-- Text, other than markup. -/
  | text (s : String)
  /-- Markup. -/
  | html (s : String)
  /-- Something that is no text. -/
  | binary
  /-- A mail. -/
  | message
  /-- Parts, which follow. -/
  | multipart
  deriving Repr, DecidableEq

/-- The kinds of content that parts are told apart by. -/
inductive Content
  | text
  | html
  | message
  | multipart
  | other
  deriving Repr, DecidableEq

/-- The kind of content of a type. -/
def Content.ofType (t : ContentType) : Content :=
  if t.kind = "multipart" then .multipart
  else if t.kind = "text" then if t.subkind = some "html" then .html else .text
  else if t.kind = "message" ∧ (t.subkind = some "rfc822" ∨ t.subkind = some "global") then
    .message
  else .other

/-- What a part with this kind of content holds, of which `s` is the text. -/
def Content.part (s : String) : Content → Part
  | .text => .text s
  | .html => .html s
  | .message => .message
  | .multipart | .other => .binary

/-- The content type of a part whose header names none: text, or a mail in a digest. -/
def ContentType.implied (inDigest : Bool) : ContentType :=
  if inDigest then ⟨"message", some "rfc822", []⟩ else ⟨"text", some "plain", []⟩

/-- The header of a part. -/
structure Header where
  /-- Its fields. -/
  fields : List Field
  /-- The content type of the part. -/
  type : ContentType
  deriving Repr, DecidableEq

/-- The header of these fields. -/
def Header.ofFields (inDigest : Bool) (fields : List Field) : Header :=
  ⟨fields, ((lastField? "content-type" fields).bind Field.contentType?).getD (.implied inDigest)⟩

/-- The encoding that a header names. -/
def Header.transfer (h : Header) : Transfer :=
  .ofName ((lastField? "content-transfer-encoding" h.fields).bind Field.text?)

/-- A part with its header. -/
structure Entity where
  /-- Its header. -/
  header : Header
  /-- What it holds. -/
  part : Part
  deriving Repr, DecidableEq

/-- What a part without parts in it holds, of which `body` is what follows the header, and the bytes
after the boundary that ends it, if there is one. -/
def readContent (boundary : Option (List UInt8)) (header : Header) (content : Content)
    (body : List UInt8) : Part × Option (List UInt8) :=
  let charset := (header.type.parameter? "charset").getD []
  let asText (bs : List UInt8) := String.ofList (decodeCharset charset bs)
  match header.transfer.read boundary body with
  | some (bytes, rest) => (content.part (asText bytes), boundary.map fun _ => rest)
  | none =>
    let (bytes, rest) := rawBody boundary body
    (.text (asText bytes), rest)

/-- What a part may stand in. -/
inductive Container
  /-- The mail itself. -/
  | mail
  /-- Parts between boundaries. -/
  | multipart
  /-- Parts between boundaries that are mails unless they say otherwise. -/
  | digest
  /-- A mail within a mail. -/
  | message
  deriving Repr, DecidableEq

/-- What the part that is being read stands in. -/
structure Scope where
  /-- What it is. -/
  container : Container
  /-- The boundary that ends the part, if there is one. -/
  boundary : Option (List UInt8)
  deriving Repr, DecidableEq

/-- What a scope stands in. -/
structure Frame where
  /-- The scope around. -/
  scope : Scope
  /-- What has been read of the mail around, if the scope is a mail within a mail. -/
  draft : Option (List Entity)
  deriving Repr, DecidableEq

/-- The state of reading a mail. -/
structure PartReader where
  /-- The bytes that have not been read, which begin with the header of a part. -/
  rest : List UInt8
  /-- What the part stands in. -/
  scope : Scope := ⟨.mail, none⟩
  /-- What has been read of the innermost mail, last part first. -/
  draft : List Entity := []
  /-- What the scope stands in, innermost first. -/
  frames : List Frame := []
  deriving Repr, DecidableEq

/-- What comes next. -/
inductive Turn
  /-- A part. -/
  | part (s : PartReader)
  /-- Nothing, with the parts of the mail if it has any, last part first. -/
  | ended (mail : Option (List Entity))
  deriving Repr, DecidableEq

namespace PartReader

/-- What has been read of the outermost mail, last part first. -/
def outermost (s : PartReader) : List Entity :=
  (s.frames.filterMap Frame.draft).getLast?.getD s.draft

/-- The header of these fields, for the part that is being read. -/
def header (s : PartReader) (fields : List Field) : Header :=
  .ofFields (s.scope.container = .digest) fields

/-- The mail when its bytes end within a header, of which `fields` have been read. A mail that has
fields but no part has an empty text for its part. -/
def finish (s : PartReader) (fields : List Field) : Option (List Entity) :=
  if s.draft.isEmpty then
    match s.frames with
    | ⟨_, some draft⟩ :: frames =>
      let text := String.ofList (decodeLossy (rawBody s.scope.boundary s.rest).1)
      some { s with draft := ⟨.ofFields false [], .text text⟩ :: draft, frames }.outermost
    | _ => if fields.isEmpty then none else some [⟨s.header fields, .text ""⟩]
  else some s.outermost

/-- Goes back from a mail within a mail to the mail around it. -/
def leaveMessage (s : PartReader) : PartReader :=
  match s.scope.container, s.frames with
  | .message, ⟨scope, some draft⟩ :: frames =>
    { s with scope := { scope with boundary := s.scope.boundary }, draft, frames }
  | _, _ => s

theorem length_frames_leaveMessage (s : PartReader) :
    s.leaveMessage.frames.length ≤ s.frames.length := by
  unfold leaveMessage
  split <;> simp_all

/-- Goes on after a boundary: to the header of the next part, which may stand in a scope around if
the boundary is the last of its own. -/
def afterBoundary (s : PartReader) : Turn :=
  let s' := s.leaveMessage
  match afterLastBoundary? s'.rest with
  | none => .part { s' with rest := skipLineEnd s'.rest }
  | some rest =>
    match _h : s'.frames with
    | [] => .ended (some s'.outermost)
    | frame :: frames =>
      let s' := { s' with scope := frame.scope, frames }
      match frame.scope.boundary.bind fun boundary => seekBoundary boundary rest with
      | none => .ended (some s'.outermost)
      | some rest => afterBoundary { s' with rest }
termination_by s.frames.length
decreasing_by
  have := length_frames_leaveMessage s
  have : s.leaveMessage.frames.length = frames.length + 1 := by
    simpa using congrArg List.length _h
  omega

/-- Reads a part without parts in it, of which `body` is what follows the header. -/
def readLeaf (s : PartReader) (header : Header) (content : Content) (body : List UInt8) : Turn :=
  let (part, rest) := readContent s.scope.boundary header content body
  let s := { s with draft := ⟨header, part⟩ :: s.draft }
  match rest with
  | some rest => afterBoundary { s with rest }
  | none => .ended (some s.outermost)

/-- Enters a part with parts in it, of which `rest` is what follows the first boundary. -/
def enterMultipart (s : PartReader) (header : Header) (container : Container)
    (boundary rest : List UInt8) : PartReader :=
  { rest := skipLineEnd rest
    scope := ⟨container, some boundary⟩
    draft := ⟨header, .multipart⟩ :: s.draft
    frames := ⟨s.scope, none⟩ :: s.frames }

/-- Enters a mail within the mail, which lies between the boundaries of the part. -/
def enterMessage (s : PartReader) (header : Header) (body : List UInt8) : PartReader :=
  { rest := body
    scope := ⟨.message, s.scope.boundary⟩
    frames :=
      ⟨{ s.scope with boundary := none }, some (⟨header, .message⟩ :: s.draft)⟩ :: s.frames }

/-- Reads a header, and what follows it up to the next header. -/
def step (s : PartReader) : Turn :=
  match readHeader s.rest with
  | (fields, none) => .ended (s.finish fields)
  | (fields, some body) =>
    let header := s.header fields
    match Content.ofType header.type with
    | .multipart =>
      match header.type.parameter? "boundary" with
      | none => s.readLeaf header .multipart body
      | some boundary =>
        let boundary := encode boundary
        match if boundary.isEmpty then none else seekBoundary boundary body with
        | none => s.readLeaf header .text body
        | some rest =>
          let digest := header.type.subkind = some "digest"
          .part (s.enterMultipart header (if digest then .digest else .multipart) boundary rest)
    | .message =>
      if header.transfer = .plain then .part (s.enterMessage header body)
      else s.readLeaf header .message body
    | content => s.readLeaf header content body

/-- Reads parts to the end of the mail. Each header takes one unit of fuel. -/
def run : Nat → PartReader → Option (List Entity)
  | 0, s => some s.outermost
  | fuel + 1, s =>
    match s.step with
    | .part s => run fuel s
    | .ended mail => mail

end PartReader

/-- The parts of a mail; `none` if it has neither fields nor a part. -/
def readParts (bs : List UInt8) : Option (List Entity) :=
  (PartReader.run (bs.length + 1) { rest := bs }).map List.reverse

end Parley.Mail
