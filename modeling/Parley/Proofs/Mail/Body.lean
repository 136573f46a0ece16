import Mathlib.Data.List.Find
import Parley.Channel.Mail

/-!
# The body of a mail

The body of a mail is meant to be its first part that is plain text, or else the words of its first
part that is markup. What a part is follows from its content type. The reader, though, shows parts
of other types as text too, and the body is the first part that is shown as text. This is the
meant one unless a part of another type is the first that is shown so.

## Main definitions

- `Entity.IsPlain`, `Entity.IsMarkup` — parts that are plain text, and parts that are markup
- `Documented` — the body that is meant
- `Entity.Faithful` — how the text in a part is shown
- `PartReader.All`, `Turn.All` — something holds of all parts that have been read

## Main results

- `PartReader.All.step`, `PartReader.All.run` — one step of the reader shows parts in this way, and
  so does the reading of a mail
- `existsUnique_documented` — there is one body that is meant
- `documented_of_isPlain`, `documented_of_none` — when it is the body
- `body_is_documented_or_first_shown` — what the body of a mail is
-/

namespace Parley.Mail

open Parley.Text

variable {P : Entity → Prop}

-- ════════════════════════════════════════════════════════════════════════
-- The body that is meant
-- ════════════════════════════════════════════════════════════════════════

namespace Entity

/-- The part is plain text. -/
def IsPlain (e : Entity) : Prop :=
  e.header.type.kind = "text" ∧ e.header.type.subkind = some "plain"

/-- The part is markup. -/
def IsMarkup (e : Entity) : Prop :=
  e.header.type.kind = "text" ∧ e.header.type.subkind = some "html"

instance : DecidablePred IsPlain :=
  fun _ => inferInstanceAs (Decidable (_ ∧ _))

instance : DecidablePred IsMarkup :=
  fun _ => inferInstanceAs (Decidable (_ ∧ _))

/-- What the part is decoded to, if it is text of some kind. -/
def decoded? (e : Entity) : Option String :=
  match e.part with
  | .text s | .html s => some s
  | .binary | .message | .multipart => none

/-- The part is shown as text. -/
def isText (e : Entity) : Bool :=
  e.part.text?.isSome

/-- Text other than markup is shown as text, whatever it is besides. Markup is shown as such or,
if it cannot be decoded, as text, and nothing else is shown as markup. -/
structure Faithful (e : Entity) : Prop where
  text : e.header.type.kind = "text" → ¬e.IsMarkup → ∃ s, e.part = .text s
  markup : e.IsMarkup → ∃ s, e.part = .html s ∨ e.part = .text s
  html : ∀ s, e.part = .html s → e.IsMarkup

theorem IsPlain.not_isMarkup {e : Entity} (h : e.IsPlain) : ¬e.IsMarkup := by
  rintro ⟨-, hhtml⟩
  rw [h.2] at hhtml
  exact absurd hhtml (by decide)

theorem Faithful.of_text (header : Header) (s : String) : Faithful ⟨header, .text s⟩ where
  text _ _ := ⟨s, rfl⟩
  markup _ := ⟨s, .inr rfl⟩
  html := nofun

/-- What is neither text nor shown as markup. -/
theorem Faithful.of_other {e : Entity} (hkind : e.header.type.kind ≠ "text")
    (hpart : ∀ s, e.part ≠ .html s) : e.Faithful where
  text h := absurd h hkind
  markup h := absurd h.1 hkind
  html s h := absurd h (hpart s)

theorem isText_iff {e : Entity} : e.isText ↔ ∃ s, e.part = .text s := by
  rw [isText]
  cases e.part <;> simp [Part.text?]

theorem Faithful.isText_of_isPlain {e : Entity} (h : e.Faithful) (hplain : e.IsPlain) :
    e.isText :=
  isText_iff.mpr (h.text hplain.1 hplain.not_isMarkup)

/-- Text of any kind is decoded. -/
theorem Faithful.exists_decoded {e : Entity} (h : e.Faithful)
    (hkind : e.header.type.kind = "text") : ∃ s, e.decoded? = some s := by
  by_cases hmarkup : e.IsMarkup
  · obtain ⟨s, hs | hs⟩ := h.markup hmarkup <;> exact ⟨s, by rw [decoded?, hs]⟩
  · obtain ⟨s, hs⟩ := h.text hkind hmarkup
    exact ⟨s, by rw [decoded?, hs]⟩

/-- Markup that is not shown as text is shown as markup. -/
theorem Faithful.html_of_isMarkup {e : Entity} (h : e.Faithful) (hmarkup : e.IsMarkup)
    (hnot : e.isText = false) : ∃ s, e.part = .html s := by
  obtain ⟨s, hs | hs⟩ := h.markup hmarkup
  · exact ⟨s, hs⟩
  · exact absurd (isText_iff.mpr ⟨s, hs⟩) (by simp [hnot])

/-- The parts with words are those that are markup and not shown as text. -/
theorem Faithful.words?_isSome {e : Entity} (h : e.Faithful) (hnot : e.isText = false) :
    e.part.words?.isSome = decide e.IsMarkup := by
  rw [Bool.eq_iff_iff, decide_eq_true_iff]
  constructor
  · intro hwords
    obtain ⟨s, hs⟩ : ∃ s, e.part = .html s := by
      cases hpart : e.part <;> simp_all [Part.words?]
    exact h.html s hs
  · intro hmarkup
    obtain ⟨s, hs⟩ := h.html_of_isMarkup hmarkup hnot
    rw [hs]
    rfl

end Entity

/-- The body that is meant for a mail with these parts. -/
inductive Documented (es : List Entity) : String → Prop
  /-- The first plain text. -/
  | plain {e : Entity} {s : String} (hfirst : es.find? (fun e => e.IsPlain) = some e)
      (hs : e.decoded? = some s) : Documented es s
  /-- Without plain text, the words of the first markup. -/
  | markup {e : Entity} {s : String} (hplain : es.find? (fun e => e.IsPlain) = none)
      (hfirst : es.find? (fun e => e.IsMarkup) = some e) (hs : e.decoded? = some s) :
      Documented es (stripHtml s)
  /-- Nothing, without either. -/
  | none (hplain : es.find? (fun e => e.IsPlain) = none)
      (hmarkup : es.find? (fun e => e.IsMarkup) = none) : Documented es ""

theorem Documented.unique {es : List Entity} {body body' : String} (h : Documented es body)
    (h' : Documented es body') : body = body' := by
  cases h <;> cases h' <;> simp_all

-- ════════════════════════════════════════════════════════════════════════
-- How parts are shown
-- ════════════════════════════════════════════════════════════════════════

/-- All parts that have been read have a property. -/
def PartReader.All (P : Entity → Prop) (s : PartReader) : Prop :=
  (∀ e ∈ s.draft, P e) ∧ ∀ f ∈ s.frames, ∀ draft ∈ f.draft, ∀ e ∈ draft, P e

/-- All parts that have been read by then have a property. -/
def Turn.All (P : Entity → Prop) : Turn → Prop
  | .part s => s.All P
  | .ended mail => ∀ es ∈ mail, ∀ e ∈ es, P e

namespace PartReader

variable {s : PartReader}

theorem All.outermost (h : s.All P) : ∀ e ∈ s.outermost, P e := by
  rw [PartReader.outermost]
  cases hlast : (s.frames.filterMap Frame.draft).getLast? with
  | none => exact h.1
  | some draft =>
    obtain ⟨f, hf, hdraft⟩ := List.mem_filterMap.mp (List.mem_of_getLast? hlast)
    exact h.2 f hf draft hdraft

theorem All.leaveMessage (h : s.All P) : s.leaveMessage.All P := by
  unfold PartReader.leaveMessage
  split
  · rename_i scope draft frames _ hframes
    rw [All, hframes] at h
    exact ⟨h.2 _ (.head _) draft rfl, fun f hf => h.2 f (.tail _ hf)⟩
  · exact h

/-- The frames of the scopes that a boundary ends are dropped. -/
theorem All.afterBoundary (h : s.All P) : s.afterBoundary.All P := by
  fun_induction PartReader.afterBoundary s with
  | case1 s s' hrest => exact h.leaveMessage
  | case2 s s' rest hrest hframes =>
    rintro es ⟨⟩
    exact h.leaveMessage.outermost
  | case3 s s' rest hrest frame frames hframes s'' hseek =>
    rintro es ⟨⟩
    have h := h.leaveMessage
    exact All.outermost ⟨h.1, fun f hf => h.2 f (hframes ▸ .tail _ hf)⟩
  | case4 s s' rest hrest frame frames hframes s'' rest' hseek ih =>
    have h := h.leaveMessage
    exact ih ⟨h.1, fun f hf => h.2 f (hframes ▸ .tail _ hf)⟩

/-- At the end of the bytes there is at most one part more, which is shown as text. -/
theorem All.finish (h : s.All Entity.Faithful) (fields : List Field) :
    ∀ es ∈ s.finish fields, ∀ e ∈ es, e.Faithful := by
  rw [PartReader.finish]
  split
  · split
    · rename_i scope draft frames hframes
      rw [All, hframes] at h
      rintro es ⟨⟩
      refine All.outermost ⟨?_, fun f hf => h.2 f (.tail _ hf)⟩
      exact List.forall_mem_cons.mpr ⟨.of_text _ _, h.2 _ (.head _) draft rfl⟩
    · split
      · exact nofun
      · rintro es ⟨⟩
        exact List.forall_mem_singleton.mpr (.of_text _ _)
  · rintro es ⟨⟩
    exact h.outermost

/-- One part more is read. -/
theorem All.push (h : s.All P) {e : Entity} (he : P e) : { s with draft := e :: s.draft }.All P :=
  ⟨List.forall_mem_cons.mpr ⟨he, h.1⟩, h.2⟩

/-- A part without parts in it is shown as its kind of content or as text. -/
theorem faithful_readContent (boundary : Option (List UInt8)) {header : Header}
    {content : Content} (hpart : ∀ text, Entity.Faithful ⟨header, content.part text⟩)
    (body : List UInt8) :
    Entity.Faithful ⟨header, (readContent boundary header content body).1⟩ := by
  rw [readContent]
  split
  · exact hpart _
  · exact .of_text _ _

theorem All.readLeaf (h : s.All Entity.Faithful) {header : Header} {content : Content}
    (hpart : ∀ text, Entity.Faithful ⟨header, content.part text⟩) (body : List UInt8) :
    (s.readLeaf header content body).All Entity.Faithful := by
  have hpushed := h.push (faithful_readContent s.scope.boundary hpart body)
  unfold PartReader.readLeaf
  cases hrest : (readContent s.scope.boundary header content body).2 with
  | some rest =>
    simp only [hrest]
    exact All.afterBoundary ⟨hpushed.1, hpushed.2⟩
  | none =>
    simp only [hrest]
    rintro es ⟨⟩
    exact hpushed.outermost

/-- A part whose kind of content is the one of its type is shown as it should be. -/
theorem faithful_ofType (header : Header) (text : String) :
    Entity.Faithful ⟨header, (Content.ofType header.type).part text⟩ := by
  rw [Content.ofType]
  split_ifs with hmultipart htext hhtml hmessage
  · refine .of_other ?_ nofun
    rw [hmultipart]
    decide
  · exact ⟨fun _ h => absurd ⟨htext, hhtml⟩ h, fun _ => ⟨text, .inl rfl⟩, fun _ _ => ⟨htext, hhtml⟩⟩
  · exact .of_text _ _
  · exact .of_other htext nofun
  · exact .of_other htext nofun

/-- What is neither text nor markup has another type. -/
theorem kind_ne_text {t : ContentType} {content : Content} (h : Content.ofType t = content)
    (htext : content ≠ .text) (hhtml : content ≠ .html) : t.kind ≠ "text" := by
  intro hkind
  rw [Content.ofType, if_neg (by rw [hkind]; decide), if_pos hkind] at h
  split at h
  · exact hhtml h.symm
  · exact htext h.symm

theorem faithful_multipart {header : Header} (h : Content.ofType header.type = .multipart) :
    Entity.Faithful ⟨header, .multipart⟩ :=
  .of_other (kind_ne_text h (by decide) (by decide)) nofun

theorem faithful_message {header : Header} (h : Content.ofType header.type = .message) :
    Entity.Faithful ⟨header, .message⟩ :=
  .of_other (kind_ne_text h (by decide) (by decide)) nofun

theorem All.enterMultipart (h : s.All P) {header : Header} (he : P ⟨header, .multipart⟩)
    (container : Container) (boundary rest : List UInt8) :
    (s.enterMultipart header container boundary rest).All P :=
  ⟨(h.push he).1, List.forall_mem_cons.mpr ⟨nofun, h.2⟩⟩

theorem All.enterMessage (h : s.All P) {header : Header} (he : P ⟨header, .message⟩)
    (body : List UInt8) : (s.enterMessage header body).All P := by
  refine ⟨nofun, List.forall_mem_cons.mpr ⟨?_, h.2⟩⟩
  rintro draft ⟨⟩
  exact (h.push he).1

/-- One step adds parts that are shown as their types say. -/
theorem All.step (h : s.All Entity.Faithful) : s.step.All Entity.Faithful := by
  unfold PartReader.step
  split
  · exact h.finish _
  · rename_i fields body hheader
    extract_lets header
    have hleaf := faithful_ofType header
    split
    · rename_i hcontent
      split
      · exact h.readLeaf (hcontent ▸ hleaf) body
      · extract_lets boundary
        split
        -- without its first boundary it is shown as text, whatever its type says
        · exact h.readLeaf (fun text => .of_text header text) body
        · exact h.enterMultipart (faithful_multipart hcontent) _ _ _
    · rename_i hcontent
      split
      · exact h.enterMessage (faithful_message hcontent) body
      · exact h.readLeaf (hcontent ▸ hleaf) body
    · exact h.readLeaf hleaf body

/-- So do several, to the end of the mail. -/
theorem All.run {fuel : Nat} (h : s.All Entity.Faithful) :
    ∀ es ∈ s.run fuel, ∀ e ∈ es, e.Faithful := by
  induction fuel generalizing s with
  | zero =>
    rintro es ⟨⟩
    exact h.outermost
  | succ fuel ih =>
    rw [PartReader.run]
    have hstep := h.step
    cases hturn : s.step with
    | part s' =>
      rw [hturn] at hstep
      exact ih hstep
    | ended mail =>
      rw [hturn] at hstep
      exact hstep

theorem all_start (bs : List UInt8) : All P { rest := bs } :=
  ⟨List.forall_mem_nil _, List.forall_mem_nil _⟩

end PartReader

/-- All parts of a mail are shown as their types say. -/
theorem faithful_of_readParts {raw : List UInt8} {es : List Entity}
    (h : readParts raw = some es) : ∀ e ∈ es, e.Faithful := by
  obtain ⟨read, hread, rfl⟩ := Option.map_eq_some_iff.mp h
  intro e he
  exact (PartReader.all_start raw).run read hread e (List.mem_reverse.mp he)

-- ════════════════════════════════════════════════════════════════════════
-- The first part of a kind
-- ════════════════════════════════════════════════════════════════════════

section Body

variable {es : List Entity}

theorem findSome?_part (f : Part → Option String) (es : List Entity) :
    (es.map Entity.part).findSome? f =
      (es.find? fun e => (f e.part).isSome).bind fun e => f e.part := by
  induction es with
  | nil => rfl
  | cons e es ih =>
    rw [List.map_cons, List.findSome?_cons, List.find?_cons]
    cases hf : f e.part with
    | none => simpa using ih
    | some s => simp [hf]

/-- The first part that is shown as text is the body. -/
theorem bodyText_of_isText {e : Entity} {s : String} (hfirst : es.find? Entity.isText = some e)
    (hs : e.part = .text s) : bodyText (es.map Entity.part) = s := by
  have htext : (es.map Entity.part).findSome? Part.text? = some s := by
    rw [findSome?_part, show (es.find? fun e => e.part.text?.isSome) = _ from hfirst,
      Option.bind_some, hs]
    rfl
  rw [bodyText, htext, Option.some_or, Option.getD_some]

/-- Without one, it is the words of the first part that is shown as markup. -/
theorem bodyText_of_none (hnone : es.find? Entity.isText = none) :
    bodyText (es.map Entity.part) =
      ((es.find? fun e => e.part.words?.isSome).bind fun e => e.part.words?).getD "" := by
  rw [bodyText, findSome?_part Part.text?,
    show (es.find? fun e => e.part.text?.isSome) = _ from hnone, findSome?_part, Option.bind_none,
    Option.none_or]

/-- If plain text is the first part that is shown as text, the body is the one that is meant. -/
theorem documented_of_isPlain (hes : ∀ e ∈ es, e.Faithful) {e : Entity}
    (hfirst : es.find? Entity.isText = some e) (hplain : e.IsPlain) :
    Documented es (bodyText (es.map Entity.part)) := by
  obtain ⟨htext, before, after, rfl, hbefore⟩ := List.find?_eq_some_iff_append.mp hfirst
  obtain ⟨s, hs⟩ := Entity.isText_iff.mp htext
  -- what is plain is shown as text, so that no part before this one is plain
  have hmeant : (before ++ e :: after).find? (fun e => e.IsPlain) = some e := by
    refine List.find?_eq_some_iff_append.mpr ⟨decide_eq_true hplain, before, after, rfl, ?_⟩
    intro p hp
    have hnot := hbefore p hp
    have hfaithful := hes p (List.mem_append_left _ hp)
    simp only [Bool.not_eq_true', decide_eq_false_iff_not]
    intro hpplain
    rw [hfaithful.isText_of_isPlain hpplain] at hnot
    exact absurd hnot (by decide)
  rw [bodyText_of_isText hfirst hs]
  exact .plain hmeant (by rw [Entity.decoded?, hs])

/-- So it is if no part is shown as text. -/
theorem documented_of_none (hes : ∀ e ∈ es, e.Faithful)
    (hnone : es.find? Entity.isText = none) : Documented es (bodyText (es.map Entity.part)) := by
  have hnot : ∀ e ∈ es, e.isText = false := by simpa using hnone
  have hplain : (es.find? fun e => e.IsPlain) = none := by
    refine List.find?_eq_none.mpr fun e he hp => ?_
    have htext := (hes e he).isText_of_isPlain (of_decide_eq_true hp)
    exact absurd htext (by simp [hnot e he])
  have hmarkup : (es.find? fun e => e.part.words?.isSome) = es.find? fun e => e.IsMarkup :=
    List.find?_congr fun e he => (hes e he).words?_isSome (hnot e he)
  rw [bodyText_of_none hnone, hmarkup]
  cases hfirst : es.find? fun e => e.IsMarkup with
  | none => exact .none hplain hfirst
  | some e =>
    obtain ⟨s, hs⟩ := (hes e (List.mem_of_find?_eq_some hfirst)).html_of_isMarkup
      (by simpa using List.find?_some hfirst) (hnot e (List.mem_of_find?_eq_some hfirst))
    rw [Option.bind_some, hs]
    exact .markup hplain hfirst (by rw [Entity.decoded?, hs])

/-- There is one body that is meant. -/
theorem existsUnique_documented (hes : ∀ e ∈ es, e.Faithful) : ∃! body, Documented es body := by
  have hexists : ∃ body, Documented es body := by
    cases hplain : es.find? fun e => e.IsPlain with
    | some e =>
      have he : e.IsPlain := by simpa using List.find?_some hplain
      obtain ⟨s, hs⟩ := (hes e (List.mem_of_find?_eq_some hplain)).exists_decoded he.1
      exact ⟨s, .plain hplain hs⟩
    | none =>
      cases hmarkup : es.find? fun e => e.IsMarkup with
      | some e =>
        have he : e.IsMarkup := by simpa using List.find?_some hmarkup
        obtain ⟨s, hs⟩ := (hes e (List.mem_of_find?_eq_some hmarkup)).exists_decoded he.1
        exact ⟨stripHtml s, .markup hplain hmarkup hs⟩
      | none => exact ⟨"", .none hplain hmarkup⟩
  obtain ⟨body, hbody⟩ := hexists
  exact ⟨body, hbody, fun body' hbody' => hbody'.unique hbody⟩

end Body

/-- The body of a mail is set, whatever its parts are. -/
theorem read_of_readParts {raw : List UInt8} {es : List Entity} (h : readParts raw = some es) :
    ∃ m, Mail.read raw = .ok m ∧ m.get? bodyFacet = some (bodyText (es.map Entity.part)) := by
  refine ⟨_, by rw [Mail.read, h], ?_⟩
  rw [Message.get?, Message.insert, Table.get?_insert, if_pos rfl]

/-- The parts of a mail are shown as their types say, so that there is one body that is meant. It
is the body unless the first part that is shown as text is no plain text, and then the text of this
part is the body. -/
theorem body_is_documented_or_first_shown {raw : List UInt8} {es : List Entity}
    (h : readParts raw = some es) :
    (∀ e ∈ es, e.Faithful) ∧ (∃! body, Documented es body) ∧
      ∃ m, Mail.read raw = .ok m ∧ ∃ body, m.get? bodyFacet = some body ∧
        ((∀ e, es.find? Entity.isText = some e → e.IsPlain) → Documented es body) ∧
        ∀ e, es.find? Entity.isText = some e → ¬e.IsPlain → e.part = .text body := by
  have hes := faithful_of_readParts h
  obtain ⟨m, hm, hbody⟩ := read_of_readParts h
  refine ⟨hes, existsUnique_documented hes, m, hm, _, hbody, fun hplain => ?_, fun e he _ => ?_⟩
  · cases hfirst : es.find? Entity.isText with
    | some e => exact documented_of_isPlain hes hfirst (hplain e hfirst)
    | none => exact documented_of_none hes hfirst
  · obtain ⟨s, hs⟩ := Entity.isText_iff.mp (List.find?_some he)
    rw [bodyText_of_isText he hs, hs]

/-- Plain text is the body, although markup stands before it. -/
theorem plain_text_after_markup_is_body :
    let raw := encode ("Content-Type: multipart/alternative; boundary=B\r\n\r\n" ++
      "--B\r\nContent-Type: text/html\r\n\r\n<p>Bye</p>\r\n" ++
      "--B\r\nContent-Type: text/plain\r\n\r\nHello\r\n--B--\r\n").toList
    ∃ es m, readParts raw = some es ∧ Documented es "Hello" ∧ Mail.read raw = .ok m ∧
      m.get? bodyFacet = some "Hello" := by
  intro raw
  have hread : (readParts raw).map (fun es =>
      ((es.find? Entity.isText).map fun e => decide e.IsPlain,
        (es.find? fun e => e.IsPlain).bind Entity.decoded?)) =
      some (some true, some "Hello") := by
    decide +kernel
  obtain ⟨es, hes, heq⟩ := Option.map_eq_some_iff.mp hread
  obtain ⟨hfirst, hplain⟩ := Prod.mk.inj heq
  obtain ⟨e, he, hs⟩ := Option.bind_eq_some_iff.mp hplain
  have hmeant : Documented es "Hello" := .plain he hs
  obtain ⟨-, -, m, hm, body, hbody, hdocumented, -⟩ := body_is_documented_or_first_shown hes
  have hdocumented := hdocumented fun e he => by simpa [he] using hfirst
  exact ⟨es, m, hes, hmeant, hm, hbody.trans (congrArg some (hdocumented.unique hmeant))⟩

/-- A table is text, but no plain text. It is the body if it stands before the plain text. -/
theorem table_displaces_plain_text :
    let raw := encode ("Content-Type: multipart/mixed; boundary=B\r\n\r\n" ++
      "--B\r\nContent-Type: text/csv\r\n\r\na,b\r\n" ++
      "--B\r\nContent-Type: text/plain\r\n\r\nHello\r\n--B--\r\n").toList
    ∃ es m, readParts raw = some es ∧ Documented es "Hello" ∧ Mail.read raw = .ok m ∧
      m.get? bodyFacet = some "a,b" ∧ ¬Documented es "a,b" := by
  intro raw
  have hread : (readParts raw).map (fun es =>
      (bodyText (es.map Entity.part), (es.find? fun e => e.IsPlain).bind Entity.decoded?)) =
      some ("a,b", some "Hello") := by
    decide +kernel
  obtain ⟨es, hes, heq⟩ := Option.map_eq_some_iff.mp hread
  obtain ⟨hbody, hplain⟩ := Prod.mk.inj heq
  obtain ⟨e, he, hs⟩ := Option.bind_eq_some_iff.mp hplain
  have hmeant : Documented es "Hello" := .plain he hs
  obtain ⟨m, hm, hget⟩ := read_of_readParts hes
  refine ⟨es, m, hes, hmeant, hm, hget.trans (congrArg some hbody), fun h => ?_⟩
  exact absurd (h.unique hmeant) (by decide)

end Parley.Mail
