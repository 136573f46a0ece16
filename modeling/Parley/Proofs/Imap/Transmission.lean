import Mathlib.Data.List.Infix
import Parley.Proofs.Imap.Talk

/-!
# Responses on the line

What a server sends as a response is what a command gives, whatever the literals hold and wherever
the connection ends.

## Main definitions

- `Segment` — a line that is not the tagged one, with the literal that it announces
- `transmission` — the bytes of segments and of a tagged line

## Main results

- `framed_transmission` — a transmission is a response, and what follows it is left
- `command_receives_transmission` — a command gives the whole response, or fails
-/

namespace Parley.Imap

open Parley.Text

theorem exists_of_append_eq {γ : Type} {front s stem rest : List γ} {c : γ}
    (h : front ++ s = stem ++ c :: rest) (hc : c ∉ front) : ∃ stem', s = stem' ++ c :: rest := by
  rcases List.append_eq_append_iff.1 h with ⟨stem', -, hs⟩ | ⟨more, hfront, hrest⟩
  · exact ⟨stem', hs⟩
  · cases more with
    | nil => exact ⟨[], hrest.symm⟩
    | cons d more =>
      obtain ⟨rfl, -⟩ := List.cons.inj hrest
      exact absurd (hfront ▸ List.mem_append_right _ List.mem_cons_self) hc

theorem not_infix_append {front s : List Char} (hfront : '\r' ∉ front)
    (hs : ¬ ['\r', '\n'] <:+: s) : ¬ ['\r', '\n'] <:+: front ++ s := by
  rintro ⟨stem, rest, h⟩
  rw [List.append_assoc] at h
  obtain ⟨stem', hs'⟩ := exists_of_append_eq h.symm hfront
  exact hs ⟨stem', rest, by rw [List.append_assoc, hs']; rfl⟩

theorem Announces.of_append {front s : List Char} {n : Nat} (h : Announces (front ++ s) n)
    (hfront : '{' ∉ front) : Announces s n := by
  obtain ⟨stem, sign, digits, hline, hnumber⟩ := h
  rw [List.append_assoc] at hline
  obtain ⟨stem', hs⟩ := exists_of_append_eq hline hfront
  exact ⟨stem', sign, digits, by rw [List.append_assoc, hs]; rfl, hnumber⟩

theorem not_mem_nextTag (s : Session) {c : Char} (hA : c ≠ 'A') (hc : c.isDigit = false) :
    c ∉ s.nextTag.toList :=
  not_mem_tag s.next.toNat hA hc

/-- A line of a response that is not the tagged one, and the literal that follows it. -/
structure Segment (tag : List Char) where
  line : List Char
  literal : Option (List UInt8)
  isLine : ¬ ['\r', '\n'] <:+: line
  untagged : ¬ tag <+: line
  carries : Carries line literal

variable {tag : List Char}

/-- The segment as it is sent. -/
def Segment.bytes (g : Segment tag) : List UInt8 :=
  encode g.line ++ crlf ++ g.literal.getD []

/-- Segments as they are sent, and the tagged line after them. -/
def transmission (segments : List (Segment tag)) (status : List Char) : List UInt8 :=
  segments.flatMap Segment.bytes ++ (encode (tag ++ status) ++ crlf)

/-- What segments and a tagged line say. -/
def contents (segments : List (Segment tag)) (status : List Char) : Response where
  lines := segments.map fun g => String.ofList g.line
  literals := segments.filterMap Segment.literal
  status := String.ofList status

theorem not_infix_encode {line : List Char} (h : ¬ ['\r', '\n'] <:+: line) :
    ¬ crlf <:+: encode line := by
  have hcut := cutLine_encode h []
  exact (cutLine_eq_some_iff.1 hcut).2

theorem framed_cons (g : Segment tag) {bs left : List UInt8} {r : Response}
    (h : Framed tag bs r left) : Framed tag (g.bytes ++ bs) (r.cons g.line g.literal) left := by
  have hdecode := decodeLossy_encode g.line
  have hframed := Framed.untagged (not_infix_encode g.isLine) (hdecode.symm ▸ g.untagged)
    (hdecode.symm ▸ g.carries) h
  rw [hdecode] at hframed
  rw [Segment.bytes, List.append_assoc _ _ bs]
  exact hframed

theorem contents_cons (g : Segment tag) (segments : List (Segment tag)) (status : List Char) :
    contents (g :: segments) status = (contents segments status).cons g.line g.literal := by
  cases hliteral : g.literal with
  | none => simp [contents, Response.cons, hliteral]
  | some data => simp [contents, Response.cons, hliteral]

/-- A transmission is a response, and what follows it is left. -/
theorem framed_transmission (segments : List (Segment tag)) {status : List Char}
    (hline : ¬ ['\r', '\n'] <:+: tag ++ status) (hplain : ∀ n, ¬ Announces (tag ++ status) n)
    (left : List UInt8) :
    Framed tag (transmission segments status ++ left) (contents segments status) left := by
  induction segments with
  | nil =>
    have hdecode := decodeLossy_encode (tag ++ status)
    have hcarries : Carries (decodeLossy (encode (tag ++ status))) none := by
      rw [hdecode]
      exact hplain
    exact .tagged (not_infix_encode hline) hdecode hcarries
  | cons g segments ih =>
    have hbytes : transmission (g :: segments) status ++ left =
        g.bytes ++ (transmission segments status ++ left) := by
      simp only [transmission, List.flatMap_cons, List.append_assoc]
    rw [contents_cons, hbytes]
    exact framed_cons g ih

/-- A command gives all that the response to it says, reads no further than the response, and
fails if the connection ends before the response does. -/
theorem command_receives_transmission (p : Peer) (text : String) (s : Session)
    (hnumber : s.HasNumber) (hopen : s.broken = false)
    (segments : List (Segment s.nextTag.toList)) (status : List Char)
    (hline : ¬ ['\r', '\n'] <:+: status) (hplain : ∀ n, ¬ Announces status n) :
    let run := (command p text).run s
    let arrived := s.unread ++ (p.answer (s.sent ++ [s.line text])).bytes
    (∀ left, arrived = transmission segments status ++ left → run.state.unread = left ∧
      (Good status → run.result = .ok (.ok (contents segments status))) ∧
      (¬ Good status → run.result = .ok (.error (.mailbox
        (verb text ++ " failed: " ++ trimmed (String.ofList status)))))) ∧
    (arrived <+: transmission segments status → arrived ≠ transmission segments status →
      ∃ e, run.result = .ok (.error e)) := by
  intro run arrived
  have hline' : ¬ ['\r', '\n'] <:+: s.nextTag.toList ++ status :=
    not_infix_append (not_mem_nextTag s (by decide) (by decide)) hline
  have hplain' : ∀ n, ¬ Announces (s.nextTag.toList ++ status) n := by
    intro n h
    exact hplain n (h.of_append (not_mem_nextTag s (by decide) (by decide)))
  have hframed := framed_transmission segments hline' hplain'
  constructor
  · intro left harrived
    have hheard : (s.heard p text).unread = transmission segments status ++ left := harrived
    have hwhole := hframed left
    rw [← hheard] at hwhole
    have hends := command_of_framed hnumber hopen hwhole
    have hgood : (contents segments status).isOk = true ↔ Good status := by
      rw [isOk_iff, contents, String.toList_ofList]
    refine ⟨by rw [hends.1], ?_, ?_⟩
    · intro hstatus
      rw [if_pos (hgood.2 hstatus)] at hends
      exact hends.2
    · intro hstatus
      rw [if_neg (fun h => hstatus (hgood.1 h))] at hends
      exact hends.2
  · intro hpart hne
    have hwhole := hframed []
    rw [List.append_nil] at hwhole
    obtain ⟨e, he⟩ := command_of_not_framed p text hnumber hopen
      (fun r left => not_framed_of_prefix hwhole hpart hne) (hwhole.not_overflows_before hpart)
    exact ⟨e, he.2⟩

/-- A mail that reads like the end of the response, and a line after it. -/
def mailSegments : List (Segment "A1".toList) :=
  [{ line := "* 1 FETCH (BODY[] \x7b8\x7d".toList
     literal := some (encode "A1 OK\r\n!".toList)
     isLine := by decide
     untagged := by decide
     carries := carries_iff.2 (by decide) },
   { line := ")".toList
     literal := none
     isLine := by decide
     untagged := by decide
     carries := carries_iff.2 (by decide) }]

/-- A server that sends the mail, and one byte more. -/
def mailPeer : Peer where
  greeting := {}
  answer _ := { bytes := transmission mailSegments " OK done".toList ++ [33] }

/-- The mail is received as it is, and the byte after the response is not read. -/
theorem command_receives_mail :
    ((command mailPeer "NOOP").run {}).state.unread = [33] ∧
      ((command mailPeer "NOOP").run {}).result =
        .ok (.ok (contents mailSegments " OK done".toList)) := by
  have hnumber : ({} : Session).HasNumber := by
    show (1 : UInt32).toNat + 1 < UInt32.size
    decide
  have hplain : Carries " OK done".toList none := carries_iff.2 (by decide)
  have hgood : Good " OK done".toList :=
    ⟨[' '], " done".toList, rfl, List.forall_mem_singleton.2 (by decide)⟩
  have hrun := (command_receives_transmission mailPeer "NOOP" {} hnumber rfl mailSegments
    " OK done".toList (by decide) hplain).1 [33] (List.nil_append _)
  exact ⟨hrun.1, hrun.2.1 hgood⟩

/-- A line that announces more bytes than a machine word can count. -/
def countlessLine : List Char :=
  "* x \x7b18446744073709551616\x7d".toList

/-- As many bytes, the first of which read like the end of the response. -/
def countlessLiteral : List UInt8 :=
  encode "A1 OK x\r\n".toList ++ List.replicate 18446744073709551607 0

/-- A server that sends the line and the first bytes of the literal. -/
def countlessPeer : Peer where
  greeting := {}
  answer _ := { bytes := encode countlessLine ++ crlf ++ encode "A1 OK x\r\n".toList }

/-- A line that announces more bytes than there can be room for. -/
def roomlessLine : List Char :=
  "* x \x7b9223372036854775808\x7d".toList

theorem overflows_roomless : Overflows "A1".toList (encode roomlessLine ++ crlf ++ []) := by
  refine .here (n := 9223372036854775808) (not_infix_encode (by decide)) ?_ (by decide)
  rw [decodeLossy_encode]
  exact literalLength?_eq_some_iff.1 (by decide)

/-- A server that sends the line and no more. -/
def roomlessPeer : Peer where
  greeting := {}
  answer _ := { bytes := encode roomlessLine ++ crlf }

/-- A literal of more bytes than a machine word can count is read as lines, so that the first bytes
of a response can be taken for a whole one. Where a literal can be counted but not held, the first
bytes of a response are a panic. -/
theorem overlong_literals_are_not_awaited :
    (countlessLiteral.length = 18446744073709551616 ∧
      (let whole := encode countlessLine ++ crlf ++ countlessLiteral ++ encode "A1 OK\r\n".toList
        let arrived := (countlessPeer.answer []).bytes
        arrived <+: whole ∧ arrived ≠ whole) ∧
      ((command countlessPeer "NOOP").run {}).result =
        .ok (.ok { lines := [String.ofList countlessLine], literals := [], status := " OK x" })) ∧
    ((command roomlessPeer "NOOP").run {}).result = .error "capacity overflow" := by
  have hnumber : ({} : Session).HasNumber := by
    show (1 : UInt32).toNat + 1 < UInt32.size
    decide
  refine ⟨⟨?_, ?_, ?_⟩, ?_⟩
  · have hbegin : (encode "A1 OK x\r\n".toList).length = 9 := by decide
    rw [countlessLiteral, List.length_append, List.length_replicate, hbegin]
  · let others := List.replicate 18446744073709551607 (0 : UInt8) ++ encode "A1 OK\r\n".toList
    have hwhole : encode countlessLine ++ crlf ++ countlessLiteral ++ encode "A1 OK\r\n".toList =
        (countlessPeer.answer []).bytes ++ others := by
      simp only [countlessLiteral, countlessPeer, others, List.append_assoc]
    refine ⟨⟨others, hwhole.symm⟩, fun heq => ?_⟩
    have hnone : others = [] := List.append_right_eq_self.1 (heq.trans hwhole).symm
    exact absurd (List.append_eq_nil_iff.1 hnone).2 (by decide)
  · let plain : Segment "A1".toList :=
      { line := countlessLine
        literal := none
        isLine := by decide
        untagged := by decide
        carries := carries_iff.2 (by decide) }
    have hplain : Carries ("A1".toList ++ " OK x".toList) none := carries_iff.2 (by decide)
    have hframed := framed_transmission [plain] (by decide) hplain []
    have hends : Ends (command countlessPeer "NOOP") {} _ _ :=
      command_of_framed hnumber rfl hframed
    have hgood : (contents [plain] " OK x".toList).isOk = true := by decide
    rw [if_pos hgood] at hends
    exact hends.2
  · have hcrash : Crashes (command roomlessPeer "NOOP") {} _ _ :=
      command_of_overflows hnumber rfl overflows_roomless
    exact hcrash.2

end Parley.Imap
