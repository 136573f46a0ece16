import Mathlib.Data.List.Infix
import Mathlib.Data.List.Nodup
import Parley.Proofs.Imap.Talk

/-!
# Commands one after another

## Main definitions

- `Replied` — a command that is carried out, with the response and the session after it
- `Overtaxed`, `Refused` — a command that is a panic, and one that is not carried out otherwise
- `Answered` — commands that are all carried out
- `Stopped`, `Strained` — commands that are carried out up to one that is refused, or overtaxed
- `Performs` — a talk gives the server commands up to the first that is not carried out
- `numbered` — command lines with the tags that they are sent with

## Main results

- `command_performs`, `Performs.bind` — a talk is made of its commands
- `Answered.sent_eq`, `Halted.exists_sent_eq` — which command lines are sent
- `map_tagOf_numbered` — tags are numbered one by one
-/

namespace Parley.Imap

open Parley.Text

variable {α β : Type} {p : Peer} {text message : String} {texts more : List String}
  {s s₀ t u : Session} {r r' : Response} {rs rs' : List Response}
  {Ending : String → Session → Session → Prop}

-- ════════════════════════════════════════════════════════════════════════
-- One command
-- ════════════════════════════════════════════════════════════════════════

/-- The command is sent and gets a whole response, which is a good one. -/
structure Replied (p : Peer) (text : String) (s : Session) (r : Response) (t : Session) : Prop where
  hasNumber : s.HasNumber
  isOpen : s.broken = false
  framed : Framed s.nextTag.toList (s.heard p text).unread r t.unread
  good : Good r.status.toList
  broken : t.broken = (s.heard p text).broken
  sent : t.sent = s.sent ++ [s.line text]
  next : t.next = s.next + 1

/-- There is no number for the command after it, and so it is not sent, or no room can be made for
a literal of the response to it. -/
inductive Overtaxed (p : Peer) (text : String) (s : Session) : Session → String → Prop
  | number (h : ¬ s.HasNumber) : Overtaxed p text s s "attempt to add with overflow"
  | room (hnumber : s.HasNumber) (hopen : s.broken = false)
      (h : Overflows s.nextTag.toList (s.heard p text).unread) :
      Overtaxed p text s (s.heard p text) "capacity overflow"

/-- The command is not carried out, though there is a number for it and room for its response. On a
broken connection it is not sent either. -/
structure Refused (p : Peer) (text : String) (s t : Session) : Prop where
  not_replied : ∀ r u, ¬ Replied p text s r u
  not_overtaxed : ∀ u message, ¬ Overtaxed p text s u message
  sent : t.sent = if s.broken then s.sent else s.sent ++ [s.line text]

theorem Replied.eq_heard (h : Replied p text s r t) :
    t = { s.heard p text with unread := t.unread } := by
  obtain ⟨-, -, -, -, hbroken, hsent, hnext⟩ := h
  cases t with
  | mk unread broken sent next =>
    subst hbroken hsent hnext
    rfl

theorem Replied.unique (h : Replied p text s r t) (h' : Replied p text s r' u) :
    r = r' ∧ t = u := by
  obtain ⟨hr, hunread⟩ := h.framed.unique h'.framed
  refine ⟨hr, ?_⟩
  rw [h.eq_heard, h'.eq_heard, hunread]

theorem Overtaxed.not_replied (h : Overtaxed p text s t message) : ¬ Replied p text s r u := by
  intro hreplied
  cases h with
  | number hnumber => exact hnumber hreplied.hasNumber
  | room hnumber hopen hover => exact hreplied.framed.not_overflows hover

theorem Overtaxed.sent_eq (h : Overtaxed p text s t message) :
    t.sent = s.sent ∨ t.sent = s.sent ++ [s.line text] := by
  cases h with
  | number hnumber => exact .inl rfl
  | room hnumber hopen hover => exact .inr rfl

theorem Refused.sent_eq (h : Refused p text s t) :
    t.sent = s.sent ∨ t.sent = s.sent ++ [s.line text] := by
  rw [h.sent]
  split
  · exact .inl rfl
  · exact .inr rfl

/-- A command gives the response. -/
theorem Replied.ends (h : Replied p text s r t) : Ends (command p text) s t (.ok r) := by
  have hends := command_of_framed h.hasNumber h.isOpen h.framed
  rw [if_pos (isOk_iff.2 h.good), ← h.eq_heard] at hends
  exact hends

theorem Overtaxed.crashes (h : Overtaxed p text s t message) :
    Crashes (command p text) s t message := by
  cases h with
  | number hnumber => exact command_of_not_hasNumber hnumber
  | room hnumber hopen hover => exact command_of_overflows hnumber hopen hover

/-- A command that is neither carried out nor a panic fails. -/
theorem command_fails (h : ∀ r t, ¬ Replied p text s r t)
    (hroom : ∀ t message, ¬ Overtaxed p text s t message) :
    ∃ t e, Refused p text s t ∧ Ends (command p text) s t (.error e) := by
  have hnumber : s.HasNumber := by
    by_contra hnone
    exact hroom _ _ (.number hnone)
  by_cases hbroken : s.broken = true
  · exact ⟨s.counted, _, ⟨h, hroom, by rw [if_pos hbroken]; rfl⟩,
      command_of_broken hnumber hbroken⟩
  · have hopen : s.broken = false := by simpa using hbroken
    have hsent (left : List UInt8) :
        Refused p text s { s.heard p text with unread := left } :=
      ⟨h, hroom, by rw [if_neg hbroken]; rfl⟩
    by_cases hframed : ∃ r left, Framed s.nextTag.toList (s.heard p text).unread r left
    · obtain ⟨r, left, hframed⟩ := hframed
      have hbad : ¬ r.isOk = true := by
        intro hok
        exact h r { s.heard p text with unread := left }
          ⟨hnumber, hopen, hframed, isOk_iff.1 hok, rfl, rfl, rfl⟩
      have hends := command_of_framed hnumber hopen hframed
      rw [if_neg hbad] at hends
      exact ⟨_, _, hsent left, hends⟩
    · obtain ⟨e, hends⟩ := command_of_not_framed p text hnumber hopen
        (fun r left hr => hframed ⟨r, left, hr⟩) (fun hover => hroom _ _ (.room hnumber hopen hover))
      exact ⟨_, e, hsent [], hends⟩

-- ════════════════════════════════════════════════════════════════════════
-- Several commands
-- ════════════════════════════════════════════════════════════════════════

/-- The commands are sent one after the other, and each is carried out. -/
inductive Answered (p : Peer) : List String → Session → List Response → Session → Prop
  | nil {s : Session} : Answered p [] s [] s
  | cons {text : String} {texts : List String} {s t u : Session} {r : Response}
      {rs : List Response} (first : Replied p text s r t) (later : Answered p texts t rs u) :
      Answered p (text :: texts) s (r :: rs) u

/-- The commands are carried out up to one that ends otherwise. -/
inductive Halted (p : Peer) (Ending : String → Session → Session → Prop) :
    List String → Session → Session → Prop
  | here {text : String} {texts : List String} {s t : Session} (h : Ending text s t) :
      Halted p Ending (text :: texts) s t
  | later {text : String} {texts : List String} {s t u : Session} {r : Response}
      (first : Replied p text s r t) (halt : Halted p Ending texts t u) :
      Halted p Ending (text :: texts) s u

/-- The first command that is not carried out is refused, and none after it is sent. -/
def Stopped (p : Peer) : List String → Session → Session → Prop :=
  Halted p (Refused p)

/-- The first command that is not carried out is a panic with the message. -/
def Strained (p : Peer) (message : String) : List String → Session → Session → Prop :=
  Halted p fun text s t => Overtaxed p text s t message

theorem Answered.unique (h : Answered p texts s rs t) (h' : Answered p texts s rs' u) :
    rs = rs' ∧ t = u := by
  induction h generalizing rs' u with
  | nil =>
    cases h'
    exact ⟨rfl, rfl⟩
  | cons first later ih =>
    cases h' with
    | cons first' later' =>
      obtain ⟨rfl, rfl⟩ := first.unique first'
      obtain ⟨rfl, rfl⟩ := ih later'
      exact ⟨rfl, rfl⟩

theorem Answered.append (h : Answered p texts s rs t) (h' : Answered p more t rs' u) :
    Answered p (texts ++ more) s (rs ++ rs') u := by
  induction h with
  | nil => exact h'
  | cons first later ih => exact .cons first (ih h')

theorem Halted.append (h : Halted p Ending texts s t) : Halted p Ending (texts ++ more) s t := by
  induction h with
  | here hend => exact .here hend
  | later first halt ih => exact .later first ih

theorem Answered.halted (h : Answered p texts s rs t) (h' : Halted p Ending more t u) :
    Halted p Ending (texts ++ more) s u := by
  induction h with
  | nil => exact h'
  | cons first later ih => exact .later first (ih h')

/-- After commands that are carried out, it is one of the others that ends otherwise. -/
theorem Halted.of_append (h : Halted p Ending (texts ++ more) s u)
    (hends : ∀ {text s t}, Ending text s t → ∀ r u, ¬ Replied p text s r u)
    (hall : Answered p texts s rs t) : Halted p Ending more t u := by
  induction hall with
  | nil => exact h
  | cons first later ih =>
    rw [List.cons_append] at h
    cases h with
    | here hend => exact absurd first (hends hend _ _)
    | later first' halt =>
      obtain ⟨rfl, rfl⟩ := first.unique first'
      exact ih halt

theorem Stopped.of_append (h : Stopped p (texts ++ more) s u) (hall : Answered p texts s rs t) :
    Stopped p more t u :=
  Halted.of_append h Refused.not_replied hall

theorem Strained.of_append (h : Strained p message (texts ++ more) s u)
    (hall : Answered p texts s rs t) : Strained p message more t u :=
  Halted.of_append h (fun hover _ _ => hover.not_replied) hall

theorem not_halted_nil : ¬ Halted p Ending [] s t :=
  nofun

theorem Answered.not_stopped (h : Answered p texts s rs t) : ¬ Stopped p texts s u := by
  intro hstop
  rw [← List.append_nil texts] at hstop
  exact not_halted_nil (hstop.of_append h)

theorem Answered.not_strained (h : Answered p texts s rs t) : ¬ Strained p message texts s u := by
  intro hstrain
  rw [← List.append_nil texts] at hstrain
  exact not_halted_nil (hstrain.of_append h)

-- ════════════════════════════════════════════════════════════════════════
-- Talks made of commands
-- ════════════════════════════════════════════════════════════════════════

/-- A talk that begins in `s₀` gives the server commands from `s` on. If all are carried out, the
result fits the responses, and otherwise the talk is over with the first that is not. -/
inductive Performs (p : Peer) (texts : List String) (s : Session) (x : Talk α) (s₀ : Session)
    (Fits : List Response → α → Prop) : Prop
  | answered {rs : List Response} {t : Session} {a : α} (h : Answered p texts s rs t)
      (ends : Ends x s₀ t (.ok a)) (fits : Fits rs a)
  | stopped {t : Session} {e : ChannelError} (h : Stopped p texts s t)
      (ends : Ends x s₀ t (.error e))
  | strained {t : Session} {message : String} (h : Strained p message texts s t)
      (crashes : Crashes x s₀ t message)

theorem command_performs (p : Peer) (text : String) (s : Session) :
    Performs p [text] s (command p text) s fun rs r => rs = [r] := by
  by_cases hreplied : ∃ r t, Replied p text s r t
  · obtain ⟨r, t, hreplied⟩ := hreplied
    exact .answered (.cons hreplied .nil) hreplied.ends rfl
  · by_cases hover : ∃ t message, Overtaxed p text s t message
    · obtain ⟨t, message, hover⟩ := hover
      exact .strained (.here hover) hover.crashes
    · obtain ⟨t, e, hrefused, hends⟩ := command_fails (fun r t h => hreplied ⟨r, t, h⟩)
        (fun t message h => hover ⟨t, message, h⟩)
      exact .stopped (.here hrefused) hends

variable {x : Talk α} {f : α → Talk β} {a : α} {Fits : List Response → α → Prop}
  {Fits' : List Response → β → Prop}

/-- One talk after another gives the commands of both. -/
theorem Performs.bind (hx : Performs p texts s x s₀ Fits)
    (hf : ∀ rs a t, Answered p texts s rs t → Fits rs a →
      Performs p more t (f a) t fun rs' b => Fits' (rs ++ rs') b) :
    Performs p (texts ++ more) s (x >>= f) s₀ Fits' := by
  cases hx with
  | answered hall ends fits =>
    cases hf _ _ _ hall fits with
    | answered hall' ends' fits' => exact .answered (hall.append hall') (ends.bind ends') fits'
    | stopped hstop ends' => exact .stopped (hall.halted hstop) (ends.bind ends')
    | strained hstrain crashes => exact .strained (hall.halted hstrain) (ends.bind_crashes crashes)
  | stopped hstop ends => exact .stopped hstop.append ends.bind_error
  | strained hstrain crashes => exact .strained hstrain.append crashes.bind

theorem Performs.bind_pure {g : α → β} (hx : Performs p texts s x s₀ Fits)
    (hg : ∀ rs a, Fits rs a → Fits' rs (g a)) :
    Performs p texts s (x >>= fun a => pure (g a)) s₀ Fits' := by
  cases hx with
  | answered hall ends fits => exact .answered hall (ends.bind (ends_pure _)) (hg _ _ fits)
  | stopped hstop ends => exact .stopped hstop ends.bind_error
  | strained hstrain crashes => exact .strained hstrain crashes.bind

theorem Performs.mono {Fits' : List Response → α → Prop} (hx : Performs p texts s x s₀ Fits)
    (h : ∀ rs a, Fits rs a → Fits' rs a) : Performs p texts s x s₀ Fits' := by
  cases hx with
  | answered hall ends fits => exact .answered hall ends (h _ _ fits)
  | stopped hstop ends => exact .stopped hstop ends
  | strained hstrain crashes => exact .strained hstrain crashes

/-- What gives no commands may come first. -/
theorem Ends.bind_performs (hx : Ends x s₀ u (.ok a)) (hf : Performs p texts s (f a) u Fits') :
    Performs p texts s (x >>= f) s₀ Fits' := by
  cases hf with
  | answered hall ends fits => exact .answered hall (hx.bind ends) fits
  | stopped hstop ends => exact .stopped hstop (hx.bind ends)
  | strained hstrain crashes => exact .strained hstrain (hx.bind_crashes crashes)

-- ════════════════════════════════════════════════════════════════════════
-- Command lines
-- ════════════════════════════════════════════════════════════════════════

/-- Command lines, the first with the number after `n`. -/
def numbered (n : Nat) : List String → List String
  | [] => []
  | text :: texts => ("A" ++ toString (n + 1) ++ " " ++ text ++ "\r\n") :: numbered (n + 1) texts

theorem numbered_append (n : Nat) (texts more : List String) :
    numbered n (texts ++ more) = numbered n texts ++ numbered (n + texts.length) more := by
  induction texts generalizing n with
  | nil => simp [numbered]
  | cons text texts ih =>
    rw [List.cons_append, numbered, numbered, ih, List.cons_append, List.length_cons,
      Nat.add_right_comm, Nat.add_assoc]

@[simp]
theorem length_numbered (n : Nat) (texts : List String) :
    (numbered n texts).length = texts.length := by
  induction texts generalizing n with
  | nil => rfl
  | cons text texts ih => rw [numbered, List.length_cons, ih, List.length_cons]

theorem numbered_prefix (n : Nat) (h : texts <+: more) : numbered n texts <+: numbered n more := by
  obtain ⟨others, rfl⟩ := h
  rw [numbered_append]
  exact List.prefix_append _ _

theorem exists_of_mem_numbered {n : Nat} {line : String} (h : line ∈ numbered n texts) :
    ∃ text ∈ texts, ∃ k : Nat, line = "A" ++ toString k ++ " " ++ text ++ "\r\n" := by
  induction texts generalizing n with
  | nil => cases h
  | cons text texts ih =>
    rcases List.mem_cons.1 h with rfl | h
    · exact ⟨text, List.mem_cons_self, n + 1, rfl⟩
    · obtain ⟨text', hmem, hline⟩ := ih h
      exact ⟨text', List.mem_cons_of_mem text hmem, hline⟩

theorem line_eq {n : Nat} (hn : s.next.toNat = n + 1) (text : String) :
    s.line text = "A" ++ toString (n + 1) ++ " " ++ text ++ "\r\n" := by
  rw [Session.line, Session.nextTag, hn]

theorem Replied.toNat_next (h : Replied p text s r t) : t.next.toNat = s.next.toNat + 1 := by
  have hone : (1 : UInt32).toNat = 1 := rfl
  rw [h.next, UInt32.toNat_add, hone]
  exact Nat.mod_eq_of_lt h.hasNumber

theorem Answered.toNat_next (h : Answered p texts s rs t) :
    t.next.toNat = s.next.toNat + texts.length := by
  induction h with
  | nil => rfl
  | cons first later ih =>
    rw [ih, first.toNat_next, List.length_cons]
    omega

/-- All commands are sent. -/
theorem Answered.sent_eq {n : Nat} (h : Answered p texts s rs t) (hn : s.next.toNat = n + 1) :
    t.sent = s.sent ++ numbered n texts := by
  induction h generalizing n with
  | nil => rw [numbered, List.append_nil]
  | cons first later ih =>
    rw [ih (n := n + 1) (by rw [first.toNat_next, hn]), first.sent, line_eq hn, numbered,
      List.append_assoc]
    rfl

/-- The first commands are sent, and no others. -/
theorem Halted.exists_sent_eq {n : Nat} (h : Halted p Ending texts s t)
    (hends : ∀ {text s t}, Ending text s t → t.sent = s.sent ∨ t.sent = s.sent ++ [s.line text])
    (hn : s.next.toNat = n + 1) :
    ∃ done, done <+: texts ∧ t.sent = s.sent ++ numbered n done := by
  induction h generalizing n with
  | @here text texts s t hend =>
    rcases hends hend with hsent | hsent
    · exact ⟨[], List.nil_prefix, by rw [hsent, numbered, List.append_nil]⟩
    · exact ⟨[text], ⟨texts, rfl⟩, by rw [hsent, line_eq hn]; rfl⟩
  | @later text texts s t u r first halt ih =>
    obtain ⟨done, hdone, hsent⟩ := ih (n := n + 1) (by rw [first.toNat_next, hn])
    refine ⟨text :: done, List.cons_prefix_cons.2 ⟨rfl, hdone⟩, ?_⟩
    rw [hsent, first.sent, line_eq hn, numbered, List.append_assoc]
    rfl

/-- The tag of a command line: what stands before the first space. -/
def tagOf (line : String) : String :=
  String.ofList (line.toList.takeWhile (· ≠ ' '))

theorem tagOf_line (n : Nat) (text : String) :
    tagOf ("A" ++ toString n ++ " " ++ text ++ "\r\n") = "A" ++ toString n := by
  have htag : ∀ c ∈ ("A" ++ toString n).toList, decide (c ≠ ' ') = true := by
    intro c hc
    rw [decide_eq_true_eq]
    rintro rfl
    exact not_mem_tag n (by decide) (by decide) hc
  have hrest : (" " ++ (text ++ "\r\n")).toList.takeWhile (· ≠ ' ') = [] := by simp
  rw [tagOf, String.append_assoc, String.append_assoc, String.toList_append,
    List.takeWhile_append_of_pos htag, hrest, List.append_nil, String.ofList_toList]

/-- The tags are numbered one by one. -/
theorem map_tagOf_numbered (n : Nat) (texts : List String) :
    (numbered n texts).map tagOf =
      (List.range' (n + 1) texts.length).map fun k => "A" ++ toString k := by
  induction texts generalizing n with
  | nil => rfl
  | cons text texts ih =>
    rw [numbered, List.map_cons, tagOf_line, ih, List.length_cons, List.range'_succ, List.map_cons]

theorem nodup_map_tagOf_numbered (n : Nat) (texts : List String) :
    ((numbered n texts).map tagOf).Nodup := by
  rw [map_tagOf_numbered]
  refine List.Nodup.map ?_ List.nodup_range'
  intro k m h
  have hrepr : toString k = toString m := (String.append_right_inj "A").1 h
  have hdigits : Nat.toDigits 10 k = Nat.toDigits 10 m := by
    rw [← Nat.toList_repr, ← Nat.toList_repr]
    exact congrArg String.toList hrepr
  rw [← Nat.ofDigitChars_toDigits (n := k) (by omega) (Nat.le_refl 10), hdigits,
    Nat.ofDigitChars_toDigits (by omega) (Nat.le_refl 10)]

end Parley.Imap
