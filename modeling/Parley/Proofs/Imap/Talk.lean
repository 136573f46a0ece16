import Parley.Imap.Session
import Parley.Proofs.Imap.Framing
import Parley.Proofs.Journal

/-!
# Talking to a mail server

How a talk ends is said here for each of its parts, so that no other proof looks at the events and
states of the steps in between.

## Main definitions

- `Ends`, `Crashes` — a talk ends in a session, with a result or with a panic
- `Session.line`, `Session.heard` — a command line, and the session once it is sent

## Main results

- `Ends.bind`, `Ends.bind_error`, `Ends.bind_crashes` — talks one after another
- `command_of_framed`, `command_of_not_framed`, `command_of_broken` — how a command ends
- `command_of_overflows`, `command_of_not_hasNumber` — where a command is a panic
-/

namespace Parley.Imap

open Parley.Text

variable {α β : Type} {p : Peer} {s t u : Session} {text : String} {r : Response}

/-- The talk that begins in `s` ends in `t`, with a result and without a panic. -/
def Ends (x : Talk α) (s t : Session) (result : Except ChannelError α) : Prop :=
  (x.run s).state = t ∧ (x.run s).result = .ok result

/-- The talk that begins in `s` ends in `t` with a panic. -/
def Crashes (x : Talk α) (s t : Session) (message : String) : Prop :=
  (x.run s).state = t ∧ (x.run s).result = .error message

theorem Ends.unique {x : Talk α} {a b : Except ChannelError α} (ha : Ends x s t a)
    (hb : Ends x s u b) : t = u ∧ a = b := by
  obtain ⟨rfl, hresult⟩ := ha
  refine ⟨hb.1, ?_⟩
  rw [hb.2] at hresult
  exact (Except.ok.inj hresult).symm

/-- After a result the talk goes on. -/
theorem Ends.bind {x : Talk α} {f : α → Talk β} {a : α} {b : Except ChannelError β}
    (hx : Ends x s t (.ok a)) (hf : Ends (f a) t u b) : Ends (x >>= f) s u b := by
  obtain ⟨rfl, hresult⟩ := hx
  have hrun : (x >>= f).run s = (x.run >>= ExceptT.bindCont f) s := rfl
  rw [Ends, hrun, Act.bind_apply_of_ok hresult]
  exact hf

/-- After a failure the talk is over. -/
theorem Ends.bind_error {x : Talk α} {f : α → Talk β} {e : ChannelError}
    (hx : Ends x s t (.error e)) : Ends (x >>= f) s t (.error e) := by
  obtain ⟨rfl, hresult⟩ := hx
  have hrun : (x >>= f).run s = (x.run >>= ExceptT.bindCont f) s := rfl
  rw [Ends, hrun, Act.bind_apply_of_ok hresult]
  exact ⟨rfl, rfl⟩

/-- A panic after a result is one of the whole talk. -/
theorem Ends.bind_crashes {x : Talk α} {f : α → Talk β} {a : α} {message : String}
    (hx : Ends x s t (.ok a)) (hf : Crashes (f a) t u message) : Crashes (x >>= f) s u message := by
  obtain ⟨rfl, hresult⟩ := hx
  have hrun : (x >>= f).run s = (x.run >>= ExceptT.bindCont f) s := rfl
  rw [Crashes, hrun, Act.bind_apply_of_ok hresult]
  exact hf

/-- After a panic the talk is over. -/
theorem Crashes.bind {x : Talk α} {f : α → Talk β} {message : String}
    (hx : Crashes x s t message) : Crashes (x >>= f) s t message := by
  obtain ⟨rfl, hresult⟩ := hx
  have hrun : (x >>= f).run s = (x.run >>= ExceptT.bindCont f) s := rfl
  rw [Crashes, hrun, Act.bind_apply_of_error hresult]
  exact ⟨rfl, rfl⟩

theorem ends_pure (a : α) : Ends (pure a) s s (.ok a) :=
  ⟨rfl, rfl⟩

theorem ends_throw (e : ChannelError) : Ends (throw e : Talk α) s s (.error e) :=
  ⟨rfl, rfl⟩

theorem ends_get : Ends (ExceptT.lift Act.get) s s (.ok s) :=
  ⟨rfl, rfl⟩

theorem ends_modify (f : Session → Session) : Ends (ExceptT.lift (Act.modify f)) s (f s) (.ok ()) :=
  ⟨rfl, rfl⟩

theorem ends_leave (bytes : List UInt8) : Ends (leave bytes) s { s with unread := bytes } (.ok ()) :=
  ends_modify _

theorem ends_log (level : Level) (message : String) (fields : List (String × String)) :
    Ends (liftM (Traced.log level message fields)) s s (.ok ()) :=
  ⟨rfl, rfl⟩

theorem crashes_panic (message : String) :
    Crashes (liftM (Traced.panic message : Traced α)) s s message :=
  ⟨rfl, rfl⟩

theorem Ends.caught {x : Talk α} {a : Except ChannelError α} (h : Ends x s t a) :
    Ends (ExceptT.lift x.run) s t (.ok a) := by
  obtain ⟨rfl, hresult⟩ := h
  let wrap (a : Except ChannelError α) : Act Session (Except ChannelError _) := pure (.ok a)
  have hrun : (ExceptT.lift x.run).run s = (x.run >>= wrap) s := rfl
  rw [Ends, hrun, Act.bind_apply_of_ok hresult]
  exact ⟨rfl, rfl⟩

theorem Crashes.caught {x : Talk α} {message : String} (h : Crashes x s t message) :
    Crashes (ExceptT.lift x.run) s t message := by
  obtain ⟨rfl, hresult⟩ := h
  let wrap (a : Except ChannelError α) : Act Session (Except ChannelError _) := pure (.ok a)
  have hrun : (ExceptT.lift x.run).run s = (x.run >>= wrap) s := rfl
  rw [Crashes, hrun, Act.bind_apply_of_error hresult]
  exact ⟨rfl, rfl⟩

/-- The next command has a number, and there is one after it. -/
def Session.HasNumber (s : Session) : Prop :=
  s.next.toNat + 1 < UInt32.size

/-- The session once the tag of the next command is taken. -/
def Session.counted (s : Session) : Session :=
  { s with next := s.next + 1 }

/-- The line of the next command. -/
def Session.line (s : Session) (text : String) : String :=
  s.nextTag ++ " " ++ text ++ "\r\n"

theorem tag_toList (k : Nat) : ("A" ++ toString k).toList = 'A' :: Nat.toDigits 10 k := by
  rw [String.toList_append]
  exact congrArg ('A' :: ·) Nat.toList_repr

theorem not_mem_tag (k : Nat) {c : Char} (hA : c ≠ 'A') (hc : c.isDigit = false) :
    c ∉ ("A" ++ toString k).toList := by
  rw [tag_toList, List.mem_cons, not_or]
  refine ⟨hA, fun hmem => ?_⟩
  rw [Nat.isDigit_of_mem_toDigits (by omega) (by omega) hmem] at hc
  cases hc

/-- The session once the next command is sent and the server has sent what it answers. -/
def Session.heard (s : Session) (p : Peer) (text : String) : Session where
  unread := s.unread ++ (p.answer (s.sent ++ [s.line text])).bytes
  broken := (p.answer (s.sent ++ [s.line text])).breaks
  sent := s.sent ++ [s.line text]
  next := s.next + 1

theorem ends_takeTag (h : s.HasNumber) : Ends takeTag s s.counted (.ok s.nextTag) := by
  refine ends_get.bind ?_
  rw [if_pos (show s.next.toNat + 1 < UInt32.size from h)]
  exact (ends_modify _).bind (ends_pure _)

theorem ends_send (h : s.broken = false) :
    Ends (send p (s.line text)) s.counted (s.heard p text) (.ok ()) := by
  refine ends_get.bind ?_
  rw [if_neg (by simp [Session.counted, h])]
  exact ends_modify _

/-- There is no command after the last number. -/
theorem command_of_not_hasNumber (h : ¬ s.HasNumber) :
    Crashes (command p text) s s "attempt to add with overflow" := by
  refine Crashes.bind (ends_get.bind_crashes ?_)
  rw [if_neg (show ¬ s.next.toNat + 1 < UInt32.size from h)]
  exact crashes_panic _

/-- On a broken connection nothing is sent. -/
theorem command_of_broken (hnumber : s.HasNumber) (h : s.broken = true) :
    Ends (command p text) s s.counted (.error (.io .broken)) := by
  refine (ends_takeTag hnumber).bind (Ends.bind_error (ends_get.bind ?_))
  rw [if_pos (show s.counted.broken = true from h)]
  exact ends_throw _

/-- A response ends a command, and the bytes after it are left unread. -/
theorem command_of_framed {left : List UInt8} (hnumber : s.HasNumber) (h : s.broken = false)
    (hframed : Framed s.nextTag.toList (s.heard p text).unread r left) :
    Ends (command p text) s { s.heard p text with unread := left }
      (if r.isOk then .ok r
        else .error (.mailbox (verb text ++ " failed: " ++ trimmed r.status))) := by
  refine (ends_takeTag hnumber).bind ((ends_send h).bind (ends_get.bind ?_))
  rw [readResponse_eq_ok_iff.2 hframed]
  refine (ends_leave left).bind ?_
  by_cases hok : r.isOk = true
  · rw [if_pos hok, if_pos hok]
    exact ends_pure r
  · rw [if_neg hok, if_neg hok]
    exact ends_throw _

/-- A literal that no room can be made for is a panic. -/
theorem command_of_overflows (hnumber : s.HasNumber) (h : s.broken = false)
    (hover : Overflows s.nextTag.toList (s.heard p text).unread) :
    Crashes (command p text) s (s.heard p text) "capacity overflow" := by
  refine (ends_takeTag hnumber).bind_crashes ((ends_send h).bind_crashes (ends_get.bind_crashes ?_))
  rw [readResponse_eq_overflow_iff.2 hover]
  exact crashes_panic _

/-- If there is no response, a command fails with nothing left to read. -/
theorem command_of_not_framed (p : Peer) (text : String) (hnumber : s.HasNumber)
    (h : s.broken = false)
    (hframed : ∀ r left, ¬ Framed s.nextTag.toList (s.heard p text).unread r left)
    (hover : ¬ Overflows s.nextTag.toList (s.heard p text).unread) :
    ∃ e, Ends (command p text) s { s.heard p text with unread := [] } (.error e) := by
  cases hread : readResponse s.nextTag.toList (s.heard p text).unread with
  | ok x => exact absurd (readResponse_eq_ok_iff.1 hread) (hframed x.1 x.2)
  | error fault =>
    cases fault with
    | overflow => exact absurd (readResponse_eq_overflow_iff.1 hread) hover
    | short shortage =>
      refine ⟨(s.heard p text).failure shortage, ?_⟩
      refine (ends_takeTag hnumber).bind ((ends_send h).bind (ends_get.bind ?_))
      rw [hread]
      exact (ends_leave []).bind (ends_throw _)

end Parley.Imap
