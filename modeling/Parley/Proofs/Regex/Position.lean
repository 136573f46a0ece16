import Parley.Proofs.Regex.Exploration

/-!
# Waiting threads at a position

What the depth-first search finds at one position: only threads that it started from have a run
if a thread that it found has one, every run of a thread that it started from goes on from a
thread that it found, and of several such threads the preferred one comes first.

## Main definitions

- `Waiting.Accepts` — a run that goes on from a waiting thread
- `Settles` — the waiting thread that is preferred among those that have a run
- `Picks` — the run that is preferred

## Main results

- `Explores.sound` — a run from a thread that was found is one from a thread that was given
- `Explores.complete` — a run from a thread that was given goes on from one that was found
- `Explores.prefers` — nothing that has a run comes before the preferred thread
-/

namespace Parley

/-- A run goes on from a waiting thread and ends with these positions recorded. -/
def Waiting.Accepts (m : Cursor) (w : Waiting) (slots : Slots) : Prop :=
  match w.needs with
  | none => slots = w.slots
  | some k => ∃ c cs, m.rest = c :: cs ∧ k.contains c ∧
      Parley.Accepts (m.skip [c]) ⟨w.frames, w.slots⟩ slots

/-- No run goes on from a waiting thread. -/
def Waiting.Hopeless (m : Cursor) (w : Waiting) : Prop :=
  ∀ slots, ¬w.Accepts m slots

theorem Waiting.Hopeless.needs_ne_none {m : Cursor} {w : Waiting} (h : w.Hopeless m) :
    w.needs ≠ none := by
  intro hneeds
  refine h w.slots ?_
  rw [Waiting.Accepts, hneeds]

/-- A thread that waits waits for one thing. -/
theorem Thread.waiting_eq {t : Thread} {w : Waiting} (hw : w ∈ t.waiting) :
    Frames.need? t.frames = some (w.needs, w.frames) ∧ w.slots = t.slots ∧ t.waiting = [w] := by
  unfold Thread.waiting at hw ⊢
  cases hneed : Frames.need? t.frames with
  | none =>
    rw [hneed] at hw
    cases hw
  | some x =>
    rw [hneed] at hw
    obtain rfl := List.mem_singleton.mp hw
    exact ⟨rfl, rfl, rfl⟩

/-- A thread that waits does not go on otherwise. -/
theorem Thread.branches_of_waiting {t : Thread} {w : Waiting} (hw : w ∈ t.waiting) (p : Place) :
    t.branches p = [] := by
  rw [Thread.branches, Frames.ways_of_need? (Thread.waiting_eq hw).1, List.map_nil]

/-- A run from a thread that waits is one that goes on from it. -/
theorem Thread.accepts_of_waiting {m : Cursor} {t : Thread} {w : Waiting} {slots : Slots}
    (hw : w ∈ t.waiting) (h : w.Accepts m slots) : Accepts m t slots := by
  obtain ⟨frames, before⟩ := t
  obtain ⟨hneed, hslots, -⟩ := Thread.waiting_eq hw
  unfold Waiting.Accepts at h
  obtain ⟨hframes, hx⟩ | ⟨c, k, hframes, hx⟩ := Frames.need?_eq_some hneed
  · simp only [Prod.mk.injEq] at hx
    subst hframes
    simp only [hx.1] at h
    rw [h, hslots]
    exact .finish
  · simp only [Prod.mk.injEq] at hx
    subst hframes
    simp only [hx.1] at h
    obtain ⟨d, ds, hrest, hd, h⟩ := h
    rw [hx.2, hslots] at h
    exact .take hrest hd h

theorem Thread.hopeless_of_waiting {m : Cursor} {t : Thread} {w : Waiting}
    (ht : Hopeless m t.frames) (hw : w ∈ t.waiting) : w.Hopeless m :=
  fun _ h => ht.not_accepts (Thread.accepts_of_waiting hw h)

namespace Explores

variable {m : Cursor} {ts : List Thread} {seen seen' : Seen} {ws : List Waiting}

/-- A run from a thread that was found is one from a thread that was given. -/
theorem sound (h : Explores m.place ts seen ws seen') {w : Waiting} (hw : w ∈ ws) {slots : Slots}
    (haccepts : w.Accepts m slots) : ∃ t ∈ ts, Accepts m t slots := by
  induction h with
  | done => cases hw
  | drop _ _ ih =>
    obtain ⟨t, ht, h⟩ := ih hw
    exact ⟨t, .tail _ ht, h⟩
  | @visit t ts _ _ ws _ _ ih =>
    rcases List.mem_append.mp hw with hw | hw
    · exact ⟨t, .head _, Thread.accepts_of_waiting hw haccepts⟩
    · obtain ⟨b, hb, h⟩ := ih hw
      rcases List.mem_append.mp hb with hb | hb
      · exact ⟨t, .head _, .branch hb h⟩
      · exact ⟨b, .tail _ hb, h⟩

/-- Threads that were given are seen. -/
theorem seen_of_mem (h : Explores m.place ts seen ws seen') {t : Thread} (ht : t ∈ ts) :
    Frames.canonical t.frames ∈ seen' := by
  induction h with
  | done => cases ht
  | drop hseen h ih =>
    rcases List.mem_cons.mp ht with rfl | ht
    · exact h.seen_subset hseen
    · exact ih ht
  | visit _ h ih =>
    rcases List.mem_cons.mp ht with rfl | ht
    · exact h.seen_subset Std.HashSet.mem_insert_self
    · exact ih (List.mem_append_right _ ht)

/-- What is newly seen is the remainder of a thread that was followed up: it is found if it waits,
and what it goes on as is seen too. -/
theorem closed (h : Explores m.place ts seen ws seen') {x : Frames} (hx : x ∈ seen')
    (hnew : x ∉ seen) :
    ∃ t : Thread, Frames.canonical t.frames = x ∧ t.waiting ⊆ ws ∧
      ∀ b ∈ t.branches m.place, Frames.canonical b.frames ∈ seen' := by
  induction h with
  | done => exact absurd hx hnew
  | drop _ _ ih => exact ih hx hnew
  | @visit t ts seen seen' ws hseen h ih =>
    by_cases hinserted : x ∈ seen.insert (Frames.canonical t.frames)
    · rcases Std.HashSet.mem_insert.mp hinserted with heq | hold
      · exact ⟨t, eq_of_beq heq, List.subset_append_left _ _,
          fun b hb => h.seen_of_mem (List.mem_append_left _ hb)⟩
      · exact absurd hold hnew
    · obtain ⟨u, hu, hwaiting, hbranches⟩ := ih hx hinserted
      exact ⟨u, hu, List.subset_append_of_subset_right _ hwaiting, hbranches⟩

/-- A run from a remainder that was seen goes on from a thread that was found. -/
theorem complete_of_seen (h : Explores m.place ts ∅ ws seen') {t : Thread} {slots : Slots}
    (haccepts : Accepts m t slots) (ht : Frames.canonical t.frames ∈ seen') :
    ∃ w ∈ ws, ∃ slots', w.Accepts m slots' := by
  generalize hm : m = n at haccepts
  induction haccepts with
  | finish =>
    obtain ⟨u, hu, hwaiting, -⟩ := h.closed ht Std.HashSet.not_mem_empty
    have hw := Thread.waiting_of_need? (Frames.need?_congr hu)
    rw [hw] at hwaiting
    exact ⟨_, hwaiting (.head _), u.slots, rfl⟩
  | @branch _ t b slots hb _ ih =>
    subst hm
    obtain ⟨u, hu, -, hbranches⟩ := h.closed ht Std.HashSet.not_mem_empty
    obtain ⟨b', hb', hframes⟩ := Thread.exists_branch hu.symm hb
    exact ih (by rw [← hframes]; exact hbranches b' hb') rfl
  | @take _ c cs k frames before slots hrest hc hnext _ =>
    subst hm
    obtain ⟨u, hu, hwaiting, -⟩ := h.closed ht Std.HashSet.not_mem_empty
    have hw := Thread.waiting_of_need? (Frames.need?_congr hu)
    rw [hw] at hwaiting
    obtain ⟨slots', hslots'⟩ := hnext.change_slots (u := ⟨frames, u.slots⟩) rfl
    exact ⟨_, hwaiting (.head _), slots', c, cs, hrest, hc, hslots'⟩

/-- A run from a thread that was given goes on from a thread that was found. -/
theorem complete (h : Explores m.place ts ∅ ws seen') {t : Thread} (ht : t ∈ ts) {slots : Slots}
    (haccepts : Accepts m t slots) : ∃ w ∈ ws, ∃ slots', w.Accepts m slots' :=
  h.complete_of_seen haccepts (h.seen_of_mem ht)

end Explores

-- ════════════════════════════════════════════════════════════════════════
-- Preference
-- ════════════════════════════════════════════════════════════════════════

/-- The preferred run of a thread: at every choice, no way before the one that it takes has a
run. -/
inductive Picks : Cursor → Thread → Slots → Prop
  | finish {m : Cursor} {slots : Slots} : Picks m ⟨[], slots⟩ slots
  | branch {m : Cursor} {t b : Thread} {before after : List Thread} {slots : Slots}
      (hb : t.branches m.place = before ++ b :: after)
      (hbefore : ∀ x ∈ before, Hopeless m x.frames) (h : Picks m b slots) : Picks m t slots
  | take {m : Cursor} {c : Char} {cs : List Char} {k : CharClass} {frames : Frames}
      {before slots : Slots} (hrest : m.rest = c :: cs) (hc : k.contains c)
      (h : Picks (m.skip [c]) ⟨frames, before⟩ slots) :
      Picks m ⟨.tree (.chars k) :: frames, before⟩ slots

/-- The preferred run goes on from a waiting thread. -/
def Waiting.Picks (m : Cursor) (w : Waiting) (slots : Slots) : Prop :=
  match w.needs with
  | none => slots = w.slots
  | some k => ∃ c cs, m.rest = c :: cs ∧ k.contains c ∧
      Parley.Picks (m.skip [c]) ⟨w.frames, w.slots⟩ slots

/-- The preferred way of a thread leads to a waiting thread after this many steps. -/
inductive Settles (m : Cursor) : Nat → Thread → Waiting → Prop
  | wait {t : Thread} {w : Waiting} (hw : w ∈ t.waiting) : Settles m 0 t w
  | branch {n : Nat} {t b : Thread} {before after : List Thread} {w : Waiting}
      (hb : t.branches m.place = before ++ b :: after)
      (hbefore : ∀ x ∈ before, Hopeless m x.frames) (hhere : ¬Hopeless m b.frames)
      (h : Settles m n b w) : Settles m (n + 1) t w

theorem Picks.accepts {m : Cursor} {t : Thread} {slots : Slots} (h : Picks m t slots) :
    Accepts m t slots := by
  induction h with
  | finish => exact .finish
  | branch hb _ _ ih => exact .branch (by rw [hb]; exact List.mem_append_right _ (.head _)) ih
  | take hrest hc _ ih => exact .take hrest hc ih

theorem Waiting.Picks.accepts {m : Cursor} {w : Waiting} {slots : Slots} (h : w.Picks m slots) :
    w.Accepts m slots := by
  unfold Waiting.Picks at h
  unfold Waiting.Accepts
  split at h
  · exact h
  · obtain ⟨c, cs, hrest, hc, h⟩ := h
    exact ⟨c, cs, hrest, hc, h.accepts⟩

/-- The preferred run leads to a waiting thread first. -/
theorem Picks.settles {m : Cursor} {t : Thread} {slots : Slots} (h : Picks m t slots) :
    ∃ n w, Settles m n t w ∧ w.Picks m slots := by
  induction h with
  | @finish m slots => exact ⟨0, ⟨none, [], slots⟩, .wait (.head _), rfl⟩
  | @branch m t b before after slots hb hbefore h ih =>
    obtain ⟨n, w, hsettles, hw⟩ := ih
    exact ⟨n + 1, w, .branch hb hbefore (fun hb => hb.not_accepts h.accepts) hsettles, hw⟩
  | @take m c cs k frames before slots hrest hc h =>
    exact ⟨0, ⟨some k, frames, before⟩, .wait (.head _), c, cs, hrest, hc, h⟩

/-- The first of several threads that has a run is told by the remainders. -/
theorem frames_eq_of_first {m : Cursor} {b b' : Thread} {before before' after after' : List Thread}
    (hframes : (before ++ b :: after).map Thread.frames =
      (before' ++ b' :: after').map Thread.frames)
    (hbefore : ∀ x ∈ before, Hopeless m x.frames) (hbefore' : ∀ x ∈ before', Hopeless m x.frames)
    (hb : ¬Hopeless m b.frames) (hb' : ¬Hopeless m b'.frames) : b.frames = b'.frames := by
  induction before generalizing before' with
  | nil =>
    cases before' with
    | nil => exact (List.cons.inj hframes).1
    | cons x' before' =>
      have hhead := (List.cons.inj hframes).1
      exact absurd (hhead ▸ hbefore' x' (.head _)) hb
  | cons x before ih =>
    cases before' with
    | nil =>
      have hhead := (List.cons.inj hframes).1
      exact absurd (hhead ▸ hbefore x (.head _)) hb'
    | cons x' before' =>
      exact ih (List.cons.inj hframes).2 (fun y hy => hbefore y (.tail _ hy))
        fun y hy => hbefore' y (.tail _ hy)

/-- The number of steps is told by the remainder. -/
theorem Settles.steps_eq {m : Cursor} {n n' : Nat} {t t' : Thread} {w w' : Waiting}
    (h : Settles m n t w) (h' : Settles m n' t' w')
    (hframes : Frames.canonical t.frames = Frames.canonical t'.frames) : n = n' := by
  induction h generalizing n' t' with
  | @wait t w hw =>
    cases h' with
    | wait => rfl
    | branch hb _ _ _ =>
      have hbranches := Thread.branches_frames hframes m.place
      rw [Thread.branches_of_waiting hw, hb] at hbranches
      simp at hbranches
  | @branch n t b before after w hb hbefore hhere _ ih =>
    cases h' with
    | wait hw' =>
      have hbranches := Thread.branches_frames hframes m.place
      rw [Thread.branches_of_waiting hw', hb] at hbranches
      simp at hbranches
    | @branch n' _ b' before' after' _ hb' hbefore' hhere' h' =>
      have hbranches := Thread.branches_frames hframes m.place
      rw [hb, hb'] at hbranches
      have hfirst := frames_eq_of_first hbranches hbefore hbefore' hhere hhere'
      rw [ih h' (by rw [hfirst])]

/-- If a thread settles on one that has a run, it has a run itself. -/
theorem Settles.not_hopeless {m : Cursor} {n : Nat} {t : Thread} {w : Waiting}
    (h : Settles m n t w) (hw : ¬w.Hopeless m) : ¬Hopeless m t.frames := by
  intro ht
  cases h with
  | wait hmem => exact hw (Thread.hopeless_of_waiting ht hmem)
  | branch hb _ hhere _ =>
    exact hhere (ht.of_branch (by rw [hb]; exact List.mem_append_right _ (.head _)))

/-- What was seen before the search comes to a thread is of no use to that thread: there is no run
from it, or it takes more steps to settle. -/
def Useless (m : Cursor) (n : Nat) (x : Frames) : Prop :=
  Hopeless m x ∨ ∃ n' t w, Frames.canonical t.frames = x ∧ Settles m n' t w ∧ n < n'

theorem Useless.mono {m : Cursor} {n n' : Nat} {x : Frames} (h : Useless m n x) (hle : n' ≤ n) :
    Useless m n' x := by
  obtain hx | ⟨k, t, w, hx, hsettles, hlt⟩ := h
  · exact .inl hx
  · exact .inr ⟨k, t, w, hx, hsettles, Nat.lt_of_le_of_lt hle hlt⟩

/-- Of threads of which all before `t` are hopeless, the search finds the one on which `t` settles,
and only hopeless ones before it. -/
theorem Explores.prefers {m : Cursor} {ts : List Thread} {seen seen' : Seen} {ws : List Waiting}
    (h : Explores m.place ts seen ws seen') {before after : List Thread} {t : Thread}
    (hts : ts = before ++ t :: after) (hbefore : ∀ x ∈ before, Hopeless m x.frames) {n : Nat}
    {w : Waiting} (hsettles : Settles m n t w) (hw : ¬w.Hopeless m)
    (hseen : ∀ x ∈ seen, Useless m n x) :
    ∃ first others, ws = first ++ w :: others ∧ ∀ x ∈ first, x.Hopeless m := by
  induction h generalizing before after t n with
  | done => simp at hts
  | @drop u ts seen seen' ws hmem h ih =>
    cases before with
    | nil =>
      obtain ⟨rfl, rfl⟩ := List.cons.inj hts
      obtain hx | ⟨n', t', w', hx, hsettles', hlt⟩ := hseen _ hmem
      · exact absurd (hx.congr (Frames.canonical_canonical _)) (hsettles.not_hopeless hw)
      · have heq := hsettles.steps_eq hsettles' hx.symm
        omega
    | cons x before =>
      obtain ⟨rfl, rfl⟩ := List.cons.inj hts
      exact ih rfl (fun y hy => hbefore y (.tail _ hy)) hsettles hseen
  | @visit u ts seen seen' ws hmem h ih =>
    cases before with
    | nil =>
      obtain ⟨rfl, rfl⟩ := List.cons.inj hts
      cases hsettles with
      | wait hwaiting =>
        rw [(Thread.waiting_eq hwaiting).2.2]
        exact ⟨[], ws, rfl, by simp⟩
      | @branch n _ b inner outer _ hb hinner hhere hsettles =>
        -- the thread itself is seen from here on, but what it goes on as settles in fewer steps
        have hself := Settles.branch hb hinner hhere hsettles
        obtain ⟨first, others, hws, hfirst⟩ := ih (by rw [hb, List.append_assoc]; rfl) hinner
          hsettles fun x hx => by
            rcases Std.HashSet.mem_insert.mp hx with heq | hx
            · exact .inr ⟨n + 1, u, w, eq_of_beq heq, hself, n.lt_succ_self⟩
            · exact (hseen x hx).mono n.le_succ
        have hwaiting : u.waiting = [] := by
          refine List.eq_nil_iff_forall_not_mem.mpr fun v hv => ?_
          rw [Thread.branches_of_waiting hv] at hb
          simp at hb
        exact ⟨first, others, by rw [hwaiting, hws]; rfl, hfirst⟩
    | cons x before =>
      obtain ⟨rfl, rfl⟩ := List.cons.inj hts
      have hu := hbefore u (.head _)
      have hbranches : ∀ y ∈ u.branches m.place ++ before, Hopeless m y.frames := by
        intro y hy
        rcases List.mem_append.mp hy with hy | hy
        · exact hu.of_branch hy
        · exact hbefore y (.tail _ hy)
      obtain ⟨first, others, hws, hfirst⟩ := ih (List.append_assoc _ _ _).symm hbranches
        hsettles fun x hx => by
          rcases Std.HashSet.mem_insert.mp hx with heq | hx
          · exact .inl (eq_of_beq heq ▸ hu.congr (Frames.canonical_canonical _).symm)
          · exact hseen x hx
      refine ⟨u.waiting ++ first, others, by rw [hws, List.append_assoc], fun y hy => ?_⟩
      rcases List.mem_append.mp hy with hy | hy
      · exact Thread.hopeless_of_waiting hu hy
      · exact hfirst y hy

end Parley
