import Parley.Proofs.Regex.Position

/-!
# What the search finds in a text

The positions that the search gives are those of a run, and it gives none only if there is no run
from any position of the text. If the run at the start of the text is preferred at every choice,
it is the one that is found.

## Main definitions

- `Regex.StartsRun` — a run that starts at a position or further on

## Main results

- `Regex.searchSlots_sound` — what is found is a run
- `Regex.searchSlots_complete` — if nothing is found there is no run
- `Regex.searchSlots_of_picks` — the preferred run at the start of the text is found
-/

namespace Parley

-- ════════════════════════════════════════════════════════════════════════
-- Finished threads
-- ════════════════════════════════════════════════════════════════════════

/-- The thread that goes on once its character is read, unless it is finished. -/
def Waiting.live? (w : Waiting) : Option (CharClass × Thread) :=
  w.needs.map fun k => (k, ⟨w.frames, w.slots⟩)

theorem splitFinished_append {first : List Waiting} (h : ∀ w ∈ first, w.needs ≠ none)
    (others : List Waiting) :
    splitFinished (first ++ others) =
      (first.filterMap Waiting.live? ++ (splitFinished others).1, (splitFinished others).2) := by
  induction first with
  | nil => rfl
  | cons w first ih =>
    have hw := h w (.head _)
    have ih := ih fun x hx => h x (.tail _ hx)
    cases hneeds : w.needs with
    | none => exact absurd hneeds hw
    | some k =>
      have hlive : w.live? = some (k, ⟨w.frames, w.slots⟩) := by rw [Waiting.live?, hneeds]; rfl
      rw [List.cons_append, splitFinished]
      simp only [hneeds, ih, List.filterMap_cons_some hlive, List.cons_append]

/-- A finished thread ends the list of those that are preferred over it. -/
theorem splitFinished_cons_of_finished {w : Waiting} (h : w.needs = none) (ws : List Waiting) :
    splitFinished (w :: ws) = ([], some w.slots) := by
  rw [splitFinished, h]

/-- The threads that are kept are among those that wait. -/
theorem mem_splitFinished {ws : List Waiting} {k : CharClass} {t : Thread}
    (h : (k, t) ∈ (splitFinished ws).1) : ∃ w ∈ ws, w.needs = some k ∧ t = ⟨w.frames, w.slots⟩ := by
  induction ws with
  | nil => cases h
  | cons w ws ih =>
    unfold splitFinished at h
    split at h
    · cases h
    · next c hneeds =>
      rcases List.mem_cons.mp h with heq | h
      · obtain ⟨rfl, rfl⟩ := Prod.mk.inj heq
        exact ⟨w, .head _, hneeds, rfl⟩
      · obtain ⟨v, hv, hneeds, ht⟩ := ih h
        exact ⟨v, .tail _ hv, hneeds, ht⟩

/-- What is won was recorded by a finished thread. -/
theorem splitFinished_eq_some {ws : List Waiting} {slots : Slots}
    (h : (splitFinished ws).2 = some slots) : ∃ w ∈ ws, w.needs = none ∧ w.slots = slots := by
  induction ws with
  | nil => cases h
  | cons w ws ih =>
    unfold splitFinished at h
    split at h
    · next hneeds => exact ⟨w, .head _, hneeds, Option.some.inj h⟩
    · obtain ⟨v, hv, hneeds, hslots⟩ := ih h
      exact ⟨v, .tail _ hv, hneeds, hslots⟩

/-- If no thread is finished, all are kept. -/
theorem splitFinished_eq_none {ws : List Waiting} (h : (splitFinished ws).2 = none) :
    (∀ w ∈ ws, w.needs ≠ none) ∧ (splitFinished ws).1 = ws.filterMap Waiting.live? := by
  have hall : ∀ w ∈ ws, w.needs ≠ none := by
    intro w hw hneeds
    induction ws with
    | nil => cases hw
    | cons v ws ih =>
      unfold splitFinished at h
      split at h
      · cases h
      · next k hv =>
        rcases List.mem_cons.mp hw with rfl | hw
        · rw [hv] at hneeds
          cases hneeds
        · exact ih h hw
  refine ⟨hall, ?_⟩
  have happend := splitFinished_append hall []
  rw [List.append_nil] at happend
  rw [happend]
  exact List.append_nil _

theorem mem_consume {c : Char} {live : List (CharClass × Thread)} {t : Thread} :
    t ∈ consume c live ↔ ∃ k, (k, t) ∈ live ∧ k.contains c := by
  simp only [consume, List.mem_filterMap]
  constructor
  · rintro ⟨⟨k, u⟩, hmem, h⟩
    split at h
    · next hk =>
      cases h
      exact ⟨k, hmem, hk⟩
    · cases h
  · rintro ⟨k, hmem, hk⟩
    exact ⟨(k, t), hmem, if_pos hk⟩

theorem consume_append (c : Char) (live live' : List (CharClass × Thread)) :
    consume c (live ++ live') = consume c live ++ consume c live' :=
  List.filterMap_append

theorem consume_cons_of_contains {c : Char} {k : CharClass} (h : k.contains c) (t : Thread)
    (live : List (CharClass × Thread)) : consume c ((k, t) :: live) = t :: consume c live :=
  List.filterMap_cons_some (if_pos h)

-- ════════════════════════════════════════════════════════════════════════
-- The search
-- ════════════════════════════════════════════════════════════════════════

namespace Regex

variable {r : Regex}

/-- A thread at the start of a match. -/
def startThread (r : Regex) (index : Nat) : Thread :=
  ⟨[.tree r, .close 0], r.startSlots index⟩

/-- The threads that start at a position: one until there is a match. -/
def freshThreads (r : Regex) (index : Nat) (best : Option Slots) : List Thread :=
  if best.isNone then [r.startThread index] else []

/-- What is found in all threads at a position. -/
def found (r : Regex) (m : Cursor) (threads : List Thread) (best : Option Slots) :
    List Waiting :=
  advanceAll m.place (threads ++ r.freshThreads m.index best) ∅

/-- The search at the end of the text. -/
theorem searchFrom_nil (before : Option Char) (index : Nat) (threads : List Thread)
    (best : Option Slots) :
    r.searchFrom before index threads best [] =
      (splitFinished (r.found ⟨before, index, []⟩ threads best)).2.or best := by
  rw [searchFrom]
  simp only [Option.orElse_eq_orElse, Option.orElse_eq_or]
  rfl

/-- The search at a character. -/
theorem searchFrom_cons (before : Option Char) (index : Nat) (threads : List Thread)
    (best : Option Slots) (c : Char) (cs : List Char) :
    r.searchFrom before index threads best (c :: cs) =
      let ws := splitFinished (r.found ⟨before, index, c :: cs⟩ threads best)
      let best' := ws.2.or best
      if ws.1.isEmpty && best'.isSome then best'
      else r.searchFrom (some c) (index + 1) (consume c ws.1) best' cs := by
  rw [searchFrom]
  simp only [Option.orElse_eq_orElse, Option.orElse_eq_or]
  rfl

/-- A thread that starts a match here or further on has a run. -/
def StartsRun (r : Regex) (m : Cursor) (slots : Slots) : Prop :=
  ∃ pre post, m.rest = pre ++ post ∧
    Accepts (m.skip pre) (r.startThread (m.skip pre).index) slots

theorem startsRun_nil {before : Option Char} {index : Nat} {slots : Slots} :
    r.StartsRun ⟨before, index, []⟩ slots ↔
      Accepts ⟨before, index, []⟩ (r.startThread index) slots := by
  constructor
  · rintro ⟨pre, post, htext, h⟩
    obtain ⟨rfl, rfl⟩ := List.append_eq_nil_iff.mp htext.symm
    simpa using h
  · intro h
    exact ⟨[], [], rfl, by simpa using h⟩

/-- The next character is before the match, or the match starts here. -/
theorem startsRun_cons {before : Option Char} {index : Nat} {c : Char} {cs : List Char}
    {slots : Slots} :
    r.StartsRun ⟨before, index, c :: cs⟩ slots ↔
      Accepts ⟨before, index, c :: cs⟩ (r.startThread index) slots ∨
        r.StartsRun ⟨some c, index + 1, cs⟩ slots := by
  have hskip : ∀ pre, Cursor.skip ⟨before, index, c :: cs⟩ (c :: pre) =
      Cursor.skip ⟨some c, index + 1, cs⟩ pre :=
    fun pre => Cursor.skip_append ⟨before, index, c :: cs⟩ [c] pre
  constructor
  · rintro ⟨pre, post, htext, h⟩
    cases pre with
    | nil => exact .inl (by simpa using h)
    | cons d pre =>
      obtain ⟨rfl, hcs⟩ := List.cons.inj htext
      rw [hskip] at h
      exact .inr ⟨pre, post, hcs, h⟩
  · rintro (h | ⟨pre, post, htext, h⟩)
    · exact ⟨[], c :: cs, rfl, by simpa using h⟩
    · refine ⟨c :: pre, post, congrArg (c :: ·) htext, ?_⟩
      rw [hskip]
      exact h

/-- A run that goes on from what is found is one of the threads, or of one that starts here. -/
theorem found_sound {m : Cursor} {threads : List Thread} {best : Option Slots} {w : Waiting}
    {slots : Slots} (hw : w ∈ r.found m threads best) (h : w.Accepts m slots) :
    (∃ t ∈ threads, Accepts m t slots) ∨ Accepts m (r.startThread m.index) slots := by
  obtain ⟨seen, hfound⟩ := advanceAll_explores (p := m.place)
    (threads ++ r.freshThreads m.index best) ∅
  obtain ⟨t, ht, haccepts⟩ := hfound.sound hw h
  rcases List.mem_append.mp ht with ht | ht
  · exact .inl ⟨t, ht, haccepts⟩
  · unfold freshThreads at ht
    split at ht
    · obtain rfl := List.mem_singleton.mp ht
      exact .inr haccepts
    · cases ht

/-- A run of a thread goes on from what is found, and so does one that starts here as long as there
is no match. -/
theorem found_complete {m : Cursor} {threads : List Thread} {best : Option Slots} {t : Thread}
    {slots : Slots} (ht : t ∈ threads ++ r.freshThreads m.index best) (h : Accepts m t slots) :
    ∃ w ∈ r.found m threads best, ∃ slots', w.Accepts m slots' := by
  obtain ⟨seen, hfound⟩ := advanceAll_explores (p := m.place)
    (threads ++ r.freshThreads m.index best) ∅
  exact hfound.complete ht h

/-- A match that is won here is a run that ends here. -/
theorem sound_of_won {m : Cursor} {threads : List Thread} {best : Option Slots} {slots : Slots}
    (h : (splitFinished (r.found m threads best)).2 = some slots) :
    (∃ t ∈ threads, Accepts m t slots) ∨ Accepts m (r.startThread m.index) slots := by
  obtain ⟨w, hw, hneeds, hslots⟩ := splitFinished_eq_some h
  refine found_sound hw ?_
  rw [Waiting.Accepts, hneeds]
  exact hslots.symm

/-- What is found is a run: the one kept so far, one of the threads, or one that starts here or
further on. -/
theorem searchFrom_sound {text : List Char} {before : Option Char} {index : Nat}
    {threads : List Thread} {best : Option Slots} {slots : Slots}
    (h : r.searchFrom before index threads best text = some slots) :
    best = some slots ∨ (∃ t ∈ threads, Accepts ⟨before, index, text⟩ t slots) ∨
      r.StartsRun ⟨before, index, text⟩ slots := by
  induction text generalizing before index threads best with
  | nil =>
    rw [searchFrom_nil] at h
    obtain hwon | ⟨-, hbest⟩ := Option.or_eq_some_iff.mp h
    · obtain ht | hstart := sound_of_won hwon
      · exact .inr (.inl ht)
      · exact .inr (.inr (startsRun_nil.mpr hstart))
    · exact .inl hbest
  | cons c cs ih =>
    rw [searchFrom_cons] at h
    generalize hws : splitFinished (r.found ⟨before, index, c :: cs⟩ threads best) = ws at h
    have hbest : ws.2.or best = some slots → best = some slots ∨
        (∃ t ∈ threads, Accepts ⟨before, index, c :: cs⟩ t slots) ∨
          r.StartsRun ⟨before, index, c :: cs⟩ slots := by
      intro hbest
      obtain hwon | ⟨-, hbest⟩ := Option.or_eq_some_iff.mp hbest
      · obtain ht | hstart := sound_of_won (by rw [hws]; exact hwon)
        · exact .inr (.inl ht)
        · exact .inr (.inr (startsRun_cons.mpr (.inl hstart)))
      · exact .inl hbest
    simp only at h
    split at h
    · exact hbest h
    · obtain h | ⟨t, ht, haccepts⟩ | hstart := ih h
      · exact hbest h
      · -- the thread has read the character, so it waited for it here
        obtain ⟨k, hmem, hk⟩ := mem_consume.mp ht
        obtain ⟨w, hw, hneeds, rfl⟩ := mem_splitFinished (by rw [hws]; exact hmem)
        have hread : w.Accepts ⟨before, index, c :: cs⟩ slots := by
          rw [Waiting.Accepts, hneeds]
          exact ⟨c, cs, rfl, hk, haccepts⟩
        obtain ht | hstart := found_sound hw hread
        · exact .inr (.inl ht)
        · exact .inr (.inr (startsRun_cons.mpr (.inl hstart)))
      · exact .inr (.inr (startsRun_cons.mpr (.inr hstart)))

/-- If nothing is found there is no run, neither of the threads nor of one that starts here or
further on. -/
theorem searchFrom_complete {text : List Char} {before : Option Char} {index : Nat}
    {threads : List Thread} {best : Option Slots}
    (h : r.searchFrom before index threads best text = none) (slots : Slots) :
    best = none ∧ (∀ t ∈ threads, ¬Accepts ⟨before, index, text⟩ t slots) ∧
      ¬r.StartsRun ⟨before, index, text⟩ slots := by
  induction text generalizing before index threads best slots with
  | nil =>
    rw [searchFrom_nil] at h
    obtain ⟨hwon, rfl⟩ := Option.or_eq_none_iff.mp h
    have hnone : ∀ t ∈ threads ++ r.freshThreads index none,
        ¬Accepts ⟨before, index, []⟩ t slots := by
      intro t ht haccepts
      obtain ⟨w, hw, slots', hw'⟩ := found_complete ht haccepts
      have hneeds := (splitFinished_eq_none hwon).1 w hw
      unfold Waiting.Accepts at hw'
      split at hw'
      · next hnone => exact hneeds hnone
      · obtain ⟨c, cs, hrest, -⟩ := hw'
        cases hrest
    refine ⟨rfl, fun t ht => hnone t (List.mem_append_left _ ht), fun hstart => ?_⟩
    exact hnone _ (List.mem_append_right _ (.head _)) (startsRun_nil.mp hstart)
  | cons c cs ih =>
    rw [searchFrom_cons] at h
    generalize hws : splitFinished (r.found ⟨before, index, c :: cs⟩ threads best) = ws at h
    simp only at h
    have hbest : ws.2.or best = none := by
      split at h
      · exact h
      · exact (ih h slots).1
    obtain ⟨hwon, rfl⟩ := Option.or_eq_none_iff.mp hbest
    rw [hbest, if_neg (by simp)] at h
    obtain ⟨hall, hlive⟩ := splitFinished_eq_none (by rw [hws]; exact hwon)
    have hnone : ∀ t ∈ threads ++ r.freshThreads index none,
        ¬Accepts ⟨before, index, c :: cs⟩ t slots := by
      intro t ht haccepts
      obtain ⟨w, hw, slots', hw'⟩ := found_complete ht haccepts
      unfold Waiting.Accepts at hw'
      split at hw'
      · next hneeds => exact hall w hw hneeds
      · next k hneeds =>
        obtain ⟨d, ds, hrest, hk, hw'⟩ := hw'
        cases hrest
        refine (ih h slots').2.1 ⟨w.frames, w.slots⟩ (mem_consume.mpr ⟨k, ?_, hk⟩) hw'
        rw [← hws, hlive]
        exact List.mem_filterMap.mpr ⟨w, hw, by rw [Waiting.live?, hneeds]; rfl⟩
    refine ⟨rfl, fun t ht => hnone t (List.mem_append_left _ ht), fun hstart => ?_⟩
    obtain hstart | hstart := startsRun_cons.mp hstart
    · exact hnone _ (List.mem_append_right _ (.head _)) hstart
    · exact (ih h slots).2.2 hstart

/-- The positions that the search gives are those of a run from some position of the text. -/
theorem searchSlots_sound {text : List Char} {slots : Slots} (h : r.searchSlots text = some slots) :
    r.StartsRun (.start text) slots := by
  obtain h | ⟨t, ht, -⟩ | h := searchFrom_sound h
  · cases h
  · cases ht
  · exact h

/-- The search gives none only if there is no run from any position of the text. -/
theorem searchSlots_complete {text : List Char} (h : r.searchSlots text = none) (slots : Slots) :
    ¬r.StartsRun (.start text) slots :=
  (searchFrom_complete h slots).2.2

-- ════════════════════════════════════════════════════════════════════════
-- Preference
-- ════════════════════════════════════════════════════════════════════════

/-- The threads that a character lets go on from hopeless ones are hopeless. -/
theorem hopeless_of_consume {before : Option Char} {index : Nat} {c : Char} {cs : List Char}
    {ws : List Waiting} (h : ∀ w ∈ ws, w.Hopeless ⟨before, index, c :: cs⟩) {t : Thread}
    (ht : t ∈ consume c (ws.filterMap Waiting.live?)) :
    Hopeless ⟨some c, index + 1, cs⟩ t.frames := by
  obtain ⟨k, hmem, hk⟩ := mem_consume.mp ht
  obtain ⟨w, hw, hlive⟩ := List.mem_filterMap.mp hmem
  obtain ⟨k', hneeds, heq⟩ := Option.map_eq_some_iff.mp hlive
  cases heq
  intro slots slots' haccepts
  obtain ⟨slots'', haccepts⟩ := haccepts.change_slots (u := ⟨w.frames, w.slots⟩) rfl
  refine h w hw slots'' ?_
  rw [Waiting.Accepts, hneeds]
  exact ⟨c, cs, rfl, hk, haccepts⟩

/-- Threads from which no run ends do not change what was found before. -/
theorem searchFrom_of_hopeless {text : List Char} {before : Option Char} {index : Nat}
    {threads : List Thread} {slots : Slots}
    (h : ∀ t ∈ threads, Hopeless ⟨before, index, text⟩ t.frames) :
    r.searchFrom before index threads (some slots) text = some slots := by
  -- nothing that is found has a run, so nothing is won
  have hfound : ∀ {text : List Char} {before : Option Char} {index : Nat} {threads : List Thread},
      (∀ t ∈ threads, Hopeless ⟨before, index, text⟩ t.frames) →
      ∀ w ∈ r.found ⟨before, index, text⟩ threads (some slots),
        w.Hopeless ⟨before, index, text⟩ := by
    intro text before index threads h w hw slots' haccepts
    obtain ⟨seen, hexplores⟩ := advanceAll_explores (p := Cursor.place ⟨before, index, text⟩)
      (threads ++ r.freshThreads index (some slots)) ∅
    obtain ⟨t, ht, haccepts⟩ := hexplores.sound hw haccepts
    rw [freshThreads, if_neg (by simp), List.append_nil] at ht
    exact (h t ht).not_accepts haccepts
  have hsplit : ∀ {m : Cursor} {ws : List Waiting}, (∀ w ∈ ws, w.Hopeless m) →
      splitFinished ws = (ws.filterMap Waiting.live?, none) := by
    intro m ws h
    have happend := splitFinished_append (fun w hw => (h w hw).needs_ne_none) []
    rw [List.append_nil] at happend
    rw [happend, splitFinished, List.append_nil]
  induction text generalizing before index threads with
  | nil =>
    rw [searchFrom_nil, hsplit (hfound h)]
    rfl
  | cons c cs ih =>
    rw [searchFrom_cons, hsplit (hfound h)]
    simp only
    split
    · rfl
    · exact ih fun t ht => hopeless_of_consume (hfound h) ht

/-- The preferred run of the first thread that has one is found. -/
theorem searchFrom_prefers {text : List Char} {before : Option Char} {index : Nat}
    {threads first others : List Thread} {best : Option Slots} {t : Thread} {slots : Slots}
    (hthreads : threads ++ r.freshThreads index best = first ++ t :: others)
    (hfirst : ∀ x ∈ first, Hopeless ⟨before, index, text⟩ x.frames)
    (ht : Picks ⟨before, index, text⟩ t slots) :
    r.searchFrom before index threads best text = some slots := by
  induction text generalizing before index threads first others best t with
  | nil =>
    obtain ⟨n, w, hsettles, hw⟩ := ht.settles
    obtain ⟨seen, hexplores⟩ := advanceAll_explores (p := Cursor.place ⟨before, index, []⟩)
      (threads ++ r.freshThreads index best) ∅
    obtain ⟨ws, others', hws, hhopeless⟩ := hexplores.prefers hthreads hfirst hsettles
      (fun h => h slots hw.accepts) (by simp)
    have hneeds : w.needs = none ∧ w.slots = slots := by
      unfold Waiting.Picks at hw
      split at hw
      · next hneeds => exact ⟨hneeds, hw.symm⟩
      · obtain ⟨c, cs, hrest, -⟩ := hw
        cases hrest
    rw [searchFrom_nil, found, hws,
      splitFinished_append (fun x hx => (hhopeless x hx).needs_ne_none),
      splitFinished_cons_of_finished hneeds.1, hneeds.2]
    rfl
  | cons c cs ih =>
    obtain ⟨n, w, hsettles, hw⟩ := ht.settles
    obtain ⟨seen, hexplores⟩ := advanceAll_explores (p := Cursor.place ⟨before, index, c :: cs⟩)
      (threads ++ r.freshThreads index best) ∅
    obtain ⟨ws, others', hws, hhopeless⟩ := hexplores.prefers hthreads hfirst hsettles
      (fun h => h slots hw.accepts) (by simp)
    rw [searchFrom_cons, found, hws,
      splitFinished_append (fun x hx => (hhopeless x hx).needs_ne_none)]
    unfold Waiting.Picks at hw
    split at hw
    · next hneeds =>
      -- the thread is finished: those that are preferred over it never are
      rw [splitFinished_cons_of_finished hneeds, List.append_nil, ← hw]
      simp only
      split
      · rfl
      · exact searchFrom_of_hopeless fun t ht => hopeless_of_consume hhopeless ht
    · next k hneeds =>
      obtain ⟨d, ds, hrest, hk, hpicks⟩ := hw
      cases hrest
      have hsplit : (splitFinished (w :: others')).1 =
          (k, ⟨w.frames, w.slots⟩) :: (splitFinished others').1 := by
        rw [splitFinished, hneeds]
      rw [hsplit, if_neg (by simp)]
      have hconsume : consume c (ws.filterMap Waiting.live? ++
          (k, ⟨w.frames, w.slots⟩) :: (splitFinished others').1) =
          consume c (ws.filterMap Waiting.live?) ++
            ⟨w.frames, w.slots⟩ :: consume c (splitFinished others').1 := by
        rw [consume_append, consume_cons_of_contains hk]
      rw [hconsume]
      exact ih (by rw [List.append_assoc, List.cons_append])
        (fun x hx => hopeless_of_consume hhopeless hx) hpicks

/-- The preferred run at the start of the text is found. -/
theorem searchSlots_of_picks {text : List Char} {slots : Slots}
    (h : Picks (.start text) (r.startThread 0) slots) : r.searchSlots text = some slots :=
  have hfresh : [] ++ r.freshThreads 0 none = [] ++ r.startThread 0 :: [] := rfl
  searchFrom_prefers hfresh (fun _ hx => nomatch hx) h

end Regex

end Parley
