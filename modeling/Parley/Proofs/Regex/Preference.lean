import Parley.Proofs.Regex.Parts

/-!
# The preferred run through a tree

Where a tree offers several ways, the preferred run takes the first one that leads on. A lazy
repetition of characters ends as soon as what follows can match, so it stands for a text if what
follows cannot match anywhere within it.

## Main results

- `Picks.first`, `Picks.second` — the first way is taken unless it is hopeless
- `Picks.literal` — characters in order stand for their text
- `Picks.greedy` — a greedy repetition of characters ends where no other one follows
- `Picks.lazy_group` — a lazy group ends at the first place where what follows can match
- `Regex.searchSlots_between_of_picks` — the search finds the preferred run
-/

namespace Parley

open Regex Frames

namespace Hopeless

variable {m : Cursor} {k : Frames}

/-- A group that closes does not help what follows. -/
theorem close (h : Hopeless m k) (i : Nat) : Hopeless m (.close i :: k) := by
  refine hopeless_of_not_completes fun slots n hn => ?_
  exact h _ _ (accepts_of_completes (m := (⟨m, slots⟩ : Reading).record (2 * i + 1)) hn)

/-- No character matches at the end of the text. -/
theorem chars_of_end (hend : m.rest = []) (c : CharClass) : Hopeless m (.tree (.chars c) :: k) := by
  refine hopeless_of_not_completes fun slots n hn => ?_
  obtain ⟨_, ⟨c, cs, hrest, -⟩, -⟩ := hn
  rw [show m.rest = c :: cs from hrest] at hend
  cases hend

/-- A tree without a span does not match. -/
theorem of_not_spans {r : Regex} (h : ∀ slots n, ¬r.Spans ⟨m, slots⟩ n) :
    Hopeless m (.tree r :: k) := by
  refine hopeless_of_not_completes fun slots n hn => ?_
  obtain ⟨mid, hspan, -⟩ := hn
  exact h slots mid hspan

end Hopeless

namespace Picks

variable {m : Reading} {k : Frames} {out : Slots}

/-- The first way is taken. -/
theorem first {way : Frames} {others : List Frames} (hways : ways m.place k = way :: others)
    (h : Picks m.toCursor ⟨way, Thread.mark m.place ⟨k, m.slots⟩⟩ out) :
    Picks m.toCursor ⟨k, m.slots⟩ out := by
  have hb : Thread.branches m.place ⟨k, m.slots⟩ = [] ++
      ⟨way, Thread.mark m.place ⟨k, m.slots⟩⟩ ::
        others.map fun x => ⟨x, Thread.mark m.place ⟨k, m.slots⟩⟩ := by
    rw [Thread.branches, hways]
    rfl
  exact .branch hb (by simp) h

/-- The only way is taken. -/
theorem only {way : Frames} (hways : ways m.place k = [way])
    (h : Picks m.toCursor ⟨way, Thread.mark m.place ⟨k, m.slots⟩⟩ out) :
    Picks m.toCursor ⟨k, m.slots⟩ out :=
  first hways h

/-- The second way is taken if the first one is hopeless. -/
theorem second {way way' : Frames} (hways : ways m.place k = [way', way])
    (hhopeless : Hopeless m.toCursor way')
    (h : Picks m.toCursor ⟨way, Thread.mark m.place ⟨k, m.slots⟩⟩ out) :
    Picks m.toCursor ⟨k, m.slots⟩ out := by
  have hb : Thread.branches m.place ⟨k, m.slots⟩ =
      [⟨way', Thread.mark m.place ⟨k, m.slots⟩⟩] ++
        ⟨way, Thread.mark m.place ⟨k, m.slots⟩⟩ :: [] := by
    rw [Thread.branches, hways]
    rfl
  refine .branch hb (fun x hx => ?_) h
  obtain rfl := List.mem_singleton.mp hx
  exact hhopeless

/-- A character is taken. -/
theorem char {c : Char} {rest : List Char} {cls : CharClass} (hrest : m.rest = c :: rest)
    (hc : cls.contains c) (h : Picks (m.skip [c]).toCursor ⟨k, m.slots⟩ out) :
    Picks m.toCursor ⟨.tree (.chars cls) :: k, m.slots⟩ out :=
  .take hrest hc h

/-- A group records where it is. -/
theorem group {i : Nat} {r : Regex}
    (h : Picks m.toCursor ⟨.tree r :: .close i :: k, (m.record (2 * i)).slots⟩ out) :
    Picks m.toCursor ⟨.tree (.group i r) :: k, m.slots⟩ out :=
  only rfl h

/-- The end of a group records where it is. -/
theorem close {i : Nat} (h : Picks m.toCursor ⟨k, (m.record (2 * i + 1)).slots⟩ out) :
    Picks m.toCursor ⟨.close i :: k, m.slots⟩ out :=
  only rfl h

/-- The first tree is matched before the others. -/
theorem cats {r : Regex} {rs : List Regex} (hrs : rs ≠ [])
    (h : Picks m.toCursor ⟨.tree r :: .tree (cats rs) :: k, m.slots⟩ out) :
    Picks m.toCursor ⟨.tree (Regex.cats (r :: rs)) :: k, m.slots⟩ out := by
  rw [Regex.cats]
  · exact only rfl h
  · exact hrs

/-- Rounds of characters that end as soon as they can. -/
theorem rounds_lazy {cls : CharClass} {w rest : List Char} (hrest : m.rest = w ++ rest)
    (hw : ∀ c ∈ w, cls.contains c)
    (hshorter : ∀ v after, w = v ++ after → after ≠ [] → Hopeless (m.skip v).toCursor k)
    (h : Picks (m.skip w).toCursor ⟨k, m.slots⟩ out) :
    Picks m.toCursor ⟨.round false (.chars cls) :: k, m.slots⟩ out := by
  induction w generalizing m with
  | nil =>
    rw [m.skip_nil] at h
    exact first rfl h
  | cons c cs ih =>
    have hhere : Hopeless m.toCursor k := by
      have := hshorter [] (c :: cs) rfl (List.cons_ne_nil c cs)
      rwa [m.skip_nil] at this
    refine second rfl hhere (char hrest (hw c (.head _)) ?_)
    have hleft : (m.skip [c]).rest = cs ++ rest := rest_skip (w := [c]) hrest
    refine ih hleft (fun d hd => hw d (.tail _ hd)) (fun v after hv hafter => ?_) ?_
    · rw [← m.skip_append]
      exact hshorter (c :: v) after (by rw [hv]; rfl) hafter
    · rw [← m.skip_append]
      exact h

/-- A lazy repetition of characters stands for the first text after which what follows can
match. -/
theorem lazy {cls : CharClass} {w rest : List Char} (hne : w ≠ []) (hrest : m.rest = w ++ rest)
    (hw : ∀ c ∈ w, cls.contains c)
    (hshorter : ∀ v after, w = v ++ after → v ≠ [] → after ≠ [] → Hopeless (m.skip v).toCursor k)
    (h : Picks (m.skip w).toCursor ⟨k, m.slots⟩ out) :
    Picks m.toCursor ⟨.tree (.rep false 1 none (.chars cls)) :: k, m.slots⟩ out := by
  obtain ⟨c, cs, rfl⟩ := List.exists_cons_of_ne_nil hne
  refine only rfl (char hrest (hw c (.head _)) ?_)
  have hleft : (m.skip [c]).rest = cs ++ rest := rest_skip (w := [c]) hrest
  refine rounds_lazy hleft (fun d hd => hw d (.tail _ hd)) (fun v after hv hafter => ?_) ?_
  · rw [← m.skip_append]
    exact hshorter (c :: v) after (by rw [hv]; rfl) (List.cons_ne_nil c v) hafter
  · rw [← m.skip_append]
    exact h

/-- Rounds of characters that go on as long as they can. -/
theorem rounds_greedy {cls : CharClass} {w rest : List Char} (hrest : m.rest = w ++ rest)
    (hw : ∀ c ∈ w, cls.contains c) (hstop : ∀ c ∈ rest.head?, ¬cls.contains c)
    (h : Picks (m.skip w).toCursor ⟨k, m.slots⟩ out) :
    Picks m.toCursor ⟨.round true (.chars cls) :: k, m.slots⟩ out := by
  induction w generalizing m with
  | nil =>
    rw [m.skip_nil] at h
    refine second rfl (.of_not_spans fun slots n hspan => ?_) h
    obtain ⟨c, cs, hc, hcls, -⟩ := hspan
    have hrest : c :: cs = rest := hc.symm.trans hrest
    exact hstop c (by rw [← hrest]; rfl) hcls
  | cons c cs ih =>
    refine first rfl (char hrest (hw c (.head _)) ?_)
    have hleft : (m.skip [c]).rest = cs ++ rest := rest_skip (w := [c]) hrest
    refine ih hleft (fun d hd => hw d (.tail _ hd)) ?_
    rw [← m.skip_append]
    exact h

/-- A greedy repetition of characters stands for all of them that follow. -/
theorem greedy {cls : CharClass} {w rest : List Char} (hrest : m.rest = w ++ rest)
    (hw : ∀ c ∈ w, cls.contains c) (hstop : ∀ c ∈ rest.head?, ¬cls.contains c)
    (h : Picks (m.skip w).toCursor ⟨k, m.slots⟩ out) :
    Picks m.toCursor ⟨.tree (.rep true 0 none (.chars cls)) :: k, m.slots⟩ out :=
  only rfl (rounds_greedy hrest hw hstop h)

/-- A lazy group captures the first text after which what follows can match. -/
theorem lazy_group {i : Nat} {cls : CharClass} {w rest : List Char} (hne : w ≠ [])
    (hrest : m.rest = w ++ rest) (hw : ∀ c ∈ w, cls.contains c)
    (hshorter : ∀ v after, w = v ++ after → v ≠ [] → after ≠ [] → Hopeless (m.skip v).toCursor k)
    (h : Picks (m.capture i w).toCursor ⟨k, (m.capture i w).slots⟩ out) :
    Picks m.toCursor ⟨.tree (.group i (.rep false 1 none (.chars cls))) :: k, m.slots⟩ out := by
  refine group (lazy (m := m.record (2 * i)) hne hrest hw (fun v after hv hv' hafter => ?_) ?_)
  · exact (hshorter v after hv hv' hafter).close i
  · exact close (m := (m.record (2 * i)).skip w) h

/-- Characters in order stand for the text that they are. -/
theorem literal {text rest : List Char} {rs : List Regex} (hrs : rs ≠ [])
    (hrest : m.rest = text ++ rest)
    (h : Picks (m.skip text).toCursor ⟨.tree (Regex.cats rs) :: k, m.slots⟩ out) :
    Picks m.toCursor ⟨.tree (Regex.cats (text.map Regex.char ++ rs)) :: k, m.slots⟩ out := by
  induction text generalizing m with
  | nil =>
    rw [m.skip_nil] at h
    exact h
  | cons c cs ih =>
    refine cats (List.append_ne_nil_of_right_ne_nil _ hrs) ?_
    have hleft : (m.skip [c]).rest = cs ++ rest := rest_skip (w := [c]) hrest
    refine char hrest (CharClass.contains_single.mpr rfl) (ih hleft ?_)
    rw [← m.skip_append]
    exact h

end Picks

/-- What remains to be matched after a tree between the ends of the text. -/
def Frames.closing : Frames :=
  [.tree (.look .textEnd), .close 0]

/-- The match ends with the text. -/
theorem Picks.closing {m : Reading} (hend : m.rest = []) :
    Picks m.toCursor ⟨closing, m.slots⟩ (m.record 1).slots := by
  have hways : ways m.place Frames.closing = [[.close 0]] := by
    rw [Frames.closing, ways, if_pos]
    rw [Cursor.place, hend]
    rfl
  exact only hways (close (i := 0) .finish)

/-- The preferred run of a tree between the ends of the text is found. -/
theorem Regex.searchSlots_between_of_picks {r : Regex} {text : List Char} {slots : Slots}
    (h : Picks (r.startReading text []).toCursor
      ⟨.tree r :: closing, (r.startReading text []).slots⟩ slots) :
    r.between.searchSlots text = some slots := by
  refine searchSlots_of_picks (r := r.between) ?_
  rw [startThread, startSlots_between]
  let m := r.startReading text []
  exact Picks.only (m := m) rfl
    (Picks.only (m := m) rfl (Picks.only (m := m) rfl h))

end Parley
