import Parley.Proofs.Reader.Group

/-!
# Where groups are opened

The groups of a pattern are numbered in the order of the parentheses that open them. So a group is
told by the place of its parenthesis, and later places have higher numbers.

## Main definitions

- `Reader.Opens` — the group that is opened at a place of a pattern
- `Reader.Numbered` — no tree has a group that was not opened

## Main results

- `Reader.step_mono`, `Reader.reads_mono` — a step takes text and no number of a group back
- `Reader.Opens.lt` — groups are numbered from left to right
- `Reader.lastGroup_le_captureCount` — a pattern has no group with a higher number than it opens
-/

namespace Parley

namespace Reader

variable {p q : Reader} {c : Char} {s text : List Char}

/-- What starts is a group that captures or one that does not, or it sets flags. -/
theorem eq_of_startGroup (h : p.startGroup s = some q) :
    ∃ rest, rest <:+ s ∧
      ((∃ names, q = { p.openGroup (some (p.captures + 1)) p.flags rest with names }) ∨
        (∃ flags, q = p.openGroup none flags rest) ∨
        ∃ flags, q = { p.push .flags rest with flags }) := by
  have hs := p.flags.skip_suffix s
  obtain ⟨-, rfl⟩ | ⟨read, cs, hread, hcs, -, h, -⟩ := startGroup_cases h
  · exact ⟨_, hs, .inl ⟨p.names, rfl⟩⟩
  rcases hread with rfl | rfl
  · obtain ⟨⟨name, rest⟩, hname, h⟩ := Option.bind_eq_some_iff.mp h
    refine ⟨rest, ((readName_append hname).1.trans hcs).trans hs, .inl ?_⟩
    simp only at h
    split at h
    · cases h
    · cases h
      exact ⟨_, rfl⟩
  · obtain ⟨⟨⟨f, noFlags⟩, left⟩, hflags, h⟩ := Option.bind_eq_some_iff.mp h
    have hleft := ((readFlags_append hflags).2.1.trans hcs).trans hs
    simp only at h
    split at h
    · split at h
      · cases h
      · cases h
        exact ⟨_, (List.suffix_cons _ _).trans hleft, .inr (.inr ⟨_, rfl⟩)⟩
    · cases h
      exact ⟨_, (List.suffix_cons _ _).trans hleft, .inr (.inl ⟨_, rfl⟩)⟩
    · cases h

/-- A step takes text and no number of a group back. -/
theorem step_mono (h : p.step c s = some q) : q.rest <:+ s ∧ p.captures ≤ q.captures := by
  by_cases hopen : c = '('
  · subst hopen
    obtain ⟨rest, hrest, hq⟩ := eq_of_startGroup h
    obtain ⟨names, rfl⟩ | ⟨flags, rfl⟩ | ⟨flags, rfl⟩ := hq
    · exact ⟨hrest, Nat.le_succ _⟩
    · exact ⟨hrest, Nat.le_refl _⟩
    · exact ⟨hrest, Nat.le_refl _⟩
  by_cases hclose : c = ')'
  · subst hclose
    simp only [step, endGroup] at h
    split at h
    · cases h
    · cases h
      exact ⟨List.suffix_refl _, Nat.le_refl _⟩
  rw [step_eq p hopen hclose] at h
  obtain ⟨x, hread, h⟩ := Option.bind_eq_some_iff.mp h
  obtain ⟨b, -, rfl⟩ := Option.map_eq_some_iff.mp h
  exact ⟨(readConstruct_append hread).1, Nat.le_refl _⟩

/-- What the reader does takes text and no number of a group back. -/
theorem reads_mono (h : Reads p q) : q.rest <:+ p.rest ∧ p.captures ≤ q.captures := by
  induction h with
  | refl => exact ⟨List.suffix_refl _, Nat.le_refl _⟩
  | @tail p' q _ hadvances ih =>
    obtain ⟨c, s, hskip, hstep⟩ := hadvances
    obtain ⟨hrest, hcaptures⟩ := step_mono hstep
    have hs : c :: s <:+ p'.rest := hskip ▸ p'.flags.skip_suffix _
    exact ⟨((hrest.trans (List.suffix_cons c s)).trans hs).trans ih.1, ih.2.trans hcaptures⟩

/-- The reader takes one step at most. -/
theorem advances_unique : Relator.RightUnique Advances := by
  rintro p q q' ⟨c, s, hskip, hstep⟩ ⟨c', s', hskip', hstep'⟩
  obtain ⟨rfl, rfl⟩ := List.cons.inj (hskip.symm.trans hskip')
  exact Option.some.inj (hstep.symm.trans hstep')

/-- The reader of a text opens the capturing group `g` at the parenthesis at this offset. -/
def Opens (text : List Char) (offset g : Nat) : Prop :=
  ∃ (p q : Reader) (s : List Char), Reads { rest := text } p ∧ p.flags.skip p.rest = '(' :: s ∧
    text.drop offset = '(' :: s ∧ p.step '(' s = some q ∧
    q.groups = ⟨some g, p.flags, p.inner⟩ :: p.groups

/-- A group that is opened has the next number. -/
theorem captures_of_opens {g : Nat} (h : p.startGroup s = some q)
    (hgroups : q.groups = ⟨some g, p.flags, p.inner⟩ :: p.groups) :
    g = p.captures + 1 ∧ q.captures = g := by
  obtain ⟨rest, -, hq⟩ := eq_of_startGroup h
  obtain ⟨names, rfl⟩ | ⟨flags, rfl⟩ | ⟨flags, rfl⟩ := hq
  · cases hgroups
    exact ⟨rfl, rfl⟩
  · cases hgroups
  · exact absurd hgroups.symm (List.cons_ne_self _ _)

/-- Groups are numbered from left to right. -/
theorem Opens.lt {offset offset' g g' : Nat} (h : Opens text offset g) (h' : Opens text offset' g')
    (hlt : offset < offset') : g < g' := by
  obtain ⟨p, q, s, hreads, hskip, hdrop, hstep, hgroups⟩ := h
  obtain ⟨p', q', s', hreads', hskip', hdrop', hstep', hgroups'⟩ := h'
  obtain ⟨-, hq⟩ := captures_of_opens hstep hgroups
  obtain ⟨hg', -⟩ := captures_of_opens hstep' hgroups'
  have hlength : s'.length < s.length := by
    have hs := congrArg List.length hdrop
    have hs' := congrArg List.length hdrop'
    simp only [List.length_drop, List.length_cons] at hs hs'
    omega
  -- the reader that is first at its parenthesis opens the group with the lesser number
  obtain hpp' | hp'p := Relation.ReflTransGen.total_of_right_unique advances_unique hreads hreads'
  · rcases Relation.ReflTransGen.cases_head hpp' with rfl | ⟨q₁, hadvances, hreads⟩
    · rw [hskip] at hskip'
      cases hskip'
      omega
    · obtain rfl := advances_unique ⟨'(', s, hskip, hstep⟩ hadvances
      have := (reads_mono hreads).2
      omega
  · rcases Relation.ReflTransGen.cases_head hp'p with rfl | ⟨q₁, hadvances, hreads⟩
    · rw [hskip] at hskip'
      cases hskip'
      omega
    · obtain rfl := advances_unique ⟨'(', s', hskip', hstep'⟩ hadvances
      have hq' := (step_mono hstep').1.length_le
      have hp := (reads_mono hreads).1.length_le
      have hs := (p.flags.skip_suffix p.rest).length_le
      rw [hskip, List.length_cons] at hs
      omega

theorem inherited_lastGroup (k : Nat) : Regex.Inherited fun r => r.lastGroup ≤ k where
  empty := Nat.zero_le _
  cat hr hs := Nat.max_le.mpr ⟨hr, hs⟩
  alt hr hs := Nat.max_le.mpr ⟨hr, hs⟩
  rep _ _ _ h := h

/-- No tree that has been read has a group that was not opened. -/
structure Numbered (p : Reader) : Prop where
  /-- The branches of the innermost group have none. -/
  inner : p.inner.All fun r => r.lastGroup ≤ p.captures
  /-- The branches around the open groups have none. -/
  outer : ∀ g ∈ p.groups, g.outer.All fun r => r.lastGroup ≤ p.captures
  /-- The open groups have been opened. -/
  index : ∀ g ∈ p.groups, ∀ i, g.index = some i → i ≤ p.captures

theorem Numbered.openGroup (h : p.Numbered) {index : Option Nat}
    (hindex : ∀ i, index = some i → i ≤ p.captures + 1) (flags : Flags) (rest : List Char)
    (names : List (List Char)) : Numbered { p.openGroup index flags rest with names } := by
  have hmono : p.captures ≤ (p.openGroup index flags rest).captures := Nat.le_add_right _ _
  have hall : ∀ {b : Branches}, (b.All fun r => r.lastGroup ≤ p.captures) →
      b.All fun r => r.lastGroup ≤ (p.openGroup index flags rest).captures :=
    fun hb => ⟨fun x hx => (hb.done x hx).trans hmono, fun i hi => (hb.items i hi).trans hmono⟩
  refine ⟨.nil, fun g hg => ?_, fun g hg i hi => ?_⟩
  · rcases List.mem_cons.mp hg with rfl | hg
    · exact hall h.inner
    · exact hall (h.outer g hg)
  · rcases List.mem_cons.mp hg with rfl | hg
    · obtain rfl : index = some i := hi
      exact hindex i rfl
    · exact (h.index g hg i hi).trans hmono

/-- A step numbers its trees by the groups that are opened. -/
theorem Numbered.step (h : p.Numbered) (hstep : p.step c s = some q) : q.Numbered := by
  by_cases hopen : c = '('
  · subst hopen
    obtain ⟨rest, -, hq⟩ := eq_of_startGroup hstep
    obtain ⟨names, rfl⟩ | ⟨flags, rfl⟩ | ⟨flags, rfl⟩ := hq
    · exact h.openGroup (fun i hi => (Option.some.inj hi).ge) _ _ names
    · exact h.openGroup (by simp) _ _ p.names
    · exact ⟨h.inner.cons (Nat.zero_le _), h.outer, h.index⟩
  by_cases hclose : c = ')'
  · subst hclose
    obtain ⟨flags, inner, groups, captures, names, text⟩ := p
    cases groups with
    | nil => cases hstep
    | cons g groups =>
      obtain ⟨index, flags', outer⟩ := g
      have hinner := h.inner.close (inherited_lastGroup _)
      cases hstep
      refine ⟨(h.outer _ (.head _)).cons ?_, fun g hg => h.outer g (.tail _ hg),
        fun g hg => h.index g (.tail _ hg)⟩
      cases index with
      | none => exact hinner
      | some i => exact Nat.max_le.mpr ⟨h.index _ (.head _) i rfl, hinner⟩
  rw [step_eq p hopen hclose] at hstep
  obtain ⟨⟨x, left⟩, hread, hstep⟩ := Option.bind_eq_some_iff.mp hstep
  obtain ⟨b, happly, rfl⟩ := Option.map_eq_some_iff.mp hstep
  refine ⟨h.inner.apply (inherited_lastGroup _) (fun r depth hx => ?_) happly, h.outer, h.index⟩
  subst hx
  rw [Regex.lastGroup_of_groupFree (groupFree_of_readConstruct hread)]
  exact Nat.zero_le _

theorem Numbered.reads (h : p.Numbered) (hreads : Reads p q) : q.Numbered := by
  induction hreads with
  | refl => exact h
  | tail _ hadvances ih =>
    obtain ⟨c, s, -, hstep⟩ := hadvances
    exact ih.step hstep

/-- The groups of a pattern are numbered by their parentheses. -/
theorem lastGroup_le_captureCount {r : Regex} (h : Regex.parse? s = some r) :
    r.lastGroup ≤ captureCount s := by
  obtain ⟨q, hrun, -, rfl⟩ := Regex.reads_of_parse? h
  have hstart : Numbered { rest := s } :=
    ⟨.nil, fun _ hg => (List.not_mem_nil hg).elim, fun _ hg => (List.not_mem_nil hg).elim⟩
  have hq := (hstart.reads (reads_of_run hrun).1).inner.close (inherited_lastGroup _)
  rwa [captureCount, hrun]

end Reader

end Parley
