import Parley.Proofs.Reader.Shift
import Parley.Template.Chunk

/-!
# Patterns within a group

A pattern that can be read on its own is read in the same way within a group, with its own groups
and flags, up to the parenthesis that closes the group. Only the numbers of its groups are others,
and it fails if one of its names is taken. A comment of verbose mode can go over the parenthesis;
then the group stays open and nothing is read.

## Main definitions

- `Reader.inside` — the reader of a pattern within the open groups of another one
- `Reader.Passes` — the reader gets over a part of a pattern, which is read as items
- `Reader.captureCount` — the number of capturing groups in a pattern

## Main results

- `Reader.step_inside`, `Reader.reads_inside` — a reader within a group does what it does alone
- `Regex.eq_between_of_anchored?` — a pattern that is put between the ends of the text has its own
  tree there
- `Reader.reads_parenthesis` — a pattern in parentheses is read as the group of its tree
-/

namespace Parley

namespace Reader

/-- The reader within the open groups of another one, with other text. Its groups are numbered after
those that the other reader has opened. -/
def inside (p outer : Reader) (rest : List Char) : Reader where
  flags := p.flags
  inner := p.inner.shift outer.captures
  groups := p.groups.map (OpenGroup.shift outer.captures) ++ outer.groups
  captures := outer.captures + p.captures
  names := p.names ++ outer.names
  rest := rest

-- ════════════════════════════════════════════════════════════════════════
-- The start of a group
-- ════════════════════════════════════════════════════════════════════════

/-- Flags are read up to a colon or a parenthesis, whatever follows. -/
theorem readFlags_append {f : Flags} {seen s rest : List Char} {x : Flags × Bool}
    (h : readFlags f seen s = some (x, rest)) :
    rest ≠ [] ∧ rest <:+ s ∧ ∀ t, readFlags f seen (s ++ t) = some (x, rest ++ t) := by
  induction s generalizing f seen with
  | nil => cases h
  | cons c cs ih =>
    simp only [readFlags, List.cons_append] at h ⊢
    split at h
    · next hend =>
      split at h
      · cases h
      · next hdash =>
        cases h
        refine ⟨List.cons_ne_nil _ _, List.suffix_refl _, fun t => ?_⟩
        rw [if_pos hend, if_neg hdash]
        rfl
    next hend =>
    split at h
    · cases h
    next hseen =>
    split at h
    · next hdash =>
      obtain ⟨hne, hsuffix, happend⟩ := ih h
      refine ⟨hne, hsuffix.trans (List.suffix_cons c cs), fun t => ?_⟩
      rw [if_neg hend, if_neg hseen, if_pos hdash]
      exact happend t
    next hdash =>
    cases hset : f.set? c (!seen.contains '-') with
    | none =>
      rw [hset] at h
      cases h
    | some g =>
      rw [hset] at h
      obtain ⟨hne, hsuffix, happend⟩ := ih h
      refine ⟨hne, hsuffix.trans (List.suffix_cons c cs), fun t => ?_⟩
      rw [if_neg hend, if_neg hseen, if_neg hdash]
      exact happend t

/-- A name ends at its angle bracket. -/
theorem readName_cons {c : Char} {cs rest : List Char} (h : '>' ∉ c :: cs) :
    readName (c :: cs ++ '>' :: rest) =
      if isNameChar true c && cs.all (isNameChar false) then some (c :: cs, rest) else none := by
  unfold readName
  rw [(splitName h).1, (splitName h).2]

/-- A name is read up to its angle bracket, whatever follows. -/
theorem readName_append {s name rest : List Char} (h : readName s = some (name, rest)) :
    rest <:+ s ∧ ∀ t, readName (s ++ t) = some (name, rest ++ t) := by
  by_cases hmark : '>' ∈ s
  · obtain ⟨before, after, rfl, hbefore⟩ := List.eq_append_cons_of_mem hmark
    cases before with
    | nil => cases h
    | cons c cs =>
      rw [readName_cons hbefore] at h
      split at h
      · next hchars =>
        cases h
        refine ⟨(List.suffix_cons _ _).trans (List.suffix_append _ _), fun t => ?_⟩
        rw [List.append_assoc]
        exact (readName_cons hbefore).trans (if_pos hchars)
      · cases h
  · unfold readName at h
    rw [dropWhile_eq_nil_of_not_mem hmark] at h
    generalize s.takeWhile (· ≠ '>') = before at h
    cases before <;> cases h

variable {p q q' outer : Reader} {s t rest : List Char}

theorem head?_append_paren {c : Char} (hc : c ≠ ')') (hs : s.head? ≠ some c) :
    (s ++ ')' :: t).head? ≠ some c := by
  cases s with
  | nil => simpa using Ne.symm hc
  | cons d ds => exact hs

/-- What is read of a group after its question mark, unless it has a name: flags, and the group that
they are for unless they are for the rest of the group around it. -/
def flagGroup (p : Reader) (s : List Char) : Option Reader :=
  (readFlags p.flags [] s).bind fun x =>
    match x.2 with
    | ')' :: rest => if x.1.2 then none else some { p.push .flags rest with flags := x.1.1 }
    | ':' :: rest => some (p.openGroup none x.1.1 rest)
    | _ => none

theorem startGroup_capture (hskip : (p.flags.skip s).head? ≠ some '?') :
    p.startGroup s = some (p.openGroup (some (p.captures + 1)) p.flags (p.flags.skip s)) := by
  unfold startGroup
  split
  case h_8 => rfl
  all_goals next heq => exact absurd (by rw [heq]; rfl) hskip

theorem startGroup_named {rest : List Char} (hskip : p.flags.skip s = '?' :: '<' :: rest)
    (hlookbehind : rest.head? ≠ some '=' ∧ rest.head? ≠ some '!') :
    p.startGroup s = p.openNamed rest := by
  unfold startGroup
  rw [hskip]
  split
  case h_6 heq =>
    cases heq
    rfl
  case h_7 _ hnamed heq =>
    cases heq
    exact absurd rfl (hnamed rest)
  all_goals next heq => simp_all

theorem startGroup_namedP {rest : List Char}
    (hskip : p.flags.skip s = '?' :: 'P' :: '<' :: rest) : p.startGroup s = p.openNamed rest := by
  simp only [startGroup, hskip]

theorem startGroup_flags {c : Char} {cs : List Char} (hskip : p.flags.skip s = '?' :: c :: cs)
    (hc : c ≠ '=' ∧ c ≠ '!' ∧ c ≠ '<') (hname : ¬(c = 'P' ∧ cs.head? = some '<')) :
    p.startGroup s = p.flagGroup (c :: cs) := by
  unfold startGroup
  rw [hskip]
  split
  case h_7 heq =>
    cases heq
    rfl
  all_goals next heq => simp_all

/-- A group starts with a name, with flags or without either. What is read of the first two does not
depend on what follows the text. -/
theorem startGroup_cases (h : p.startGroup s = some q) :
    ((p.flags.skip s).head? ≠ some '?' ∧
      q = p.openGroup (some (p.captures + 1)) p.flags (p.flags.skip s)) ∨
    ∃ (read : Reader → List Char → Option Reader) (cs : List Char),
      (read = openNamed ∨ read = flagGroup) ∧ cs <:+ p.flags.skip s ∧ p.flags.skip s ≠ [] ∧
      read p cs = some q ∧ ∀ (p' : Reader) (s' t : List Char),
        p'.flags.skip s' = p.flags.skip s ++ ')' :: t →
          p'.startGroup s' = read p' (cs ++ ')' :: t) := by
  by_cases hcapture : (p.flags.skip s).head? ≠ some '?'
  · rw [startGroup_capture hcapture] at h
    exact .inl ⟨hcapture, (Option.some.inj h).symm⟩
  rw [ne_eq, not_not] at hcapture
  obtain ⟨cs, hskip⟩ := List.head?_eq_some_iff.mp hcapture
  rw [hskip]
  cases cs with
  | nil =>
    simp only [startGroup, hskip] at h
    cases h
  | cons c cs =>
    by_cases hlook : c = '=' ∨ c = '!'
    · rcases hlook with rfl | rfl
      all_goals
        simp only [startGroup, hskip] at h
        cases h
    by_cases hangle : c = '<'
    · subst hangle
      by_cases hbehind : cs.head? = some '=' ∨ cs.head? = some '!'
      · rcases hbehind with hbehind | hbehind
        all_goals
          obtain ⟨ds, rfl⟩ := List.head?_eq_some_iff.mp hbehind
          simp only [startGroup, hskip] at h
          cases h
      · rw [not_or] at hbehind
        rw [startGroup_named hskip hbehind] at h
        refine .inr ⟨openNamed, cs, .inl rfl, ?_, List.cons_ne_nil _ _, h, fun p' s' t hs' => ?_⟩
        · exact (List.suffix_cons _ _).trans (List.suffix_cons _ _)
        · exact startGroup_named hs'
            ⟨head?_append_paren (by decide) hbehind.1, head?_append_paren (by decide) hbehind.2⟩
    by_cases hname : c = 'P' ∧ cs.head? = some '<'
    · obtain ⟨rfl, hname⟩ := hname
      obtain ⟨ds, rfl⟩ := List.head?_eq_some_iff.mp hname
      rw [startGroup_namedP hskip] at h
      refine .inr ⟨openNamed, ds, .inl rfl, ?_, List.cons_ne_nil _ _, h, fun p' s' t hs' => ?_⟩
      · exact ((List.suffix_cons _ _).trans (List.suffix_cons _ _)).trans (List.suffix_cons _ _)
      · exact startGroup_namedP hs'
    · rw [not_or] at hlook
      have hc : c ≠ '=' ∧ c ≠ '!' ∧ c ≠ '<' := ⟨hlook.1, hlook.2, hangle⟩
      rw [startGroup_flags hskip hc hname] at h
      refine .inr ⟨flagGroup, c :: cs, .inr rfl, List.suffix_cons _ _, List.cons_ne_nil _ _, h,
        fun p' s' t hs' => ?_⟩
      refine startGroup_flags hs' hc ?_
      rintro ⟨hp, hangle'⟩
      exact head?_append_paren (by decide) (fun heq => hname ⟨hp, heq⟩) hangle'

-- ════════════════════════════════════════════════════════════════════════
-- Steps within a group
-- ════════════════════════════════════════════════════════════════════════

theorem openNamed_inside (h : p.openNamed s = some q)
    (h' : (p.inside outer rest).openNamed (s ++ t) = some q') :
    q' = q.inside outer (q.rest ++ t) := by
  obtain ⟨⟨name, left⟩, hname, h⟩ := Option.bind_eq_some_iff.mp h
  simp only at h
  split at h
  · cases h
  cases h
  unfold openNamed at h'
  simp only [(readName_append hname).2, Option.bind_eq_bind, Option.bind_some] at h'
  split at h'
  · cases h'
  cases h'
  rfl

theorem flagGroup_inside (h : p.flagGroup s = some q)
    (h' : (p.inside outer rest).flagGroup (s ++ t) = some q') :
    q' = q.inside outer (q.rest ++ t) := by
  obtain ⟨⟨⟨f, noFlags⟩, left⟩, hflags, h⟩ := Option.bind_eq_some_iff.mp h
  have hflags' : readFlags (p.inside outer rest).flags [] (s ++ t) = _ :=
    (readFlags_append hflags).2.2 t
  rw [flagGroup, hflags', Option.bind_some] at h'
  simp only at h
  split at h
  · split at h
    · cases h
    · next hflag =>
      cases h
      exact Option.some.inj (h'.symm.trans (if_neg hflag))
  · cases h
    cases h'
    rfl
  · cases h

/-- A group starts in the same way within another group. -/
theorem startGroup_inside (h : p.startGroup s = some q) (hp : p.flags.verbose → '\n' ∉ t)
    (hq : q.flags.verbose → '\n' ∉ t)
    (h' : (p.inside outer rest).startGroup (s ++ ')' :: t) = some q') :
    ∃ rest', q' = q.inside outer rest' ∧ q.flags.Enclosed t q.rest rest' := by
  have henclosed := (Flags.Enclosed.before hp s).skip
  obtain ⟨hcapture, rfl⟩ | ⟨read, cs, hread, -, hne, h, hlonger⟩ := startGroup_cases h
  · have hcapture' : ((p.inside outer rest).flags.skip (s ++ ')' :: t)).head? ≠ some '?' := by
      change (p.flags.skip (s ++ ')' :: t)).head? ≠ some '?'
      generalize p.flags.skip s = left at henclosed hcapture
      generalize p.flags.skip (s ++ ')' :: t) = left' at henclosed
      cases henclosed with
      | before => exact head?_append_paren (by decide) hcapture
      | swallowed => exact hcapture
    rw [startGroup_capture hcapture'] at h'
    cases h'
    exact ⟨_, rfl, henclosed⟩
  · rw [hlonger (p.inside outer rest) _ t (henclosed.eq_of_ne_nil hne)] at h'
    refine ⟨q.rest ++ ')' :: t, ?_, .before hq _⟩
    rcases hread with rfl | rfl
    · exact openNamed_inside h h'
    · exact flagGroup_inside h h'

/-- A group that was opened in the pattern is closed in the same way within another group. -/
theorem endGroup_inside (h : p.endGroup s = some q) (s' : List Char) :
    (p.inside outer rest).endGroup s' = some (q.inside outer s') ∧ q.rest = s := by
  obtain ⟨flags, inner, groups, captures, names, text⟩ := p
  cases groups with
  | nil => cases h
  | cons g groups =>
    obtain ⟨index, flags', branches⟩ := g
    cases h
    have hclose := inner.shift_close outer.captures
    refine ⟨?_, rfl⟩
    simp only [endGroup, inside, List.map_cons, List.cons_append, hclose]
    cases index <;> rfl

/-- A step within a group does what it does alone. -/
theorem step_inside {c : Char} (h : p.step c s = some q) (hp : p.flags.verbose → '\n' ∉ t)
    (hq : q.flags.verbose → '\n' ∉ t)
    (h' : (p.inside outer rest).step c (s ++ ')' :: t) = some q') :
    ∃ rest', q' = q.inside outer rest' ∧ q.flags.Enclosed t q.rest rest' := by
  by_cases hopen : c = '('
  · subst hopen
    exact startGroup_inside h hp hq h'
  by_cases hclose : c = ')'
  · subst hclose
    obtain ⟨hinside, hrest⟩ := endGroup_inside h (s ++ ')' :: t)
    rw [hrest]
    exact ⟨_, Option.some.inj (h'.symm.trans hinside), .before hq _⟩
  rw [step_eq p hopen hclose] at h
  obtain ⟨⟨x, left⟩, hread, h⟩ := Option.bind_eq_some_iff.mp h
  obtain ⟨b, happly, rfl⟩ := Option.map_eq_some_iff.mp h
  obtain ⟨left', hleft, henclosed⟩ := (readConstruct_append hread).2 t hp
  have hfree : ∀ r depth, x = .piece r depth → r.groupFree := fun r depth hx =>
    groupFree_of_readConstruct (hread.trans (congrArg (fun y => some (y, left)) hx))
  have happly' : (p.inside outer rest).inner.apply x = some (b.shift outer.captures) := by
    rw [inside, Branches.shift_apply _ _ hfree, happly, Option.map_some]
  have hread' : readConstruct (p.inside outer rest).flags c (s ++ ')' :: t) = _ := hleft
  rw [step_eq _ hopen hclose, hread', Option.bind_some, happly', Option.map_some] at h'
  cases h'
  exact ⟨left', rfl, henclosed⟩

/-- What the reader does alone it does within a group, unless it fails there. Where verbose mode is
on, what follows the group is on one line, so that a comment goes over all of it or over nothing. -/
theorem reads_inside {fuel : Nat} (h : Reads p q)
    (ht : ∀ q, Reads p q → q.flags.verbose → '\n' ∉ t)
    (hrest : p.flags.Enclosed t p.rest rest) (hrun : run fuel (p.inside outer rest) = some q') :
    ∃ rest', Reads (p.inside outer rest) (q.inside outer rest') ∧
      q.flags.Enclosed t q.rest rest' := by
  induction h using Relation.ReflTransGen.head_induction_on generalizing rest fuel with
  | refl => exact ⟨rest, .refl, hrest⟩
  | @head p₀ p₁ hstep _ ih =>
    obtain ⟨c, s, hskip, hstep⟩ := hstep
    have hlonger : p₀.flags.skip rest = c :: s ++ ')' :: t := by
      rw [← hskip]
      exact hrest.skip.eq_of_ne_nil (by rw [hskip]; exact List.cons_ne_nil c s)
    obtain ⟨fuel', p₁', hstep', hrun'⟩ := step_of_run hrun hlonger
    have hadvances : Advances p₀ p₁ := ⟨c, s, hskip, hstep⟩
    obtain ⟨left, rfl, henclosed⟩ :=
      step_inside hstep (ht p₀ .refl) (ht p₁ (.single hadvances)) hstep'
    obtain ⟨rest', hreads, hrest'⟩ :=
      ih (fun q hq => ht q (.head hadvances hq)) henclosed hrun'
    exact ⟨rest', .head ⟨c, _, hlonger, hstep'⟩ hreads, hrest'⟩

-- ════════════════════════════════════════════════════════════════════════
-- The group between the ends of the text
-- ════════════════════════════════════════════════════════════════════════

/-- A step in the modes at the start of a pattern. -/
theorem Reads.of_step {c : Char} (hflags : p.flags = {}) (hrest : p.rest = c :: s)
    (h : p.step c s = some q) : Reads p q :=
  .single ⟨c, s, by rw [hflags, hrest]; rfl, h⟩

/-- The reader in the group between the ends of the text. -/
def opened (s : List Char) : Reader :=
  { groups := [⟨none, {}, ⟨[], [.tree (.look .textStart) 0]⟩⟩], rest := s }

theorem reads_opened (s : List Char) :
    Reads { rest := ['^', '(', '?', ':'] ++ s } (opened s) := by
  have hcaret : Reads { rest := ['^', '(', '?', ':'] ++ s }
      { inner := ⟨[], [.tree (.look .textStart) 0]⟩, rest := '(' :: '?' :: ':' :: s } :=
    Reads.of_step rfl rfl rfl
  exact hcaret.trans (Reads.of_step rfl rfl rfl)

/-- What was read in the group between the ends of the text is the tree between these ends. -/
theorem reads_closing (hgroups : p.groups = (opened []).groups)
    (hskip : p.flags.skip p.rest = [')', '$']) :
    ∃ q, Reads p q ∧ q.flags.skip q.rest = [] ∧ q.inner.close.1 = p.inner.close.1.between := by
  obtain ⟨flags, inner, groups, captures, names, rest⟩ := p
  obtain rfl : groups = (opened []).groups := hgroups
  exact ⟨_, .head ⟨')', ['$'], hskip, rfl⟩ (Reads.of_step rfl rfl rfl), rfl, rfl⟩

end Reader

/-- A pattern that is put between the ends of the text has its own tree there. -/
theorem Regex.eq_between_of_anchored? {s : List Char} {r r' : Regex} (h : parse? s = some r)
    (h' : anchored? s = some r') : r' = r.between := by
  obtain ⟨q, hrun, hgroups, rfl⟩ := reads_of_parse? h
  obtain ⟨q', hrun', hgroups', rfl⟩ := reads_of_parse? h'
  rw [List.append_assoc] at hrun'
  obtain ⟨hreads, hend⟩ := Reader.reads_of_run hrun
  have hdollar : '\n' ∉ ['$'] := by decide
  obtain ⟨fuel, hopened⟩ := Reader.run_of_reads hrun' (Reader.reads_opened _)
  have hopened : Reader.run fuel (Reader.inside { rest := s } (Reader.opened [])
    (s ++ [')', '$'])) = some q' := hopened
  obtain ⟨rest, hinside, henclosed⟩ :=
    Reader.reads_inside hreads (fun _ _ _ => hdollar) (.before (fun _ => hdollar) s) hopened
  have hwithin := (Reader.reads_opened _).trans hinside
  have hskip := henclosed.skip
  rw [hend] at hskip
  generalize hleft : q.flags.skip rest = left at hskip
  cases hskip with
  | before =>
    have hq : (q.inside (Reader.opened []) rest).groups = (Reader.opened []).groups := by
      rw [Reader.inside, hgroups, List.map_nil, List.nil_append]
    obtain ⟨q'', hclosing, hend', hclose⟩ := Reader.reads_closing hq hleft
    rw [Reader.eq_of_reads hrun' (hwithin.trans hclosing) hend', hclose, Reader.inside]
    exact congrArg (fun b : Branches => b.close.1.between) (Branches.shift_zero _)
  | swallowed =>
    -- the comment leaves the group open, and there is no tree
    obtain rfl := Reader.eq_of_reads hrun' hwithin hleft
    rw [Reader.inside, hgroups] at hgroups'
    cases hgroups'

-- ════════════════════════════════════════════════════════════════════════
-- A pattern in parentheses
-- ════════════════════════════════════════════════════════════════════════

namespace Reader

variable {p : Reader} {s t : List Char}

/-- The reader gets from one state to another over text that is read as items, with so many groups
in them, and is still in the same open groups. -/
structure Passes (p q : Reader) (items : List Item) (captures : Nat) (rest : List Char) :
    Prop where
  /-- It gets there. -/
  reads : Reads p q
  /-- The flags are the same. -/
  flags : q.flags = p.flags
  /-- The items stand after those before. -/
  inner : q.inner = ⟨p.inner.done, items.reverse ++ p.inner.items⟩
  /-- The open groups are the same. -/
  groups : q.groups = p.groups
  /-- The groups in the items have been opened. -/
  captures : q.captures = p.captures + captures
  /-- This text is left. -/
  rest : q.rest = rest

theorem Passes.refl (p : Reader) : Passes p p [] 0 p.rest :=
  ⟨.refl, rfl, rfl, rfl, rfl, rfl⟩

theorem Passes.push {c : Char} {i : Item} (hflags : p.flags = {}) (hrest : p.rest = c :: s)
    (h : p.step c s = some (p.push i t)) : Passes p (p.push i t) [i] 0 t :=
  ⟨.of_step hflags hrest h, rfl, rfl, rfl, rfl, rfl⟩

theorem Passes.trans {q r : Reader} {xs ys : List Item} {m n : Nat} (h : Passes p q xs m s)
    (h' : Passes q r ys n t) : Passes p r (xs ++ ys) (m + n) t where
  reads := h.reads.trans h'.reads
  flags := h'.flags.trans h.flags
  inner := by simp [h'.inner, h.inner]
  groups := h'.groups.trans h.groups
  captures := by rw [h'.captures, h.captures, Nat.add_assoc]
  rest := h'.rest

/-- A pattern that is read as items between the ends of the text has the tree of these items. -/
theorem Passes.eq_between {q : Reader} {items : List Item} {n : Nat} {r : Regex}
    (h : Passes (opened (s ++ [')', '$'])) q items n [')', '$']) (hr : anchored? s = some r) :
    r = (Regex.cats (items.map Item.regex)).between := by
  obtain ⟨final, hrun, -, rfl⟩ := Regex.reads_of_parse? hr
  rw [List.append_assoc] at hrun
  have hskip : q.flags.skip q.rest = [')', '$'] := by
    rw [h.flags, h.rest]
    rfl
  obtain ⟨q', hclosing, hend, hclose⟩ := reads_closing h.groups hskip
  have hitems : q.inner.close.1 = .cats (items.map Item.regex) := by
    rw [← concatItems_fst]
    simp [h.inner, opened, Branches.close, chooseBranches]
  rw [eq_of_reads hrun (((reads_opened _).trans h.reads).trans hclosing) hend, hclose, hitems]

/-- The number of capturing groups in a pattern. -/
def captureCount (s : List Char) : Nat :=
  ((run s.length { rest := s }).map captures).getD 0

theorem captureCount_eq_zero (hparen : '(' ∉ s) : captureCount s = 0 := by
  unfold captureCount
  cases hrun : run s.length { rest := s } with
  | none => rfl
  | some q => exact ((Flat.start hparen).reads (reads_of_run hrun).1).captures

/-- A pattern does not begin with a question mark, so a parenthesis before it opens a capturing
group. -/
theorem startGroup_of_parse? {r : Regex} (hflags : p.flags = {}) (hparse : Regex.parse? s = some r)
    (t : List Char) :
    p.startGroup (s ++ ')' :: t) =
      some (p.openGroup (some (p.captures + 1)) {} (s ++ ')' :: t)) := by
  have hhead : (p.flags.skip (s ++ ')' :: t)).head? ≠ some '?' := by
    rw [hflags, Flags.skip_default]
    cases s with
    | nil => simp
    | cons c cs =>
      intro heq
      obtain rfl : c = '?' := Option.some.inj heq
      -- there is nothing to repeat
      cases hparse
  rw [startGroup_capture hhead, hflags, Flags.skip_default]

/-- A pattern in parentheses is read as the group of its tree, and its own groups are numbered after
that group. If the text that follows has another line, a comment of verbose mode could end in it;
without a parenthesis in the pattern there is no such mode. -/
theorem reads_parenthesis {fuel : Nat} {final : Reader} {r : Regex}
    (hrun : run fuel p = some final) (hfinal : final.groups = []) (hflags : p.flags = {})
    (hrest : p.rest = '(' :: s ++ ')' :: t) (hparse : Regex.parse? s = some r)
    (ht : '\n' ∉ t ∨ '(' ∉ s) :
    ∃ q depth, Passes p q [.tree (.group (p.captures + 1) (r.shift (p.captures + 1))) depth]
      (captureCount s + 1) t := by
  obtain ⟨q, hq, hgroups, rfl⟩ := Regex.reads_of_parse? hparse
  obtain ⟨hreads, hend⟩ := reads_of_run hq
  let outer := p.openGroup (some (p.captures + 1)) {} (s ++ ')' :: t)
  have hopen : Reads p outer := .of_step hflags hrest (startGroup_of_parse? hflags hparse t)
  obtain ⟨fuel', hrun'⟩ := run_of_reads hrun hopen
  have houter : inside { rest := s } outer (s ++ ')' :: t) = outer := rfl
  rw [← houter] at hrun'
  have hline : ∀ q, Reads { rest := s } q → q.flags.verbose → '\n' ∉ t := fun q hq hverbose =>
    ht.resolve_right fun hparen => by
      -- only a parenthesis turns verbose mode on
      rw [((Flat.start hparen).reads hq).flags] at hverbose
      cases hverbose
  obtain ⟨rest, hinside, henclosed⟩ :=
    reads_inside hreads hline (.before (hline _ .refl) s) hrun'
  have hwithin := hopen.trans hinside
  have hskip := henclosed.skip
  rw [hend] at hskip
  generalize hleft : q.flags.skip rest = left at hskip
  cases hskip with
  | swallowed =>
    -- the comment leaves the group open
    obtain rfl := eq_of_reads hrun hwithin hleft
    rw [inside, hgroups] at hfinal
    cases hfinal
  | before =>
    have hclose := q.inner.shift_close outer.captures
    let i := Item.tree (.group (p.captures + 1) (q.inner.close.1.shift (p.captures + 1)))
      (q.inner.close.2 + 1)
    have hstep : (q.inside outer rest).step ')' t = some (push { p with
        captures := outer.captures + q.captures
        names := q.names ++ p.names } i t) := by
      simp only [step, endGroup, inside, hgroups, List.map_nil, List.nil_append, hclose]
      rfl
    refine ⟨_, _, hwithin.tail ⟨')', t, hleft, hstep⟩, rfl, rfl, rfl, ?_, rfl⟩
    rw [captureCount, hq]
    exact Nat.add_right_comm p.captures 1 q.captures

end Reader

end Parley
