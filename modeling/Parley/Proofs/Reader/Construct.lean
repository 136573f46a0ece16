import Mathlib.Logic.Relation
import Parley.Proofs.Reader.Bracket
import Parley.Proofs.Regex.Whole
import Parley.Regex.Reader

/-!
# Constructs of patterns

Where no parenthesis stands, one step of the reader of patterns reads a construct of the text and
puts it to the branches of the innermost group; nothing else of the reader matters. So a pattern
without parentheses has no groups.

## Main definitions

- `Construct`, `readConstruct` — what stands at the start of a text, if it is no parenthesis
- `Branches.apply` — puts a construct to the branches of a group
- `Regex.Inherited`, `Branches.All` — properties of trees that constructs keep
- `Reader.Reads` — the reader gets from one state to another
- `Reader.Flat` — a reader that opens no group

## Main results

- `Reader.step_eq` — a step reads a construct and puts it to the branches
- `Reader.eq_of_reads` — a state at the end of the text that is reached is the outcome
- `Reader.Flat.reads`, `Reader.groupFree_of_parse?` — without a parenthesis no group is opened
-/

namespace Parley

-- ════════════════════════════════════════════════════════════════════════
-- Constructs
-- ════════════════════════════════════════════════════════════════════════

/-- A construct of a pattern other than a parenthesis. -/
inductive Construct
  /-- A tree of its own, with the depth of its nesting. -/
  | piece (r : Regex) (depth : Nat)
  /-- A repetition of what is before it. -/
  | repeats (greedy : Bool) (lo : Nat) (hi : Option Nat)
  /-- The start of the next branch. -/
  | bar

/-- The tree that a backslash sequence stands for. -/
def Escape.tree? (f : Flags) : Escape → Option Regex
  | .literal c byte => Reader.literal? f c byte
  | .chars k => some (.chars k)
  | .look a => some (.look a)

/-- A repetition with the mark that follows it. -/
def marked (f : Flags) (lo : Nat) (hi : Option Nat) (s : List Char) :
    Option (Construct × List Char) :=
  some (.repeats ((Reader.greedyMark s).1 != f.lazy) lo hi, (Reader.greedyMark s).2)

/-- Reads a construct that begins with the character `c`. -/
def readConstruct (f : Flags) (c : Char) (s : List Char) : Option (Construct × List Char) :=
  match c with
  | '|' => some (.bar, s)
  | '[' => (readBracket f ('[' :: s)).map fun x => (.piece (.chars x.1.chars) x.1.depth, x.2)
  | '?' => marked f 0 (some 1) s
  | '*' => marked f 0 none s
  | '+' => marked f 1 none s
  | '{' => (Reader.readBounds f s).bind fun x => marked f x.1.1 x.1.2 (f.skip x.2)
  | '\\' => (readEscape f s).bind fun x => (x.1.tree? f).map fun r => (.piece r 0, x.2)
  | '.' => (Reader.dot? f).map fun r => (.piece r 0, s)
  | '^' => some (.piece (.look (Reader.caret f)) 0, s)
  | '$' => some (.piece (.look (Reader.dollar f)) 0, s)
  | c => (Reader.literal? f c false).map fun r => (.piece r 0, s)

variable {f : Flags}

/-- The mark of a repetition is read the same before a parenthesis. -/
theorem local_marked (lo : Nat) (hi : Option Nat) : Local f (marked f lo hi) := by
  intro s x rest h
  cases s with
  | nil =>
    cases h
    exact ⟨List.suffix_refl _, fun t ht => ⟨_, rfl, .before ht []⟩⟩
  | cons c cs =>
    by_cases hc : c = '?'
    · subst hc
      cases h
      exact ⟨List.suffix_cons _ _, fun t ht => ⟨_, rfl, .before ht _⟩⟩
    · have hplain : ∀ cs, Reader.greedyMark (c :: cs) = (true, c :: cs) := by
        intro cs
        unfold Reader.greedyMark
        split
        · next heq => exact absurd (List.cons.inj heq).1 hc
        · rfl
      simp only [marked, hplain, List.cons_append] at h ⊢
      cases h
      exact ⟨List.suffix_refl _, fun t ht => ⟨_, rfl, .before ht _⟩⟩

/-- What follows a character that is passed over, if there is any. -/
theorem Flags.next?_bind {α : Type} (c : Char) (s : List Char) {read : List Char → Option α}
    (hnil : read [] = none) : (f.next? (c :: s)).bind read = read (f.skip s) := by
  by_cases hskip : f.skip s = []
  · have hnext : f.next? (c :: s) = none := by
      unfold next?
      rw [List.drop_one, List.tail_cons, hskip]
    rw [hnext, hskip, hnil]
    rfl
  · rw [next?_cons hskip, Option.bind_some]

/-- Bounds are read the same before a parenthesis. -/
theorem local_readBounds : Local f (Reader.readBounds f) := by
  have hupper := fun lo : Nat => (Local.ofHead '}'
    (Local.nothing f (some (lo, (none : Option Nat))))
    (local_readCount.bind fun hi => Local.ofHead '}'
      (Local.nothing f (if lo ≤ hi then some (lo, some hi) else none))
      (Local.nothing f none))).skip
  have hbounds := (local_readCount.bind fun lo => Local.ofHead ',' (hupper lo)
    (Local.ofHead '}' (Local.nothing f (some (lo, some lo))) (Local.nothing f none))).skip
  refine hbounds.of_eq fun s => ?_
  unfold Reader.readBounds
  rw [Option.bind_eq_bind, Flags.next?_bind '{' s rfl]
  refine congrArg (Option.bind _) (funext fun x => ?_)
  obtain ⟨lo, left⟩ := x
  cases left with
  | nil => rfl
  | cons d ds =>
    simp only
    split
    · next ds' heq =>
      cases heq
      rw [if_pos rfl, Option.bind_eq_bind, Flags.next?_bind ',' ds rfl]
      cases f.skip ds with
      | nil => rfl
      | cons e es =>
        simp only
        split
        · next heq =>
          cases heq
          rfl
        · next hbrace =>
          rw [if_neg fun he => hbrace es (by rw [he])]
          refine congrArg (Option.bind _) (funext fun y => ?_)
          obtain ⟨hi, left⟩ := y
          cases left with
          | nil => rfl
          | cons g gs =>
            simp only
            split
            · next heq =>
              cases heq
              rw [if_pos rfl]
              split <;> rfl
            · next hbrace =>
              rw [if_neg fun hg => hbrace gs (by rw [hg])]
              rfl
    · next heq =>
      cases heq
      rfl
    · next hcomma hbrace =>
      rw [if_neg fun hd => hcomma ds (by rw [hd]), if_neg fun hd => hbrace ds (by rw [hd])]
      rfl

/-- A construct is read the same before a parenthesis. -/
theorem readConstruct_append {c : Char} {s rest : List Char} {x : Construct}
    (h : readConstruct f c s = some (x, rest)) :
    rest <:+ s ∧ ∀ t, (f.verbose → '\n' ∉ t) →
      ∃ rest', readConstruct f c (s ++ ')' :: t) = some (x, rest') ∧ f.Enclosed t rest rest' := by
  -- every other construct is read from the text after its first character
  have hcons : ∀ {read : List Char → Option (Construct × List Char)}, Local f read →
      (∀ s, readConstruct f c s = read s) →
      rest <:+ s ∧ ∀ t, (f.verbose → '\n' ∉ t) →
        ∃ rest', readConstruct f c (s ++ ')' :: t) = some (x, rest') ∧
          f.Enclosed t rest rest' := by
    intro read hread heq
    obtain ⟨hsuffix, happend⟩ := hread s x rest (by rw [← heq, h])
    refine ⟨hsuffix, fun t ht => ?_⟩
    rw [heq]
    exact happend t ht
  by_cases hbracket : c = '['
  · subst hbracket
    obtain ⟨y, hy, heq⟩ := Option.map_eq_some_iff.mp h
    cases heq
    refine ⟨readBracket_suffix hy, fun t ht => ?_⟩
    obtain ⟨rest', hrest, henclosed⟩ := (local_readBracket _ _ _ hy).2 t ht
    rw [List.cons_append] at hrest
    exact ⟨rest', by simp only [readConstruct, hrest, Option.map_some], henclosed⟩
  · unfold readConstruct at h
    split at h
    · exact hcons (Local.nothing f (some _)) fun _ => rfl
    · exact absurd rfl hbracket
    · exact hcons (local_marked _ _) fun _ => rfl
    · exact hcons (local_marked _ _) fun _ => rfl
    · exact hcons (local_marked _ _) fun _ => rfl
    · exact hcons (local_readBounds.bind fun y => (local_marked y.1 y.2).skip) fun _ => rfl
    · have hescape := (local_readEscape (f := f)).filterMap fun e =>
        (e.tree? f).map fun r => Construct.piece r 0
      refine hcons hescape fun s => ?_
      simp only [readConstruct, Option.map_map]
      rfl
    · refine hcons (Local.nothing f ((Reader.dot? f).map fun r => Construct.piece r 0))
        fun s => ?_
      rw [Option.map_map]
      rfl
    · exact hcons (Local.nothing f (some _)) fun _ => rfl
    · exact hcons (Local.nothing f (some _)) fun _ => rfl
    · refine hcons (Local.nothing f ((Reader.literal? f c false).map fun r => Construct.piece r 0))
        fun s => ?_
      rw [Option.map_map]
      unfold readConstruct
      split
      all_goals first | exact absurd rfl ‹_› | rfl

/-- Puts a construct to the branch being read. -/
def Branches.apply (b : Branches) : Construct → Option Branches
  | .piece r depth => some { b with items := .tree r depth :: b.items }
  | .repeats greedy lo hi =>
    match b.items with
    | .tree r d :: items =>
      some { b with items := .tree (.repeated greedy lo hi r) (d + 1) :: items }
    | _ => none
  | .bar => some ⟨concatItems b.items.reverse :: b.done, []⟩

namespace Reader

/-- A reader with other branches and other text. -/
def within (p : Reader) (inner : Branches) (rest : List Char) : Reader :=
  { p with inner, rest }

/-- A repetition is put to the last item. -/
theorem repeatLast_eq (p : Reader) (greedy : Bool) (lo : Nat) (hi : Option Nat)
    (rest : List Char) :
    p.repeatLast greedy lo hi rest =
      (p.inner.apply (.repeats (greedy != p.flags.lazy) lo hi)).map fun b => p.within b rest := by
  obtain ⟨flags, ⟨done, items⟩, groups, captures, names, text⟩ := p
  cases items with
  | nil => rfl
  | cons i items => cases i <;> rfl

theorem simpleRepeat_eq (p : Reader) (lo : Nat) (hi : Option Nat) (s : List Char) :
    p.simpleRepeat lo hi s = (marked p.flags lo hi s).bind fun x =>
      (p.inner.apply x.1).map fun b => p.within b x.2 :=
  p.repeatLast_eq _ _ _ _

theorem countedRepeat_eq (p : Reader) (s : List Char) :
    p.countedRepeat s = ((readBounds p.flags s).bind fun x =>
      marked p.flags x.1.1 x.1.2 (p.flags.skip x.2)).bind fun x =>
        (p.inner.apply x.1).map fun b => p.within b x.2 := by
  rw [countedRepeat]
  cases readBounds p.flags s with
  | none => rfl
  | some x => exact p.repeatLast_eq _ _ _ _

theorem escape_eq (p : Reader) (s : List Char) :
    p.escape s = ((readEscape p.flags s).bind fun x =>
      (x.1.tree? p.flags).map fun r => (Construct.piece r 0, x.2)).bind fun x =>
        (p.inner.apply x.1).map fun b => p.within b x.2 := by
  rw [escape]
  cases readEscape p.flags s with
  | none => rfl
  | some x =>
    obtain ⟨e, rest⟩ := x
    cases e with
    | literal c byte =>
      simp only [Option.bind_eq_bind, Option.bind_some, Escape.tree?]
      cases literal? p.flags c byte <;> rfl
    | chars k => rfl
    | look a => rfl

/-- Where no parenthesis stands, a step reads a construct and puts it to the branches. -/
theorem step_eq (p : Reader) {c : Char} (hopen : c ≠ '(') (hclose : c ≠ ')') (s : List Char) :
    p.step c s = (readConstruct p.flags c s).bind fun x =>
      (p.inner.apply x.1).map fun b => p.within b x.2 := by
  unfold step readConstruct
  split
  · exact absurd rfl hopen
  · exact absurd rfl hclose
  · rfl
  · cases readBracket p.flags ('[' :: s) <;> rfl
  · exact p.simpleRepeat_eq _ _ _
  · exact p.simpleRepeat_eq _ _ _
  · exact p.simpleRepeat_eq _ _ _
  · exact p.countedRepeat_eq s
  · exact p.escape_eq s
  · cases dot? p.flags <;> rfl
  · rfl
  · rfl
  · split
    all_goals first | exact absurd rfl ‹_› | skip
    cases literal? p.flags c false <;> rfl

/-- The reader takes a step. -/
def Advances (p q : Reader) : Prop :=
  ∃ c s, p.flags.skip p.rest = c :: s ∧ p.step c s = some q

/-- The reader takes steps. -/
def Reads : Reader → Reader → Prop :=
  Relation.ReflTransGen Advances

/-- What the reader gives it reaches, at the end of the text. -/
theorem reads_of_run {fuel : Nat} {p q : Reader} (h : run fuel p = some q) :
    Reads p q ∧ q.flags.skip q.rest = [] := by
  induction fuel generalizing p with
  | zero =>
    rw [run] at h
    split at h
    · next hempty =>
      cases h
      exact ⟨.refl, List.isEmpty_iff.mp hempty⟩
    · cases h
  | succ fuel ih =>
    rw [run] at h
    split at h
    · next hempty =>
      cases h
      exact ⟨.refl, hempty⟩
    · next c s hrest =>
      split at h
      · next p' hstep =>
        obtain ⟨hreads, hend⟩ := ih h
        exact ⟨.head ⟨c, s, hrest, hstep⟩ hreads, hend⟩
      · cases h

/-- Where the text goes on, a reader that gives something takes a step. -/
theorem step_of_run {fuel : Nat} {p q : Reader} {c : Char} {s : List Char} (h : run fuel p = some q)
    (hskip : p.flags.skip p.rest = c :: s) :
    ∃ fuel' p', p.step c s = some p' ∧ run fuel' p' = some q := by
  cases fuel with
  | zero =>
    rw [run, hskip] at h
    cases h
  | succ fuel =>
    rw [run, hskip] at h
    cases hstep : p.step c s with
    | none =>
      simp only [hstep] at h
      cases h
    | some p' =>
      simp only [hstep] at h
      exact ⟨fuel, p', rfl, h⟩

/-- From a state that the reader reaches it gives the same. -/
theorem run_of_reads {fuel : Nat} {p p' q : Reader} (h : run fuel p = some q)
    (hreads : Reads p p') : ∃ fuel', run fuel' p' = some q := by
  induction hreads with
  | refl => exact ⟨fuel, h⟩
  | tail _ hadvances ih =>
    obtain ⟨fuel', h⟩ := ih
    obtain ⟨c, s, hskip, hstep⟩ := hadvances
    obtain ⟨fuel'', p'', hstep', h⟩ := step_of_run h hskip
    obtain rfl := Option.some.inj (hstep'.symm.trans hstep)
    exact ⟨fuel'', h⟩

/-- A state at the end of the text that the reader reaches is what it gives. -/
theorem eq_of_reads {fuel : Nat} {p q q' : Reader} (h : run fuel p = some q) (hreads : Reads p q')
    (hend : q'.flags.skip q'.rest = []) : q = q' := by
  obtain ⟨fuel', h⟩ := run_of_reads h hreads
  cases fuel' with
  | zero =>
    rw [run, hend] at h
    exact (Option.some.inj h).symm
  | succ fuel =>
    rw [run, hend] at h
    exact (Option.some.inj h).symm

end Reader

-- ════════════════════════════════════════════════════════════════════════
-- Properties of the trees of branches
-- ════════════════════════════════════════════════════════════════════════

theorem concatItems_fst (items : List Item) :
    (concatItems items).1 = .cats (items.map Item.regex) := by
  match items with
  | [] | [_] | _ :: _ :: _ => rfl

theorem chooseBranches_fst (bs : List (Regex × Nat)) :
    (chooseBranches bs).1 = .alts (bs.map Prod.fst) := by
  match bs with
  | [] | [_] | _ :: _ :: _ => rfl

/-- A property that a tree without a group around it has if its parts have it. -/
structure Regex.Inherited (P : Regex → Prop) : Prop where
  /-- The empty text has it. -/
  empty : P .empty
  /-- Trees in order have it. -/
  cat : ∀ {r s}, P r → P s → P (.cat r s)
  /-- A choice has it. -/
  alt : ∀ {r s}, P r → P s → P (.alt r s)
  /-- A repetition has it. -/
  rep : ∀ {r} (greedy : Bool) (lo : Nat) (hi : Option Nat), P r → P (.rep greedy lo hi r)

namespace Regex.Inherited

variable {P : Regex → Prop}

theorem repeated (hP : Inherited P) {r : Regex} (h : P r) (greedy : Bool) (lo : Nat)
    (hi : Option Nat) : P (.repeated greedy lo hi r) := by
  unfold Regex.repeated
  generalize (if r.consumesNothing then min lo 1 else lo) = lo'
  generalize (if r.consumesNothing then some (min (hi.getD 1) 1) else hi) = hi'
  by_cases hnone : hi' = some 0
  · rw [if_pos hnone]
    exact hP.empty
  · rw [if_neg hnone]
    split
    · exact h
    · exact hP.rep greedy lo' hi' h

theorem cats (hP : Inherited P) {rs : List Regex} (h : ∀ r ∈ rs, P r) : P (.cats rs) := by
  induction rs with
  | nil => exact hP.empty
  | cons r rest ih =>
    have hr := h r (.head _)
    have hrest := ih fun s hs => h s (.tail _ hs)
    cases rest with
    | nil => exact hr
    | cons s rest => exact hP.cat hr hrest

theorem alts (hP : Inherited P) {rs : List Regex} (h : ∀ r ∈ rs, P r) : P (.alts rs) := by
  induction rs with
  | nil => exact hP.empty
  | cons r rest ih =>
    have hr := h r (.head _)
    have hrest := ih fun s hs => h s (.tail _ hs)
    cases rest with
    | nil => exact hr
    | cons s rest => exact hP.alt hr hrest

end Regex.Inherited

/-- All trees of branches have a property. -/
structure Branches.All (P : Regex → Prop) (b : Branches) : Prop where
  /-- The complete branches have it. -/
  done : ∀ x ∈ b.done, P x.1
  /-- The branch being read has it. -/
  items : ∀ i ∈ b.items, P i.regex

namespace Branches.All

variable {P : Regex → Prop} {b : Branches}

theorem nil : ({} : Branches).All P :=
  ⟨fun _ h => (List.not_mem_nil h).elim, fun _ h => (List.not_mem_nil h).elim⟩

theorem cons (h : b.All P) {i : Item} (hi : P i.regex) :
    ({ b with items := i :: b.items } : Branches).All P := by
  refine ⟨h.done, fun j hj => ?_⟩
  rcases List.mem_cons.mp hj with rfl | hj
  · exact hi
  · exact h.items j hj

theorem concat (hP : Regex.Inherited P) (h : b.All P) : P (concatItems b.items.reverse).1 := by
  rw [concatItems_fst]
  refine hP.cats fun r hr => ?_
  obtain ⟨i, hi, rfl⟩ := List.mem_map.mp hr
  exact h.items i (List.mem_reverse.mp hi)

/-- All branches as a choice. -/
theorem close (hP : Regex.Inherited P) (h : b.All P) : P b.close.1 := by
  rw [Branches.close, chooseBranches_fst]
  refine hP.alts fun r hr => ?_
  obtain ⟨x, hx, rfl⟩ := List.mem_map.mp hr
  rcases List.mem_cons.mp (List.mem_reverse.mp hx) with rfl | hx
  · exact h.concat hP
  · exact h.done x hx

/-- A construct keeps the property if its own tree has it. -/
theorem apply (hP : Regex.Inherited P) {b' : Branches} {x : Construct} (h : b.All P)
    (hx : ∀ r depth, x = .piece r depth → P r) (happly : b.apply x = some b') : b'.All P := by
  cases x with
  | piece r depth =>
    cases happly
    exact h.cons (hx r depth rfl)
  | repeats greedy lo hi =>
    obtain ⟨done, items⟩ := b
    cases items with
    | nil => cases happly
    | cons i items =>
      cases i with
      | tree r d =>
        cases happly
        have hrest : (Branches.mk done items).All P := ⟨h.done, fun j hj => h.items j (.tail _ hj)⟩
        exact hrest.cons (hP.repeated (h.items (.tree r d) (.head _)) greedy lo hi)
      | flags => cases happly
  | bar =>
    cases happly
    refine ⟨fun x hx => ?_, nil.items⟩
    rcases List.mem_cons.mp hx with rfl | hx
    · exact h.concat hP
    · exact h.done x hx

end Branches.All

-- ════════════════════════════════════════════════════════════════════════
-- Patterns without groups
-- ════════════════════════════════════════════════════════════════════════

theorem Regex.inherited_groupFree : Inherited fun r => r.groupFree where
  empty := rfl
  cat hr hs := Bool.and_eq_true_iff.mpr ⟨hr, hs⟩
  alt hr hs := Bool.and_eq_true_iff.mpr ⟨hr, hs⟩
  rep _ _ _ h := h

/-- What is read where no parenthesis stands is no group. -/
theorem groupFree_of_readConstruct {c : Char} {s rest : List Char} {r : Regex} {depth : Nat}
    (h : readConstruct f c s = some (.piece r depth, rest)) : r.groupFree := by
  have hliteral : ∀ {d : Char} {byte : Bool} {r : Regex}, Reader.literal? f d byte = some r →
      r.groupFree := by
    intro d byte r h
    unfold Reader.literal? at h
    split at h
    · cases h
      rfl
    split at h
    · cases h
    · cases h
      rfl
  have hdot : ∀ {r : Regex}, Reader.dot? f = some r → r.groupFree := by
    intro r h
    unfold Reader.dot? at h
    repeat' split at h
    all_goals cases h
    all_goals rfl
  unfold readConstruct at h
  split at h
  · cases h
  · obtain ⟨x, -, heq⟩ := Option.map_eq_some_iff.mp h
    cases heq
    rfl
  · cases h
  · cases h
  · cases h
  · obtain ⟨x, -, h⟩ := Option.bind_eq_some_iff.mp h
    cases h
  · obtain ⟨⟨e, left⟩, -, h⟩ := Option.bind_eq_some_iff.mp h
    obtain ⟨r', hr', heq⟩ := Option.map_eq_some_iff.mp h
    cases heq
    cases e with
    | literal d byte => exact hliteral hr'
    | chars k =>
      cases hr'
      rfl
    | look a =>
      cases hr'
      rfl
  · obtain ⟨r', hr', heq⟩ := Option.map_eq_some_iff.mp h
    cases heq
    exact hdot hr'
  · cases h
    rfl
  · cases h
    rfl
  · obtain ⟨r', hr', heq⟩ := Option.map_eq_some_iff.mp h
    cases heq
    exact hliteral hr'

/-- What a pattern is read as. -/
theorem Regex.reads_of_parse? {s : List Char} {r : Regex} (h : parse? s = some r) :
    ∃ q : Reader, Reader.run s.length { rest := s } = some q ∧ q.groups = [] ∧
      q.inner.close.1 = r := by
  obtain ⟨q, hrun, hr⟩ := Option.bind_eq_some_iff.mp h
  simp only at hr
  split at hr
  · next hclosed => exact ⟨q, hrun, List.isEmpty_iff.mp hclosed.1, Option.some.inj hr⟩
  · cases hr

namespace Reader

/-- No group is open, and none has been or will be opened. -/
structure Flat (p : Reader) : Prop where
  /-- The modes are those at the start of a pattern. -/
  flags : p.flags = {}
  /-- No group is open. -/
  groups : p.groups = []
  /-- No group has been opened. -/
  captures : p.captures = 0
  /-- No group is in a tree. -/
  inner : p.inner.All fun r => r.groupFree
  /-- No parenthesis is left. -/
  rest : '(' ∉ p.rest

variable {p q : Reader}

theorem Flat.start {s : List Char} (hparen : '(' ∉ s) : Flat { rest := s } :=
  ⟨rfl, rfl, rfl, .nil, hparen⟩

/-- Without a parenthesis no group is opened. -/
theorem Flat.advances (h : p.Flat) (hadvances : p.Advances q) : q.Flat := by
  obtain ⟨c, s, hrest, hstep⟩ := hadvances
  rw [h.flags, Flags.skip_default] at hrest
  have hparen := h.rest
  rw [hrest] at hparen
  obtain ⟨hopen, hparen⟩ := List.ne_and_not_mem_of_not_mem_cons hparen
  have hclose : c ≠ ')' := by
    rintro rfl
    simp only [step, endGroup, h.groups] at hstep
    cases hstep
  rw [step_eq p hopen.symm hclose] at hstep
  obtain ⟨⟨x, left⟩, hread, hstep⟩ := Option.bind_eq_some_iff.mp hstep
  obtain ⟨b, happly, rfl⟩ := Option.map_eq_some_iff.mp hstep
  refine ⟨h.flags, h.groups, h.captures, h.inner.apply Regex.inherited_groupFree ?_ happly,
    fun hmem => hparen ((readConstruct_append hread).1.subset hmem)⟩
  exact fun r depth hx =>
    groupFree_of_readConstruct (hread.trans (congrArg (fun y => some (y, left)) hx))

theorem Flat.reads (h : p.Flat) (hreads : Reads p q) : q.Flat := by
  induction hreads with
  | refl => exact h
  | tail _ hadvances ih => exact ih.advances hadvances

/-- The tree of a pattern without parentheses has no group. -/
theorem groupFree_of_parse? {s : List Char} {r : Regex} (h : Regex.parse? s = some r)
    (hparen : '(' ∉ s) : r.groupFree := by
  obtain ⟨q, hrun, -, rfl⟩ := Regex.reads_of_parse? h
  exact ((Flat.start hparen).reads (reads_of_run hrun).1).inner.close Regex.inherited_groupFree

end Reader

end Parley
