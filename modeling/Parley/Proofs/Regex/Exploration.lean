import Parley.Proofs.Regex.Thread

/-!
# Advancing threads is a depth-first search

`advance` recurses on a tree with the rest of the work as a continuation. What it does is a
depth-first search over threads: a thread with a remainder seen before is dropped, and any other
is replaced by what it goes on as, in order of preference.

## Main definitions

- `Explores` — the depth-first search from a list of threads
- `Advance.Follows` — a function that is the search from given threads

## Main results

- `advance_follows`, `resume_follows` — advancing a tree, and a list of frames, is the search
- `advanceAll_explores` — so is advancing all threads at a position
-/

namespace Parley

/-- The depth-first search at a place: from threads and the remainders seen before to the waiting
threads, in order of preference, and the remainders seen after. -/
inductive Explores (p : Place) : List Thread → Seen → List Waiting → Seen → Prop
  | done {seen : Seen} : Explores p [] seen [] seen
  | drop {t : Thread} {ts : List Thread} {seen seen' : Seen} {ws : List Waiting}
      (hseen : Frames.canonical t.frames ∈ seen) (h : Explores p ts seen ws seen') :
      Explores p (t :: ts) seen ws seen'
  | visit {t : Thread} {ts : List Thread} {seen seen' : Seen} {ws : List Waiting}
      (hseen : Frames.canonical t.frames ∉ seen)
      (h : Explores p (t.branches p ++ ts) (seen.insert (Frames.canonical t.frames)) ws seen') :
      Explores p (t :: ts) seen (t.waiting ++ ws) seen'

/-- What was seen stays seen. -/
theorem Explores.seen_subset {p : Place} {ts : List Thread} {seen seen' : Seen}
    {ws : List Waiting} (h : Explores p ts seen ws seen') {x : Frames} (hx : x ∈ seen) :
    x ∈ seen' := by
  induction h with
  | done => exact hx
  | drop _ _ ih => exact ih hx
  | visit _ _ ih => exact ih (Std.HashSet.mem_insert.mpr (.inr hx))

namespace Advance

/-- The function does what the search does from the threads `starts`, before whatever the search
does next, when at least `known` was seen. -/
def Follows (p : Place) (known : List Frames) (starts : Slots → List Thread) (go : Advance) :
    Prop :=
  ∀ (slots : Slots) (seen : Seen), (∀ x ∈ known, x ∈ seen) →
    ∀ (ts : List Thread) (ws : List Waiting) (seen' : Seen),
      Explores p ts (go slots seen).2 ws seen' →
        Explores p (starts slots ++ ts) seen ((go slots seen).1 ++ ws) seen'

variable {p : Place} {known : List Frames} {starts starts' : Slots → List Thread}
  {go go' : Advance}

namespace Follows

theorem mono {more : List Frames} (h : Follows p known starts go) (hsub : known ⊆ more) :
    Follows p more starts go :=
  fun slots seen hknown => h slots seen fun x hx => hknown x (hsub hx)

/-- What was seen stays seen. -/
theorem seen_subset (h : Follows p known starts go) {slots : Slots} {seen : Seen}
    (hknown : ∀ x ∈ known, x ∈ seen) {x : Frames} (hx : x ∈ seen) : x ∈ (go slots seen).2 :=
  (h slots seen hknown [] [] _ .done).seen_subset hx

/-- The search from no thread. -/
theorem nothing : Follows p known (fun _ => []) fun _ seen => ([], seen) :=
  fun _ _ _ _ _ _ h => h

/-- A thread whose remainder was seen. -/
theorem cut {k : Frames} (hk : Frames.canonical k ∈ known) :
    Follows p known (fun slots => [⟨k, slots⟩]) fun _ seen => ([], seen) :=
  fun _ _ hknown _ _ _ h => .drop (hknown _ hk) h

/-- The search from threads one after the other. -/
theorem orElse (h : Follows p known starts go) (h' : Follows p known starts' go') :
    Follows p known (fun slots => starts slots ++ starts' slots) (.orElse go go') := by
  intro slots seen hknown ts ws seen' hrest
  have hsecond := h' slots (go slots seen).2 (fun x hx => h.seen_subset hknown (hknown x hx))
    ts ws seen' hrest
  have hfirst := h slots seen hknown _ _ _ hsecond
  simpa only [Advance.orElse, List.append_assoc] using hfirst

/-- The search from two threads, in either order of preference. -/
theorem choose (greedy : Bool) {more stop : Slots → Thread} {onMore onStop : Advance}
    (hmore : Follows p known (fun slots => [more slots]) onMore)
    (hstop : Follows p known (fun slots => [stop slots]) onStop) :
    Follows p known
      (fun slots => if greedy then [more slots, stop slots] else [stop slots, more slots])
      (.choose greedy onMore onStop) := by
  cases greedy with
  | false => exact hstop.orElse hmore
  | true => exact hmore.orElse hstop

/-- A position is recorded before the search. -/
theorem record (slot : Nat) (h : Follows p known starts go) :
    Follows p known (fun slots => starts (slots.set slot (some p.index)))
      (.record slot p go) :=
  fun slots seen hknown => h (slots.set slot (some p.index)) seen hknown

/-- The search from one thread: from what it goes on as, unless its remainder was seen. -/
theorem once {k : Frames} (hneed : Frames.need? k = none)
    (h : Follows p (Frames.canonical k :: known) (fun slots => (Thread.mk k slots).branches p)
      go) :
    Follows p known (fun slots => [⟨k, slots⟩]) (.once (Frames.canonical k) go) := by
  intro slots seen hknown ts ws seen' hrest
  unfold Advance.once at hrest ⊢
  split at hrest
  · next hseen =>
    rw [if_pos hseen]
    exact .drop (Std.HashSet.contains_iff_mem.mp hseen) hrest
  · next hseen =>
    rw [if_neg hseen]
    have hinner := h slots (seen.insert (Frames.canonical k))
      (fun x hx => by
        rcases List.mem_cons.mp hx with rfl | hx
        · exact Std.HashSet.mem_insert_self
        · exact Std.HashSet.mem_insert.mpr (.inr (hknown x hx)))
      ts ws seen' hrest
    have hvisit := Explores.visit (t := ⟨k, slots⟩)
      (fun hmem => hseen (Std.HashSet.contains_iff_mem.mpr hmem)) hinner
    have hwaiting : (Thread.mk k slots).waiting = [] := by simp [Thread.waiting, hneed]
    rwa [hwaiting] at hvisit

/-- The search from one thread that waits. -/
theorem wait {k rest : Frames} {need : Option CharClass}
    (hneed : Frames.need? k = some (need, rest)) :
    Follows p known (fun slots => [⟨k, slots⟩])
      (.once (Frames.canonical k) fun slots seen => ([⟨need, rest, slots⟩], seen)) := by
  intro slots seen _ ts ws seen' hrest
  unfold Advance.once at hrest ⊢
  split at hrest
  · next hseen =>
    rw [if_pos hseen]
    exact .drop (Std.HashSet.contains_iff_mem.mp hseen) hrest
  · next hseen =>
    rw [if_neg hseen]
    have hbranches : (Thread.mk k slots).branches p = [] := by
      rw [Thread.branches, Frames.ways_of_need? hneed, List.map_nil]
    have hbranchesRest : Explores p ((Thread.mk k slots).branches p ++ ts)
        (seen.insert (Frames.canonical k)) ws seen' := by
      rw [hbranches]
      exact hrest
    have hvisit := Explores.visit (t := ⟨k, slots⟩)
      (fun hmem => hseen (Std.HashSet.contains_iff_mem.mpr hmem)) hbranchesRest
    rwa [Thread.waiting_of_need? (t := ⟨k, slots⟩) hneed] at hvisit

end Follows

end Advance

-- ════════════════════════════════════════════════════════════════════════
-- Repetitions
-- ════════════════════════════════════════════════════════════════════════

section Repetitions

open Advance

variable {p : Place} {greedy : Bool} {r : Regex} {k : Frames}
  {body : List Frame → Advance → Advance} {next : Advance}

/-- The body of a repetition is searched like its tree, whatever follows. -/
def FollowsBody (p : Place) (r : Regex) (body : List Frame → Advance → Advance) : Prop :=
  ∀ (known : List Frames) (k : Frames) (next : Advance),
    Follows p known (fun slots => [⟨k, slots⟩]) next →
      Follows p known (fun slots => [⟨.tree r :: k, slots⟩]) (body k next)

/-- Between two rounds the body is tried with nothing to follow, since the place between two
rounds is seen already. -/
theorem advanceRounds_follows {known : List Frames} (hbody : FollowsBody p r body)
    (hnext : Follows p known (fun slots => [⟨k, slots⟩]) next) :
    Follows p known (fun slots => [⟨.round greedy r :: k, slots⟩])
      (advanceRounds greedy r k body next) := by
  refine Follows.once (k := .round greedy r :: k) rfl ?_
  have hmore := hbody _ _ _ (Follows.cut (k := .round greedy r :: k) (p := p)
    (List.mem_cons_self (l := known)))
  have hstop := hnext.mono (List.subset_cons_self (Frames.canonical (.round greedy r :: k)) known)
  have hchoose := Follows.choose greedy hmore hstop
  cases greedy with
  | false => exact hchoose
  | true => exact hchoose

theorem advanceAtLeast_follows {known : List Frames} (hbody : FollowsBody p r body)
    (hnext : Follows p known (fun slots => [⟨k, slots⟩]) next) (lo : Nat) :
    Follows p known (fun slots => [⟨.tree (.rep greedy lo none r) :: k, slots⟩])
      (advanceAtLeast greedy r k body next lo) := by
  induction lo using Nat.strongRecOn generalizing known with
  | ind lo ih =>
    have hrounds : ∀ {more : List Frames}, known ⊆ more →
        Follows p more (fun slots => [⟨.round greedy r :: k, slots⟩])
          (advanceRounds greedy r k body next) :=
      fun hsub => advanceRounds_follows hbody (hnext.mono hsub)
    match lo with
    | 0 =>
      refine Follows.once (k := .tree (.rep greedy 0 none r) :: k) rfl ?_
      have hsub :=
        List.subset_cons_self (Frames.canonical (.tree (.rep greedy 0 none r) :: k)) known
      by_cases hnullable : r.nullable
      · have hchoose := Follows.choose greedy
          (hbody _ _ _ (hrounds hsub)) (hnext.mono hsub)
        simp only [Thread.branches, Frames.ways, if_pos hnullable]
        cases greedy with
        | false => exact hchoose
        | true => exact hchoose
      · simp only [Thread.branches, Frames.ways, if_neg hnullable]
        exact hrounds hsub
    | 1 =>
      refine Follows.once (k := .tree (.rep greedy 1 none r) :: k) rfl ?_
      exact hbody _ _ _ (hrounds (List.subset_cons_self _ _))
    | lo + 2 =>
      refine Follows.once (k := .tree (.rep greedy (lo + 2) none r) :: k) rfl ?_
      exact hbody _ _ _ (ih (lo + 1) (by omega) (hnext.mono (List.subset_cons_self _ _)))

theorem advanceUpTo_follows {known : List Frames} (hbody : FollowsBody p r body)
    (hnext : Follows p known (fun slots => [⟨k, slots⟩]) next) (extra : Nat) :
    Follows p known (fun slots => [⟨.tree (.rep greedy 0 (some extra) r) :: k, slots⟩])
      (advanceUpTo greedy r k body next extra) := by
  have hkey : ∀ n, Frames.canonical (.tree (.rep greedy 0 (some n) r) :: k) =
      .tree (.rep greedy 0 (some n) r) :: k := fun n => by
    rw [Frames.canonical, Nat.zero_add, Nat.sub_zero]
  induction extra generalizing known with
  | zero =>
    have honce := Follows.once (k := .tree (.rep greedy 0 (some 0) r) :: k) (p := p) rfl
      (hnext.mono (List.subset_cons_self _ _))
    rwa [hkey] at honce
  | succ extra ih =>
    have hsub := List.subset_cons_self
      (Frames.canonical (.tree (.rep greedy 0 (some (extra + 1)) r) :: k)) known
    have hchoose := Follows.choose greedy
      (hbody _ _ _ (ih (hnext.mono hsub))) (hnext.mono hsub)
    have honce : Follows p known
        (fun slots => [⟨.tree (.rep greedy 0 (some (extra + 1)) r) :: k, slots⟩])
        (.once (Frames.canonical (.tree (.rep greedy 0 (some (extra + 1)) r) :: k))
          (.choose greedy (body (.tree (.rep greedy 0 (some extra) r) :: k)
            (advanceUpTo greedy r k body next extra)) next)) :=
      Follows.once rfl (by cases greedy <;> exact hchoose)
    rwa [hkey] at honce

theorem advanceBetween_follows {known : List Frames} (hbody : FollowsBody p r body)
    (hnext : Follows p known (fun slots => [⟨k, slots⟩]) next) (extra lo : Nat) :
    Follows p known (fun slots => [⟨.tree (.rep greedy lo (some (lo + extra)) r) :: k, slots⟩])
      (advanceBetween greedy r k body next extra lo) := by
  induction lo generalizing known with
  | zero =>
    rw [Nat.zero_add]
    exact advanceUpTo_follows hbody hnext extra
  | succ lo ih =>
    have hextra : lo + 1 + extra - (lo + 1) = extra := by omega
    have hkey : Frames.canonical (.tree (.rep greedy (lo + 1) (some (lo + 1 + extra)) r) :: k) =
        .tree (.rep greedy (lo + 1) (some (lo + 1 + extra)) r) :: k := by
      rw [Frames.canonical, hextra]
    have hmore := hbody _ _ _ (ih (hnext.mono (List.subset_cons_self
      (Frames.canonical (.tree (.rep greedy (lo + 1) (some (lo + 1 + extra)) r) :: k)) known)))
    have hways : Follows p
        (Frames.canonical (.tree (.rep greedy (lo + 1) (some (lo + 1 + extra)) r) :: k) :: known)
        (fun slots => (Thread.mk (.tree (.rep greedy (lo + 1) (some (lo + 1 + extra)) r) :: k)
          slots).branches p)
        (body (.tree (.rep greedy lo (some (lo + extra)) r) :: k)
          (advanceBetween greedy r k body next extra lo)) := by
      simp only [Thread.branches, Frames.ways, hextra]
      exact hmore
    have honce := Follows.once rfl hways
    rwa [hkey] at honce

end Repetitions

-- ════════════════════════════════════════════════════════════════════════
-- Trees and frames
-- ════════════════════════════════════════════════════════════════════════

section Trees

open Advance

variable {p : Place}

/-- A thread that starts with a tree and has not the bounds in order goes on like one that has. -/
theorem Advance.Follows.of_canonical {known : List Frames} {k k' : Frames} {go : Advance}
    (h : Follows p known (fun slots => [⟨k, slots⟩]) go)
    (hk : Frames.canonical k = Frames.canonical k') (hmark : Frames.mark? k = Frames.mark? k') :
    Follows p known (fun slots => [⟨k', slots⟩]) go := by
  intro slots seen hknown ts ws seen' hrest
  have hfirst := h slots seen hknown ts ws seen' hrest
  generalize (go slots seen).1 ++ ws = out at hfirst ⊢
  cases hfirst with
  | drop hseen hrest => exact .drop (hk ▸ hseen) hrest
  | visit hseen hrest =>
    have hbranches : (Thread.mk k slots).branches p = (Thread.mk k' slots).branches p := by
      simp only [Thread.branches, Thread.mark, Frames.ways_congr hk, hmark]
    have hwaiting : (Thread.mk k slots).waiting = (Thread.mk k' slots).waiting := by
      simp only [Thread.waiting, Frames.need?_congr hk]
    rw [hwaiting]
    refine .visit (hk ▸ hseen) ?_
    rw [← hbranches, ← hk]
    exact hrest

/-- The end of a group is recorded, and then what follows is searched. -/
theorem follows_close {known : List Frames} {i : Nat} {k : Frames} {next : Advance}
    (hnext : Follows p known (fun slots => [⟨k, slots⟩]) next) :
    Follows p known (fun slots => [⟨.close i :: k, slots⟩])
      (.once (.close i :: k) (.record (2 * i + 1) p next)) := by
  have hrecord := Follows.record (2 * i + 1)
    (hnext.mono (List.subset_cons_self (.close i :: k) known))
  exact Follows.once (k := .close i :: k) rfl hrecord

/-- Advancing a tree is the search from the tree before what follows. -/
theorem advance_follows (r : Regex) : FollowsBody p r (advance p r) := by
  induction r with
  | empty =>
    intro known k next hnext
    exact Follows.once (k := .tree .empty :: k) rfl (hnext.mono (List.subset_cons_self _ _))
  | chars c =>
    intro known k next hnext
    exact Follows.wait (k := .tree (.chars c) :: k) rfl
  | look a =>
    intro known k next hnext
    refine Follows.once (k := .tree (.look a) :: k) rfl ?_
    simp only [Thread.branches, Frames.ways]
    split
    · exact hnext.mono (List.subset_cons_self _ _)
    · exact Follows.nothing
  | cat r s ihr ihs =>
    intro known k next hnext
    refine Follows.once (k := .tree (.cat r s) :: k) rfl ?_
    exact ihr _ _ _ (ihs _ _ _ (hnext.mono (List.subset_cons_self _ _)))
  | alt r s ihr ihs =>
    intro known k next hnext
    refine Follows.once (k := .tree (.alt r s) :: k) rfl ?_
    have hsub := hnext.mono (List.subset_cons_self (Frames.canonical (.tree (.alt r s) :: k)) known)
    exact (ihr _ _ _ hsub).orElse (ihs _ _ _ hsub)
  | group i r ih =>
    intro known k next hnext
    have hclose : Follows p ((.tree (.group i r) :: k) :: known)
        (fun slots => [⟨.close i :: k, slots⟩])
        (.once (.close i :: k) (.record (2 * i + 1) p next)) :=
      follows_close (hnext.mono (List.subset_cons_self _ _))
    have hrecord := Follows.record (2 * i) (ih _ _ _ hclose)
    exact Follows.once (k := .tree (.group i r) :: k) rfl hrecord
  | rep greedy lo hi r ih =>
    intro known k next hnext
    cases hi with
    | none => exact advanceAtLeast_follows ih hnext lo
    | some hi =>
      exact (advanceBetween_follows ih hnext (hi - lo) lo).of_canonical
        (Frames.canonical_canonical (.tree (.rep greedy lo (some hi) r) :: k)) rfl

/-- Advancing a list of frames is the search from them. -/
theorem resume_follows (k : Frames) :
    Follows p [] (fun slots => [⟨k, slots⟩]) (resume p k) := by
  induction k with
  | nil => exact Follows.wait (k := []) rfl
  | cons f k ih =>
    cases f with
    | tree r => exact advance_follows r _ _ _ ih
    | close i =>
      exact follows_close ih
    | round greedy r => exact advanceRounds_follows (advance_follows r) ih

/-- Advancing all threads is the search from them. -/
theorem advanceAll_explores (ts : List Thread) (seen : Seen) :
    ∃ seen', Explores p ts seen (advanceAll p ts seen) seen' := by
  induction ts generalizing seen with
  | nil => exact ⟨seen, .done⟩
  | cons t ts ih =>
    obtain ⟨seen', h⟩ := ih (resume p t.frames t.slots seen).2
    exact ⟨seen', resume_follows t.frames t.slots seen (by simp) ts _ _ h⟩

end Trees

end Parley
