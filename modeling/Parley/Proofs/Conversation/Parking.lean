import Parley.Proofs.Conversation.Interleaving

/-!
# A parked conversation goes on at most once

However the turns of several deliveries are mixed, a delivery can only take out of the store what
another one put there, and nobody else can take it out again. So of several messages that a sender
sends at the same time, at most one goes on with a parked conversation.

## Main definitions

- `Deed.touches`, `Deed.parks`, `Deed.continues` — what a deed does to the entry of a key
- `Parked` — what was put last under a key has neither been replaced nor taken out
- `Errand.chosen` — the groups that a delivery has to turn to, told from its deeds

## Main results

- `Run.get?_store` — the store holds what is parked
- `Run.countP_continues_le` — no more conversations go on than were parked
- `Run.consistent` — a delivery turns to the groups that it has to turn to, in order
- `Run.parked_conversations_go_on_once` — all of this for runs from the empty store
-/

namespace Parley

variable {γ : Type} {ι : Type}

namespace Deed

/-- It takes out or replaces the entry of the key. -/
def touches (key : String) : Deed γ → Bool
  | took k _ | recorded k _ => k == key
  | dispatched _ _ => false

/-- It puts a group under the key. -/
def parks (key : String) : Deed γ → Bool
  | recorded k (some _) => k == key
  | _ => false

/-- It takes a group out from under the key, to go on with it. -/
def continues (key : String) : Deed γ → Bool
  | took k (some _) => k == key
  | _ => false

/-- The entry of the key after the deed. -/
def entryAfter (key : String) (entry : Option γ) : Deed γ → Option γ
  | took k _ => if key = k then none else entry
  | recorded k next => if key = k then next else entry
  | dispatched _ _ => entry

theorem entryAfter_of_not_touches {key : String} {d : Deed γ} (h : d.touches key = false)
    (entry : Option γ) : d.entryAfter key entry = entry := by
  cases d with
  | took k found => exact if_neg (Ne.symm (by simpa [touches] using h))
  | recorded k next => exact if_neg (Ne.symm (by simpa [touches] using h))
  | dispatched g result => rfl

/-- Only a deed that puts the group there leaves it under a key that it touches. -/
theorem entryAfter_eq_some {key : String} {d : Deed γ} {entry : Option γ} {g : γ}
    (htouch : d.touches key = true) (h : d.entryAfter key entry = some g) :
    d = .recorded key (some g) := by
  cases d with
  | took k found =>
    obtain rfl : k = key := by simpa [touches] using htouch
    simp [entryAfter] at h
  | recorded k next =>
    obtain rfl : k = key := by simpa [touches] using htouch
    simp only [entryAfter, if_true] at h
    rw [h]
  | dispatched g result => simp [touches] at htouch

/-- A deed leaves no more entries than there were and than it parks, without those it goes on
with. -/
theorem continues_add_le (key : String) (entry : Option γ) {d : Deed γ}
    (hfound : ∀ found, d = .took key found → found = entry) :
    (d.continues key).toNat + (d.entryAfter key entry).isSome.toNat ≤
      (d.parks key).toNat + entry.isSome.toNat := by
  cases d with
  | took k found =>
    by_cases hk : k = key
    · subst hk
      obtain rfl := hfound found rfl
      cases found <;> simp [continues, entryAfter, parks]
    · have hother : (k == key) = false := beq_eq_false_iff_ne.2 hk
      cases found <;> simp [continues, entryAfter, parks, hother, Ne.symm hk]
  | recorded k next =>
    by_cases hk : k = key
    · subst hk
      cases next <;> simp [continues, entryAfter, parks]
    · have hother : (k == key) = false := beq_eq_false_iff_ne.2 hk
      cases next <;> simp [continues, entryAfter, parks, hother, Ne.symm hk]
  | dispatched g result => simp [continues, entryAfter, parks]

/-- The group that a dispatch turns to. -/
def group? : Deed γ → Option γ
  | dispatched g _ => some g
  | _ => none

/-- The group that a delivery has found and goes on with. -/
def found? : Deed γ → Option γ
  | took _ found => found
  | _ => none

end Deed

/-- The entry of a key after all deeds of a trace. -/
def traceEntry (key : String) (entry : Option γ) (trace : List (ι × Deed γ)) : Option γ :=
  trace.foldl (fun entry x => x.2.entryAfter key entry) entry

/-- The group was put under the key, and nobody has touched the entry since. -/
def Parked (key : String) (g : γ) (trace : List (ι × Deed γ)) : Prop :=
  ∃ older i newer, trace = older ++ (i, .recorded key (some g)) :: newer ∧
    ∀ x ∈ newer, x.2.touches key = false

theorem parked_concat_of_not_touches {key : String} {g : γ} {trace : List (ι × Deed γ)}
    {x : ι × Deed γ} (hx : x.2.touches key = false) :
    Parked key g (trace ++ [x]) ↔ Parked key g trace := by
  constructor
  · rintro ⟨older, i, newer, hsplit, hnewer⟩
    rcases List.eq_nil_or_concat newer with rfl | ⟨init, last, rfl⟩
    · -- the last deed would be the one that puts the group there
      obtain ⟨-, hlast⟩ := List.append_inj' hsplit rfl
      obtain rfl := List.singleton_inj.1 hlast
      simp [Deed.touches] at hx
    · rw [List.concat_eq_append, ← List.cons_append, ← List.append_assoc] at hsplit
      obtain ⟨hinit, -⟩ := List.append_inj' hsplit rfl
      refine ⟨older, i, init, hinit, ?_⟩
      intro y hy
      exact hnewer y (by simp [hy])
  · rintro ⟨older, i, newer, rfl, hnewer⟩
    refine ⟨older, i, newer ++ [x], by simp, ?_⟩
    intro y hy
    rcases List.mem_append.1 hy with hy | hy
    · exact hnewer y hy
    · obtain rfl := List.mem_singleton.1 hy
      exact hx

theorem parked_concat_of_touches {key : String} {g : γ} {trace : List (ι × Deed γ)}
    {x : ι × Deed γ} (hx : x.2.touches key = true) :
    Parked key g (trace ++ [x]) ↔ x.2 = .recorded key (some g) := by
  constructor
  · rintro ⟨older, i, newer, hsplit, hnewer⟩
    rcases List.eq_nil_or_concat newer with rfl | ⟨init, last, rfl⟩
    · obtain ⟨-, hlast⟩ := List.append_inj' hsplit rfl
      rw [List.singleton_inj.1 hlast]
    · rw [List.concat_eq_append, ← List.cons_append, ← List.append_assoc] at hsplit
      obtain ⟨-, hlast⟩ := List.append_inj' hsplit rfl
      obtain rfl := List.singleton_inj.1 hlast
      have hlast := hnewer x (by simp)
      rw [hx] at hlast
      cases hlast
  · intro h
    refine ⟨trace, x.1, [], ?_, by simp⟩
    rw [← h]

/-- What is parked is the entry that the deeds leave, where there was none before. -/
theorem traceEntry_eq_some_iff {key : String} {g : γ} {trace : List (ι × Deed γ)} :
    traceEntry key none trace = some g ↔ Parked key g trace := by
  induction trace using List.reverseRecOn with
  | nil =>
    refine ⟨nofun, ?_⟩
    rintro ⟨older, i, newer, hsplit, -⟩
    simp at hsplit
  | append_singleton init x ih =>
    have hconcat : traceEntry key none (init ++ [x]) =
        x.2.entryAfter key (traceEntry key none init) := by
      simp [traceEntry]
    rw [hconcat]
    cases htouch : x.2.touches key with
    | false =>
      rw [Deed.entryAfter_of_not_touches htouch, parked_concat_of_not_touches htouch]
      exact ih
    | true =>
      rw [parked_concat_of_touches htouch]
      refine ⟨Deed.entryAfter_eq_some htouch, ?_⟩
      intro h
      rw [h]
      exact if_pos rfl

-- ════════════════════════════════════════════════════════════════════════
-- One turn
-- ════════════════════════════════════════════════════════════════════════

namespace Turn

variable {e : Errand γ} {p q : Progress γ} {s t : Store γ} {d : Deed γ}

/-- The deed of a turn says what the turn does to every entry. -/
theorem get?_store (h : Turn e p s d q t) (key : String) :
    t.get? key = d.entryAfter key (s.get? key) := by
  cases h with
  | @take k s hkey => exact Table.get?_erase s k key
  | dispatch => rfl
  | panic => rfl
  | @record os next rest gs k s hkey => exact e.router.get?_recordNext k next s key

/-- A delivery finds what the store holds. -/
theorem eq_get?_of_took {key : String} {found : Option γ} (h : Turn e p s (.took key found) q t) :
    found = s.get? key := by
  cases h
  rfl

end Turn

-- ════════════════════════════════════════════════════════════════════════
-- The groups that a delivery turns to
-- ════════════════════════════════════════════════════════════════════════

/-- The groups that a delivery has to turn to: the one that it has found, or else all targets. -/
def Errand.chosen (e : Errand γ) (ds : List (Deed γ)) : List γ :=
  match ds.findSome? Deed.found? with
  | some g => [g]
  | none => e.router.targets

/-- The deeds of a delivery fit how far it has come. -/
def Errand.Consistent (e : Errand γ) (ds : List (Deed γ)) : Progress γ → Prop
  | .arrived => ds = []
  | .underway _ _ gs => ds.filterMap Deed.group? ++ gs = e.chosen ds
  | .panicked _ => ds.filterMap Deed.group? <+: e.chosen ds

theorem Errand.chosen_concat {e : Errand γ} {d : Deed γ} (hd : d.found? = none)
    (ds : List (Deed γ)) : e.chosen (ds ++ [d]) = e.chosen ds := by
  simp [Errand.chosen, List.findSome?_append, hd]

/-- A turn keeps the deeds of its delivery fitting. -/
theorem Turn.consistent {e : Errand γ} {p q : Progress γ} {s t : Store γ} {d : Deed γ}
    {ds : List (Deed γ)} (h : Turn e p s d q t) (hds : e.Consistent ds p) :
    e.Consistent (ds ++ [d]) q := by
  cases h with
  | @take key s hkey =>
    obtain rfl : ds = [] := hds
    change e.router.consulted s e.message = e.chosen [.took key (s.get? key)]
    have hmessage : e.message.get? e.router.keyFacet = some key := hkey
    simp only [Router.consulted, hmessage, Option.bind_some, Errand.chosen,
      List.findSome?_cons, Deed.found?, List.findSome?_nil]
    cases s.get? key <;> rfl
  | @dispatch os g gs o s =>
    simp only [Errand.Consistent] at hds ⊢
    rw [Errand.chosen_concat rfl, ← hds]
    simp [Deed.group?]
  | @panic os g gs message s =>
    simp only [Errand.Consistent] at hds ⊢
    rw [Errand.chosen_concat rfl, ← hds]
    exact ⟨gs, by simp [Deed.group?]⟩
  | @record os next rest gs key s hkey =>
    simp only [Errand.Consistent] at hds ⊢
    rw [Errand.chosen_concat rfl, ← hds]
    simp [Deed.group?]

-- ════════════════════════════════════════════════════════════════════════
-- Runs
-- ════════════════════════════════════════════════════════════════════════

/-- What one of the deliveries has done. -/
def deedsOf [DecidableEq ι] (i : ι) (trace : List (ι × Deed γ)) : List (Deed γ) :=
  (trace.filter fun x => x.1 = i).map Prod.snd

namespace Run

variable [DecidableEq ι] {errands : ι → Errand γ} {a b : Traffic ι γ}
  {trace : List (ι × Deed γ)}

/-- The deeds of a run say what it does to every entry. -/
theorem get?_store (h : Run errands a trace b) (key : String) :
    b.store.get? key = traceEntry key (a.store.get? key) trace := by
  induction h with
  | nil => rfl
  | turn before now ih =>
    rw [now.get?_store key, ih]
    simp [traceEntry]

/-- The delivery that takes something out has a turn in which the store holds it. -/
theorem eq_get?_of_took {before after : List (ι × Deed γ)} {i : ι} {key : String}
    {found : Option γ} (h : Run errands a (before ++ (i, .took key found) :: after) b) :
    found = traceEntry key (a.store.get? key) before := by
  rw [List.append_cons] at h
  obtain ⟨c, hc, -⟩ := h.split
  generalize hall : before ++ [(i, Deed.took key found)] = all at hc
  cases hc with
  | nil => simp at hall
  | turn hbefore now =>
    obtain ⟨rfl, hlast⟩ := List.append_inj' hall rfl
    obtain ⟨rfl, rfl⟩ := Prod.mk.inj (List.singleton_inj.1 hlast)
    rw [now.eq_get?_of_took, hbefore.get?_store key]

/-- No more conversations of a key go on than were parked, in the run or before it. -/
theorem countP_continues_le (h : Run errands a trace b) (key : String) :
    trace.countP (fun x => x.2.continues key) + (b.store.get? key).isSome.toNat ≤
      trace.countP (fun x => x.2.parks key) + (a.store.get? key).isSome.toNat := by
  induction h with
  | nil => simp
  | @turn b trace i d p s before now ih =>
    have hturn := Deed.continues_add_le key (b.store.get? key) (d := d)
      (by rintro found rfl; exact now.eq_get?_of_took)
    rw [← now.get?_store key] at hturn
    have hcount : ∀ f : Deed γ → Bool, (trace ++ [(i, d)]).countP (fun x => f x.2) =
        trace.countP (fun x => f x.2) + (f d).toNat := by
      intro f
      rw [List.countP_append, List.countP_singleton]
      cases f d <;> rfl
    rw [hcount, hcount]
    change _ + (s.get? key).isSome.toNat ≤ _
    omega

/-- Every delivery turns to the groups that it has to turn to. -/
theorem consistent {s : Store γ} (h : Run errands (Traffic.start errands s) trace b) (i : ι) :
    (errands i).Consistent (deedsOf i trace) (b.progress i) := by
  generalize hstart : Traffic.start errands s = start at h
  induction h with
  | nil =>
    subst hstart
    simp only [Traffic.start, Errand.start, deedsOf]
    cases (errands i).key <;> rfl
  | @turn b trace j d p s before now ih =>
    by_cases hj : j = i
    · subst hj
      have hdeeds : deedsOf j (trace ++ [(j, d)]) = deedsOf j trace ++ [d] := by
        simp [deedsOf]
      rw [hdeeds]
      change (errands j).Consistent _ (Function.update b.progress j p j)
      rw [Function.update_self]
      exact now.consistent ih
    · have hdeeds : deedsOf i (trace ++ [(j, d)]) = deedsOf i trace := by
        simp [deedsOf, hj]
      rw [hdeeds]
      change (errands i).Consistent _ (Function.update b.progress j p i)
      rw [Function.update_of_ne (Ne.symm hj)]
      exact ih

/-- In every run of deliveries from the empty store, at every moment: the store holds for each key
what is parked there; a delivery that goes on with a conversation goes on with one that was parked
then; so no more conversations of a key go on than were parked, and at most one while none is
parked anew; a delivery turns to the group that it goes on with alone, and to all targets if it
goes on with none. A delivery that nobody disturbs is what a router does with its message. -/
theorem parked_conversations_go_on_once (errands : ι → Errand γ)
    (run : Run errands (Traffic.start errands ∅) trace b) :
    (∀ key g, b.store.get? key = some g ↔ Parked key g trace) ∧
      (∀ before i key g after, trace = before ++ (i, .took key (some g)) :: after →
        Parked key g before) ∧
      (∀ key, trace.countP (fun x => x.2.continues key) ≤ trace.countP (fun x => x.2.parks key)) ∧
      (∀ before after key, trace = before ++ after → (∀ x ∈ after, x.2.parks key = false) →
        after.countP (fun x => x.2.continues key) ≤ 1) ∧
      (∀ i, (deedsOf i trace).filterMap Deed.group? <+: (errands i).chosen (deedsOf i trace) ∧
        ∀ os, (b.progress i).result? = some (.ok os) →
          (deedsOf i trace).filterMap Deed.group? = (errands i).chosen (deedsOf i trace)) ∧
      ∀ (e : Errand γ) (s : Store γ), ∃ ds p, (∀ d ∈ ds, d.Faithful e) ∧
        Turns e e.start s ds p (e.router.route e.message s).state ∧
        p.result? = some (e.router.route e.message s).result := by
  have hentry : ∀ key, (Traffic.start errands ∅ : Traffic ι γ).store.get? key = none :=
    Table.get?_empty
  refine ⟨?_, ?_, ?_, ?_, ?_, fun e s => Turns.route e s⟩
  · intro key g
    rw [run.get?_store key, hentry, traceEntry_eq_some_iff]
  · rintro before i key g after rfl
    have hfound := run.eq_get?_of_took
    rw [hentry] at hfound
    exact traceEntry_eq_some_iff.1 hfound.symm
  · intro key
    have hcount := run.countP_continues_le key
    rw [hentry] at hcount
    exact Nat.le_trans (Nat.le_add_right _ _) hcount
  · rintro before after key rfl hnone
    obtain ⟨c, -, hafter⟩ := run.split
    have hcount := hafter.countP_continues_le key
    have hparks : after.countP (fun x => x.2.parks key) = 0 := by
      rw [List.countP_eq_zero]
      intro x hx
      simp [hnone x hx]
    have hentry := Bool.toNat_le (c.store.get? key).isSome
    omega
  · intro i
    have hi := run.consistent i
    cases hp : b.progress i with
    | arrived =>
      rw [hp] at hi
      rw [show deedsOf i trace = [] from hi]
      exact ⟨List.nil_prefix, by simp [Progress.result?]⟩
    | underway os unrecorded groups =>
      rw [hp] at hi
      refine ⟨⟨groups, hi⟩, ?_⟩
      intro os' hresult
      cases unrecorded with
      | cons => simp [Progress.result?] at hresult
      | nil =>
        cases groups with
        | cons => simp [Progress.result?] at hresult
        | nil => simpa [Errand.Consistent] using hi
    | panicked message =>
      rw [hp] at hi
      exact ⟨hi, by simp [Progress.result?]⟩

/-- Three messages that one sender sends at once. -/
def rush : Fin 3 → Errand Nat := fun _ =>
  ⟨Router.handover, ({ channel := "chat" } : Message).insert userFacet "ann"⟩

/-- What handing a conversation over to group 2 gives. -/
def handedOver : Outcome Nat :=
  .invoked [⟨"ring", .ok (.response { dialog := some (.group 2) })⟩]

/-- The first message is handed over. The second one takes the conversation out before the third
one asks for it. -/
def rushTrace : List (Fin 3 × Deed Nat) :=
  [(0, .took "ann" none), (0, .dispatched 0 (.ok .noMatch)), (0, .dispatched 1 (.ok handedOver)),
    (0, .recorded "ann" (some 2)), (1, .took "ann" (some 2)), (2, .took "ann" none),
    (2, .dispatched 0 (.ok .noMatch)), (1, .dispatched 2 (.ok .noMatch))]

/-- Of the second and the third message only the second goes on with the conversation. -/
theorem rush_goes_on_once :
    ∃ b, Run rush (Traffic.start rush ∅) rushTrace b ∧ Parked "ann" 2 (rushTrace.take 4) ∧
      (rushTrace.drop 4).countP (fun x => x.2.continues "ann") ≤ 1 ∧
      (deedsOf 2 rushTrace).filterMap Deed.group? <+: (rush 2).chosen (deedsOf 2 rushTrace) := by
  have hkey : ∀ i, (rush i).key = some "ann" := by decide +kernel
  have hstart : ∀ i, (rush i).start = .arrived := by
    intro i
    rw [Errand.start, hkey]
  have htake : ∀ i (s : Store Nat) found, s.get? "ann" = found →
      Turn (rush i) .arrived s (.took "ann" found)
        (.underway [] [] ((found.map ([·])).getD [0, 1])) (s.erase "ann") := by
    rintro i s found rfl
    have h := Turn.take (e := rush i) (s := s) (hkey i)
    have hmessage : (rush i).message.get? (rush i).router.keyFacet = some "ann" := hkey i
    have hgroups : (rush i).router.consulted s (rush i).message =
        ((s.get? "ann").map ([·])).getD [0, 1] := by
      simp only [Router.consulted, hmessage, Option.bind_some]
      cases s.get? "ann" <;> rfl
    rwa [hgroups] at h
  have hnotes : ∀ i g o, (rush i).notes g o = o.invocations.map (Router.nextDialog g) := by
    intro i g o
    rw [Errand.notes, hkey]
  have hnone : Run rush (Traffic.start rush ∅) [] (Traffic.start rush ∅) := .nil _
  have hfirst := hnone.turns (i := 0) (hstart 0) rfl
    (.cons (htake 0 _ none rfl) (.cons (.dispatch_of_notes (hnotes 0 0 .noMatch) _ _ _)
      (.cons (.dispatch_of_notes (hnotes 0 1 handedOver) _ _ _)
        (.cons (.record (hkey 0)) (.nil _ _)))))
  have hsecond := hfirst.turns (i := 1) (hstart 1) rfl
    (.cons (htake 1 _ (some 2) (by decide +kernel)) (.nil _ _))
  have hthird := hsecond.turns (i := 2) (hstart 2) rfl
    (.cons (htake 2 _ none (by decide +kernel)) (.cons (.dispatch_of_notes (hnotes 2 0 .noMatch) _ _ _)
      (.nil _ _)))
  have run : Run rush (Traffic.start rush ∅) rushTrace _ :=
    hthird.turns (i := 1) rfl rfl
      (.cons (.dispatch_of_notes (hnotes 1 2 .noMatch) _ _ _) (.nil _ _))
  obtain ⟨-, htaken, -, honce, hgroups, -⟩ := run.parked_conversations_go_on_once rush
  exact ⟨_, run, htaken (rushTrace.take 4) 1 "ann" 2 (rushTrace.drop 5) rfl,
    honce (rushTrace.take 4) (rushTrace.drop 4) "ann" rfl (by decide), (hgroups 2).1⟩

end Run

end Parley
