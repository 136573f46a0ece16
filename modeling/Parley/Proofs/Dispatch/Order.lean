import Mathlib.Data.List.Nodup
import Mathlib.Data.List.Perm.Basic
import Parley.Proofs.Dispatch.Delivery

/-!
# The order of registration

The handlers of a group stand in the order of their identities. So it does not matter in which
order they were registered, unless some of them have the same identity: these keep their order, and
where a message is for one handler only, the earliest of them is invoked.

## Main definitions

- `Registration.built` — the handlers that can be built, as they were registered
- `Handler.Leads` — a handler that is the first of the lowest identity to accept a message

## Main results

- `sortHandlers_eq_of_perm` — handlers with different identities have one order only
- `filter_sortHandlers` — handlers with the same identity keep their order
- `leads_of_selectCandidates` — the first candidate leads
- `Dispatcher.invokesOnly_run` — where only one candidate is to be invoked, it is the first
- `Dispatcher.delivery_ignores_registration_order` — what this means for a delivery
-/

namespace Parley

variable {γ : Type}

theorem perm_sortHandlers (hs : List (Handler γ)) : (sortHandlers hs).Perm hs :=
  List.mergeSort_perm hs _

/-- Handlers with different identities have one order only. -/
theorem sortHandlers_eq_of_perm {hs hs' : List (Handler γ)} (hperm : hs.Perm hs')
    (hnodup : (hs.map Handler.identity).Nodup) : sortHandlers hs = sortHandlers hs' := by
  have hmem {h : Handler γ} (h' : h ∈ sortHandlers hs') : h ∈ hs :=
    hperm.mem_iff.mpr ((perm_sortHandlers hs').mem_iff.mp h')
  have hsame : ∀ a b, a ∈ sortHandlers hs → b ∈ sortHandlers hs' → a.InOrder b → b.InOrder a →
      a = b := fun a b ha hb hab hba =>
    List.inj_on_of_nodup_map hnodup ((perm_sortHandlers hs).mem_iff.mp ha) (hmem hb)
      (String.le_antisymm hab hba)
  exact List.Perm.eq_of_pairwise hsame (pairwise_sortHandlers hs) (pairwise_sortHandlers hs')
    ((perm_sortHandlers hs).trans (hperm.trans (perm_sortHandlers hs').symm))

/-- Handlers with the same identity keep their order. -/
theorem filter_sortHandlers (id : String) (hs : List (Handler γ)) :
    (sortHandlers hs).filter (fun h => h.identity = id) =
      hs.filter fun h => h.identity = id := by
  let same := hs.filter fun h => h.identity = id
  have hid : ∀ h ∈ same, decide (h.identity = id) := fun h hh => (List.mem_filter.mp hh).2
  have hpairwise : same.Pairwise fun a b => decide (a.identity ≤ b.identity) = true := by
    refine List.pairwise_of_forall_mem_list fun a ha b hb => decide_eq_true ?_
    have heq : a.identity = b.identity :=
      (of_decide_eq_true (hid a ha)).trans (of_decide_eq_true (hid b hb)).symm
    exact heq ▸ String.le_refl a.identity
  -- They are already in order, so they stand in the sorted list one after the other.
  have hsub : same.Sublist (sortHandlers hs) :=
    List.sublist_mergeSort Handler.sortOrder_trans Handler.sortOrder_total hpairwise
      List.filter_sublist
  have hsame : same.Sublist ((sortHandlers hs).filter fun h => h.identity = id) := by
    rw [← List.filter_eq_self.mpr hid]
    exact hsub.filter _
  exact (hsame.eq_of_length ((perm_sortHandlers hs).symm.filter _).length_eq).symm

/-- Sorting for a second time changes nothing. -/
theorem sortHandlers_sortHandlers (hs : List (Handler γ)) :
    sortHandlers (sortHandlers hs) = sortHandlers hs :=
  List.mergeSort_of_pairwise
    (List.pairwise_mergeSort Handler.sortOrder_trans Handler.sortOrder_total hs)

/-- Candidates with the same identity keep their order. -/
theorem filter_selectCandidates (m : Message) (id : String) (hs : List (Handler γ)) :
    (selectCandidates m hs).filter (fun h => h.identity = id) =
      hs.filter fun h => h.accepts m ∧ h.identity = id := by
  calc (selectCandidates m hs).filter (fun h => h.identity = id)
    _ = ((sortHandlers hs).filter fun h => h.identity = id).filter fun h => h.accepts m := by
      rw [selectCandidates, List.filter_comm]
    _ = (hs.filter fun h => h.identity = id).filter fun h => h.accepts m := by
      rw [filter_sortHandlers]
    _ = hs.filter fun h => h.accepts m ∧ h.identity = id := by
      rw [List.filter_filter]
      simp

theorem mem_selectCandidates {m : Message} {h : Handler γ} {hs : List (Handler γ)} :
    h ∈ selectCandidates m hs ↔ h ∈ hs ∧ h.accepts m := by
  rw [selectCandidates, List.mem_filter, (perm_sortHandlers hs).mem_iff]

/-- A handler that is the first of the lowest identity to accept a message. -/
structure Handler.Leads (m : Message) (hs : List (Handler γ)) (h : Handler γ) : Prop where
  /-- It accepts the message. -/
  accepts : h.accepts m
  /-- No handler with a lower identity does. -/
  lowest : ∀ h' ∈ hs, h'.accepts m → h.identity ≤ h'.identity
  /-- No earlier handler with the same identity does. -/
  earliest : ∃ earlier later, hs = earlier ++ h :: later ∧
    ∀ h' ∈ earlier, h'.accepts m → h'.identity ≠ h.identity

/-- The first candidate leads. -/
theorem leads_of_selectCandidates {m : Message} {hs rest : List (Handler γ)} {h : Handler γ}
    (hcandidates : selectCandidates m hs = h :: rest) : h.Leads m hs := by
  have hpairwise := pairwise_selectCandidates m hs
  have hmem : h ∈ selectCandidates m hs := by
    rw [hcandidates]
    exact List.mem_cons_self
  have hfilter := filter_selectCandidates m h.identity hs
  rw [hcandidates, List.filter_cons_of_pos (by exact decide_eq_true rfl)] at hfilter
  obtain ⟨earlier, later, hsplit, hearlier, -, -⟩ := List.filter_eq_cons_iff.mp hfilter.symm
  refine ⟨(mem_selectCandidates.mp hmem).2, fun h' hh' haccepts => ?_, earlier, later, hsplit,
    fun h' hh' haccepts hid => hearlier h' hh' (decide_eq_true ⟨haccepts, hid⟩)⟩
  have hmem' : h' ∈ selectCandidates m hs := mem_selectCandidates.mpr ⟨hh', haccepts⟩
  rw [hcandidates] at hpairwise hmem'
  exact Handler.identity_le_of_mem hpairwise hmem'

/-- The handlers that can be built, as they were registered. -/
def Registration.built (all : Bool) (rs : List (Registration γ)) : List (Handler γ) :=
  rs.filterMap fun r => (r.build all).toOption

theorem Registration.mem_built_iff {all : Bool} {rs : List (Registration γ)} {h : Handler γ} :
    h ∈ built all rs ↔ ∃ r ∈ rs, r.build all = .ok h := by
  simp only [built, List.mem_filterMap, Except.toOption_eq_some_iff]

theorem Roster.compile_fst (all : Bool) (rs : List (Registration γ)) :
    (compile all rs).1 = Registration.built all rs := by
  induction rs with
  | nil => rfl
  | cons r rest ih =>
    rw [compile, Registration.built, List.filterMap_cons, ← Registration.built, ← ih]
    cases r.build all with
    | ok h => rfl
    | error e => rfl

theorem Roster.handlers_build (r : Roster γ) :
    r.build.handlers = sortHandlers (Registration.built r.invokeAll r.registrations) := by
  rw [build, compile_fst]

/-- The candidates of a group are those of its handlers as they were registered. -/
theorem Roster.selectCandidates_build (m : Message) (r : Roster γ) :
    selectCandidates m r.build.handlers =
      selectCandidates m (Registration.built r.invokeAll r.registrations) := by
  rw [handlers_build, selectCandidates, sortHandlers_sortHandlers, selectCandidates]

theorem Registration.identity_of_build {all : Bool} {r : Registration γ} {h : Handler γ}
    (hbuild : r.build all = .ok h) : h.identity = r.identity := by
  obtain ⟨patterns, -, hpure⟩ := Except.exists_ok_of_bind hbuild
  cases hpure
  rfl

/-- Handlers have different identities if their registrations have. -/
theorem Registration.nodup_built {all : Bool} {rs : List (Registration γ)}
    (hnodup : (rs.map Registration.identity).Nodup) :
    ((built all rs).map Handler.identity).Nodup := by
  refine hnodup.sublist ?_
  induction rs with
  | nil => exact List.Sublist.slnil
  | cons r rest ih =>
    have hrest := ih (List.nodup_cons.mp hnodup).2
    rw [built, List.filterMap_cons, ← built]
    cases hbuild : r.build all with
    | ok h =>
      rw [List.map_cons]
      exact identity_of_build hbuild ▸ hrest.cons_cons _
    | error e => exact hrest.cons _

/-- The order of registrations with different identities does not matter to their group. -/
theorem Roster.build_eq_of_perm (name : String) (all : Bool) {rs rs' : List (Registration γ)}
    (hperm : rs.Perm rs') (hnodup : (rs.map Registration.identity).Nodup) :
    build ⟨name, all, rs⟩ = build ⟨name, all, rs'⟩ := by
  rw [build, build, compile_fst, compile_fst]
  congr 1
  exact sortHandlers_eq_of_perm (hperm.filterMap _) (Registration.nodup_built hnodup)

namespace Dispatcher

variable (d : Dispatcher γ) (m : Message)

/-- A delivery that consists of the invocation of one handler. -/
def InvokesOnly (h : Handler γ) (run : Traced (Outcome γ)) : Prop :=
  deliveryEvents run.events = deliveryEvents (d.invoke m h).events ∧
    run.result = (d.invoke m h).result.map fun i => .invoked [i]

/-- Where only one candidate is to be invoked, it is the first. -/
theorem invokesOnly_run (h : Handler γ) (rest : List (Handler γ)) :
    d.InvokesOnly m h (d.run m (h :: rest) false) := by
  obtain ⟨hevents, hresult⟩ := d.run_eq m (h :: rest) false
  have heach : d.invokeEach m [h] = (d.invoke m h >>= fun i => pure [i]) := rfl
  rw [InvokesOnly, hevents, hresult, if_neg Bool.false_ne_true, List.take_succ_cons,
    List.take_zero, heach, Traced.bind_pure_of]
  refine ⟨rfl, ?_⟩
  cases (d.invoke m h).result with
  | ok i => rfl
  | error message => rfl

/-- The order in which handlers with different identities were registered does not matter, neither
to a group nor to handlers without one. Equal identities keep their order, so that the earliest
handler of the lowest identity is invoked where only one is. -/
theorem delivery_ignores_registration_order :
    (∀ (name : String) (all : Bool) (rs rs' : List (Registration γ)), rs.Perm rs' →
      (rs.map Registration.identity).Nodup →
      let g := Roster.build ⟨name, all, rs⟩
      let g' := Roster.build ⟨name, all, rs'⟩
      g.handlers = g'.handlers ∧ d.dispatch m g = d.dispatch m g') ∧
    (∀ hs hs' : List (Handler γ), hs.Perm hs' → (hs.map Handler.identity).Nodup →
      selectCandidates m hs = selectCandidates m hs' ∧
        d.dispatchHandlers m hs = d.dispatchHandlers m hs') ∧
    (∀ hs : List (Handler γ),
      (selectCandidates m hs).Pairwise Handler.InOrder ∧
      (∀ id, (selectCandidates m hs).filter (fun h => h.identity = id) =
        hs.filter fun h => h.accepts m ∧ h.identity = id) ∧
      ∀ h rest, selectCandidates m hs = h :: rest →
        h.Leads m hs ∧
        (h.invokeAll = false → d.InvokesOnly m h (d.dispatchHandlers m hs))) ∧
    ∀ (name : String) (all : Bool) (rs : List (Registration γ)),
      let g := Roster.build ⟨name, all, rs⟩
      selectCandidates m g.handlers = selectCandidates m (Registration.built all rs) ∧
      ∀ h rest, selectCandidates m g.handlers = h :: rest →
        h.Leads m (Registration.built all rs) ∧
        (all = false → d.InvokesOnly m h (d.dispatch m g)) := by
  refine ⟨fun name all rs rs' hperm hnodup => ?_, fun hs hs' hperm hnodup => ?_,
    fun hs => ⟨pairwise_selectCandidates m hs, fun id => filter_selectCandidates m id hs,
      fun h rest hcandidates => ⟨leads_of_selectCandidates hcandidates, fun hall => ?_⟩⟩,
    fun name all rs => ⟨Roster.selectCandidates_build m _, fun h rest hcandidates => ?_⟩⟩
  · have hbuild := Roster.build_eq_of_perm name all hperm hnodup
    exact ⟨congrArg Group.handlers hbuild, congrArg (d.dispatch m) hbuild⟩
  · have hselect : selectCandidates m hs = selectCandidates m hs' :=
      congrArg (List.filter _) (sortHandlers_eq_of_perm hperm hnodup)
    exact ⟨hselect, by rw [dispatchHandlers, hselect, dispatchHandlers]⟩
  · have hrun : d.dispatchHandlers m hs = d.run m (h :: rest) h.invokeAll := by
      rw [dispatchHandlers, hcandidates]
    rw [hrun, hall]
    exact d.invokesOnly_run m h rest
  · refine ⟨leads_of_selectCandidates (Roster.selectCandidates_build m _ ▸ hcandidates), ?_⟩
    rintro rfl
    have hrun : d.dispatch m (Roster.build ⟨name, false, rs⟩) = d.run m (h :: rest) false := by
      rw [dispatch, hcandidates]
      rfl
    rw [hrun]
    exact d.invokesOnly_run m h rest

/-- Three registrations, one of them with a bad pattern, in both orders. -/
theorem reversed_roster_delivers_alike :
    let rs : List (Registration Unit) :=
      [{ identity := "greet" }, { identity := "echo", patterns := [("text", "\x7b")] },
        { identity := "answer" }]
    let g := Roster.build ⟨"hall", false, rs⟩
    let g' := Roster.build ⟨"hall", false, rs.reverse⟩
    let d : Dispatcher Unit := {}
    let m : Message := { channel := "chat" }
    (rs.map Registration.identity).Nodup ∧
      (Registration.built false rs).map Handler.identity = ["greet", "answer"] ∧
      g.handlers = g'.handlers ∧ d.dispatch m g = d.dispatch m g' := by
  intro rs g g' d m
  have hnodup : (rs.map Registration.identity).Nodup := by decide
  have hsame := (d.delivery_ignores_registration_order m).1 "hall" false rs rs.reverse
    rs.reverse_perm.symm hnodup
  exact ⟨hnodup, by decide +kernel, hsame⟩

end Dispatcher

end Parley
