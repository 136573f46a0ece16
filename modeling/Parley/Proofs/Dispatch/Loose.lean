import Parley.Proofs.Dispatch.Leading
import Parley.Proofs.Handler.Registration

/-!
# Handlers without a group

Handlers can be delivered to without a group, and then the first candidate decides whether all of
them are invoked. For the handlers of groups that have the same flag this is as if all of them were
registered in one group with that flag, as long as groups that change their places have no
identity in common.

## Main definitions

- `AgreeByIdentity` — two lists with the same handlers of each identity, in the same order
- `looseHandlers` — the handlers of some groups
- `Roster.Apart` — two groups without a common identity
- `Dispatcher.DeliversAs` — a delivery to handlers without a group that is one to a group

## Main results

- `sortHandlers_eq_iff` — when two lists are sorted alike
- `Roster.invokeAll_of_mem_handlers` — the handlers of a group have its flag
- `agreeByIdentity_looseHandlers` — groups one after the other are as one group
- `agreeByIdentity_of_perm` — groups without a common identity may change their places
- `Dispatcher.deliversAs_of_agree` — handlers that are sorted as those of a group are
- `Dispatcher.loose_handlers_dispatch_as_group` — a delivery to the handlers of some groups
-/

namespace Parley

variable {γ : Type}

-- ════════════════════════════════════════════════════════════════════════
-- Lists that are sorted alike
-- ════════════════════════════════════════════════════════════════════════

/-- The same handlers of each identity, in the same order. -/
def AgreeByIdentity (hs hs' : List (Handler γ)) : Prop :=
  ∀ id, hs.filter (fun h => h.identity = id) = hs'.filter fun h => h.identity = id

namespace AgreeByIdentity

variable {hs hs' : List (Handler γ)} {h h' : Handler γ}

theorem mem_iff (hagree : AgreeByIdentity hs hs') : h ∈ hs ↔ h ∈ hs' := by
  have hself {gs : List (Handler γ)} : h ∈ gs ↔ h ∈ gs.filter fun g => g.identity = h.identity := by
    simp
  rw [hself, hagree, ← hself]

theorem trans {hs'' : List (Handler γ)} (hagree : AgreeByIdentity hs hs')
    (hagree' : AgreeByIdentity hs' hs'') : AgreeByIdentity hs hs'' :=
  fun id => (hagree id).trans (hagree' id)

/-- Without the first handler of both lists the others agree. -/
theorem tail (hagree : AgreeByIdentity (h :: hs) (h :: hs')) : AgreeByIdentity hs hs' := by
  intro id
  have hid := hagree id
  rw [List.filter_cons, List.filter_cons] at hid
  split at hid
  · exact List.tail_eq_of_cons_eq hid
  · exact hid

/-- In lists that are in order, the first handlers are the same. -/
theorem head_eq (hagree : AgreeByIdentity (h :: hs) (h' :: hs'))
    (hordered : (h :: hs).Pairwise Handler.InOrder)
    (hordered' : (h' :: hs').Pairwise Handler.InOrder) : h = h' := by
  have hidentity : h'.identity = h.identity :=
    String.le_antisymm
      (Handler.identity_le_of_mem hordered' (hagree.mem_iff.mp List.mem_cons_self))
      (Handler.identity_le_of_mem hordered (hagree.mem_iff.mpr List.mem_cons_self))
  have hfirst := hagree h.identity
  rw [List.filter_cons_of_pos (by exact decide_eq_true rfl),
    List.filter_cons_of_pos (by exact decide_eq_true hidentity)] at hfirst
  exact List.head_eq_of_cons_eq hfirst

/-- Lists that are in order are equal if they agree. -/
theorem eq_of_pairwise (hagree : AgreeByIdentity hs hs') (hordered : hs.Pairwise Handler.InOrder)
    (hordered' : hs'.Pairwise Handler.InOrder) : hs = hs' := by
  induction hs generalizing hs' with
  | nil =>
    refine (List.eq_nil_iff_forall_not_mem.mpr fun h hmem => ?_).symm
    exact List.not_mem_nil (hagree.mem_iff.mpr hmem)
  | cons h hs ih =>
    cases hs' with
    | nil => exact absurd (hagree.mem_iff.mp List.mem_cons_self) List.not_mem_nil
    | cons h' hs' =>
      obtain rfl := hagree.head_eq hordered hordered'
      rw [ih hagree.tail hordered.of_cons hordered'.of_cons]

end AgreeByIdentity

/-- Two lists are sorted alike if they have the same handlers of each identity, in the same
order. -/
theorem sortHandlers_eq_iff {hs hs' : List (Handler γ)} :
    sortHandlers hs = sortHandlers hs' ↔ AgreeByIdentity hs hs' := by
  constructor
  · intro heq id
    rw [← filter_sortHandlers, heq, filter_sortHandlers]
  · intro hagree
    refine AgreeByIdentity.eq_of_pairwise (fun id => ?_) (pairwise_sortHandlers hs)
      (pairwise_sortHandlers hs')
    rw [filter_sortHandlers, filter_sortHandlers, hagree]

theorem AgreeByIdentity.perm {hs hs' : List (Handler γ)} (hagree : AgreeByIdentity hs hs') :
    hs.Perm hs' :=
  (perm_sortHandlers hs).symm.trans (sortHandlers_eq_iff.mpr hagree ▸ perm_sortHandlers hs')

-- ════════════════════════════════════════════════════════════════════════
-- The handlers of several groups
-- ════════════════════════════════════════════════════════════════════════

/-- Every handler of a group has the flag of the group. -/
theorem Roster.invokeAll_of_mem_handlers {r : Roster γ} {h : Handler γ}
    (hh : h ∈ r.build.handlers) : h.invokeAll = r.invokeAll := by
  rw [handlers_build, (perm_sortHandlers _).mem_iff, Registration.mem_built_iff] at hh
  obtain ⟨q, -, hbuild⟩ := hh
  exact (Registration.gives_of_build hbuild).invokeAll

/-- The handlers of some groups, one group after the other. -/
def looseHandlers (rosters : List (Roster γ)) : List (Handler γ) :=
  rosters.flatMap fun r => r.build.handlers

theorem invokeAll_of_mem_looseHandlers {all : Bool} {rosters : List (Roster γ)}
    (hall : ∀ r ∈ rosters, r.invokeAll = all) {h : Handler γ} (hh : h ∈ looseHandlers rosters) :
    h.invokeAll = all := by
  obtain ⟨r, hr, hmem⟩ := List.mem_flatMap.mp hh
  exact (Roster.invokeAll_of_mem_handlers hmem).trans (hall r hr)

/-- The handlers of some groups, one group after the other, agree with those of one group with all
registrations. -/
theorem agreeByIdentity_looseHandlers {all : Bool} {rosters : List (Roster γ)}
    (hall : ∀ r ∈ rosters, r.invokeAll = all) :
    AgreeByIdentity (looseHandlers rosters)
      (Registration.built all (rosters.flatMap Roster.registrations)) := by
  intro id
  rw [looseHandlers, Registration.built, List.filterMap_flatMap, List.filter_flatMap,
    List.filter_flatMap]
  refine List.flatMap_congr fun r hr => ?_
  rw [r.handlers_build, filter_sortHandlers, hall r hr, Registration.built]

/-- Two groups without a common identity. -/
def Roster.Apart (r r' : Roster γ) : Prop :=
  ∀ h ∈ r.build.handlers, ∀ h' ∈ r'.build.handlers, h.identity ≠ h'.identity

theorem Roster.Apart.symm {r r' : Roster γ} (hapart : r.Apart r') : r'.Apart r :=
  fun h' hh' h hh => (hapart h hh h' hh').symm

/-- Lists can be put together in any order if no two of them have elements. -/
theorem flatMap_eq_of_perm {α β : Type} {f : α → List β} {xs ys : List α} (hperm : xs.Perm ys)
    (hone : xs.Pairwise fun x y => f x = [] ∨ f y = []) : xs.flatMap f = ys.flatMap f := by
  induction hperm with
  | nil => rfl
  | cons x _ ih => rw [List.flatMap_cons, List.flatMap_cons, ih hone.of_cons]
  | swap x y xs =>
    have hnil := List.rel_of_pairwise_cons hone List.mem_cons_self
    simp only [List.flatMap_cons]
    rcases hnil with hnil | hnil <;> rw [hnil, List.nil_append, List.nil_append]
  | trans hperm _ ih ih' =>
    rw [ih hone, ih' ((hperm.pairwise_iff Or.symm).mp hone)]

/-- Groups without a common identity may change their places. -/
theorem agreeByIdentity_of_perm {rosters rosters' : List (Roster γ)} (hperm : rosters'.Perm rosters)
    (hapart : rosters.Pairwise Roster.Apart) :
    AgreeByIdentity (looseHandlers rosters')
      (looseHandlers rosters) := by
  intro id
  rw [looseHandlers, looseHandlers, List.filter_flatMap, List.filter_flatMap]
  refine (flatMap_eq_of_perm hperm.symm (hapart.imp fun {r r'} hr => ?_)).symm
  simp only [List.filter_eq_nil_iff, decide_eq_true_eq]
  by_contra! hcommon
  obtain ⟨⟨h, hh, hid⟩, h', hh', hid'⟩ := hcommon
  exact hr h hh h' hh' (hid.trans hid'.symm)

-- ════════════════════════════════════════════════════════════════════════
-- Deliveries to the same candidates
-- ════════════════════════════════════════════════════════════════════════

namespace Dispatcher

variable (d : Dispatcher γ) (m : Message)

/-- A message is delivered to handlers without a group as it is to a group. The log may differ. -/
structure DeliversAs (hs : List (Handler γ)) (g : Group γ) : Prop where
  candidates : selectCandidates m hs = selectCandidates m g.handlers
  /-- The hook is told the same, and the same handlers are called with the same arguments. -/
  events : deliveryEvents (d.dispatchHandlers m hs).events = deliveryEvents (d.dispatch m g).events
  result : (d.dispatchHandlers m hs).result = (d.dispatch m g).result

variable {d m}

theorem deliversAs_of_candidates {hs : List (Handler γ)} {g : Group γ}
    (hcandidates : selectCandidates m hs = selectCandidates m g.handlers)
    (hall : ∀ h ∈ hs, h.invokeAll = g.invokeAll) : d.DeliversAs m hs g := by
  refine ⟨hcandidates, ?_, ?_⟩ <;> rw [dispatchHandlers, dispatch, ← hcandidates]
  all_goals
    cases hc : selectCandidates m hs with
    | nil => rfl
    | cons h rest =>
      have hmem : h ∈ selectCandidates m hs := hc ▸ List.mem_cons_self
      simp only [hall h (mem_selectCandidates.mp hmem).1]

/-- Handlers are delivered to as the group of some registrations is if they have its flag and are
sorted as the handlers of the registrations are. -/
theorem deliversAs_of_agree {all : Bool} {hs : List (Handler γ)} {rs : List (Registration γ)}
    (hagree : AgreeByIdentity hs (Registration.built all rs))
    (hall : ∀ h ∈ hs, h.invokeAll = all) (name : String) :
    d.DeliversAs m hs (Roster.build ⟨name, all, rs⟩) := by
  refine deliversAs_of_candidates ?_ hall
  rw [Roster.selectCandidates_build, selectCandidates, sortHandlers_eq_iff.mpr hagree,
    selectCandidates]

variable (d m)

/-- The handlers of groups with the same flag are delivered to as one group with all their
registrations is: in any order if all identities are different, and with the groups in any order if
no two groups have an identity in common. The handlers of a single group are delivered to as the
group is, whatever their identities. -/
theorem loose_handlers_dispatch_as_group :
    (∀ (name : String) (all : Bool) (rosters : List (Roster γ)),
      (∀ r ∈ rosters, r.invokeAll = all) →
      (((looseHandlers rosters).map Handler.identity).Nodup →
        ∀ hs rs, hs.Perm (looseHandlers rosters) →
          rs.Perm (rosters.flatMap Roster.registrations) →
          d.DeliversAs m hs (Roster.build ⟨name, all, rs⟩)) ∧
      (rosters.Pairwise Roster.Apart →
        ∀ rosters' rosters'' : List (Roster γ), rosters'.Perm rosters → rosters''.Perm rosters →
          d.DeliversAs m (looseHandlers rosters')
            (Roster.build ⟨name, all, rosters''.flatMap Roster.registrations⟩))) ∧
    ∀ r : Roster γ, d.DeliversAs m r.build.handlers r.build := by
  refine ⟨fun name all rosters hall => ⟨fun hnodup hs rs hhs hrs => ?_,
    fun hapart rosters' rosters'' hperm' hperm'' => ?_⟩, fun r => ?_⟩
  · have hagree := agreeByIdentity_looseHandlers hall
    refine deliversAs_of_agree (sortHandlers_eq_iff.mp ?_)
      (fun h hh => invokeAll_of_mem_looseHandlers hall (hhs.mem_iff.mp hh)) name
    calc sortHandlers hs
      _ = sortHandlers (looseHandlers rosters) :=
        sortHandlers_eq_of_perm hhs ((hhs.map _).nodup_iff.mpr hnodup)
      _ = sortHandlers (Registration.built all (rosters.flatMap Roster.registrations)) :=
        sortHandlers_eq_iff.mpr hagree
      _ = sortHandlers (Registration.built all rs) :=
        sortHandlers_eq_of_perm (hrs.symm.filterMap _) ((hagree.perm.map _).nodup_iff.mp hnodup)
  · have hall' : ∀ r ∈ rosters', r.invokeAll = all :=
      fun r hr => hall r (hperm'.mem_iff.mp hr)
    have hall'' : ∀ r ∈ rosters'', r.invokeAll = all :=
      fun r hr => hall r (hperm''.mem_iff.mp hr)
    have hagree := agreeByIdentity_of_perm (hperm'.trans hperm''.symm)
      ((hperm''.pairwise_iff Roster.Apart.symm).mpr hapart)
    exact deliversAs_of_agree (hagree.trans (agreeByIdentity_looseHandlers hall''))
      (fun h hh => invokeAll_of_mem_looseHandlers hall' hh) name
  · exact deliversAs_of_candidates rfl fun h hh => Roster.invokeAll_of_mem_handlers hh

/-- Two groups that invoke all of their handlers, put together in the other order. -/
theorem yard_before_hall_delivers_alike :
    let hall : Roster Unit := ⟨"hall", true,
      [{ identity := "greet" }, { identity := "call", patterns := [("text", "ho")] }]⟩
    let yard : Roster Unit := ⟨"yard", true, [{ identity := "bow" }, { identity := "answer" }]⟩
    let rs := (hall.registrations ++ yard.registrations).reverse
    let both : Group Unit := Roster.build ⟨"both", true, rs⟩
    let d : Dispatcher Unit := {}
    let m : Message := { channel := "chat" }
    (selectCandidates m both.handlers).map Handler.identity = ["answer", "bow", "greet"] ∧
      d.DeliversAs m (yard.build.handlers ++ hall.build.handlers) both := by
  intro hall yard rs both d m
  have hflags : ∀ r ∈ [hall, yard], r.invokeAll = true := by simp [hall, yard]
  have hregistered : (rs.map Registration.identity).Pairwise (· ≤ ·) ∧
      (([hall, yard].flatMap Roster.registrations).map Registration.identity).Nodup := by decide
  have hnodup : ((looseHandlers [hall, yard]).map Handler.identity).Nodup :=
    ((agreeByIdentity_looseHandlers hflags).perm.map _).nodup_iff.mpr
      (Registration.nodup_built hregistered.2)
  have hperm : (yard.build.handlers ++ hall.build.handlers).Perm (looseHandlers [hall, yard]) := by
    simpa [looseHandlers] using List.perm_append_comm
  refine ⟨?_, ((d.loose_handlers_dispatch_as_group m).1 "both" true [hall, yard] hflags).1 hnodup
    _ rs hperm (List.reverse_perm _)⟩
  rw [Roster.candidates_of_pairwise (List.pairwise_map.mp hregistered.1)]
  decide +kernel

end Dispatcher

end Parley
