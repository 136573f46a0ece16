import Parley.Conversation.Router
import Parley.Proofs.Journal

/-!
# What a run does to the entries of a store

Two things can be said of a run on a store and one key: that the run leaves the entry of the key
as it is, and that of the whole store the run heeds this entry only. Both hold of a run as soon as
they hold of its parts.

## Main definitions

- `Act.Spares` — the entry of a key stays as it is
- `Act.HeedsOnly` — two stores with the same entry of a key make no difference

## Main results

- `Router.spares_route` — a message changes no entry but that of its own key
- `Router.heedsOnly_route` — a message heeds no entry but that of its own key
-/

namespace Parley

variable {γ α β : Type}

namespace Act

/-- The entry of the key is the same after the run as before it. -/
def Spares (key : String) (x : Act (Store γ) α) : Prop :=
  ∀ s, (x s).state.get? key = s.get? key

theorem spares_pure (key : String) (a : α) : (pure a : Act (Store γ) α).Spares key :=
  fun _ => rfl

theorem spares_liftM (key : String) (t : Traced α) : (liftM t : Act (Store γ) α).Spares key :=
  fun _ => rfl

/-- A run of two parts spares what both parts spare. -/
theorem Spares.bind {key : String} {x : Act (Store γ) α} {f : α → Act (Store γ) β}
    (hx : x.Spares key) (hf : ∀ a, (f a).Spares key) : (x >>= f).Spares key := by
  intro s
  cases hr : (x s).result with
  | error message =>
    rw [bind_apply_of_error hr]
    exact hx s
  | ok a =>
    rw [bind_apply_of_ok hr]
    exact (hf a (x s).state).trans (hx s)

/-- On two stores with the same entry of the key, the run gives the same events and the same
result, and leaves stores with the same entry of the key. -/
def HeedsOnly (key : String) (x : Act (Store γ) α) : Prop :=
  ∀ s t : Store γ, s.get? key = t.get? key →
    (x s).result = (x t).result ∧ (x s).events = (x t).events ∧
      (x s).state.get? key = (x t).state.get? key

theorem heedsOnly_pure (key : String) (a : α) : (pure a : Act (Store γ) α).HeedsOnly key :=
  fun _ _ h => ⟨rfl, rfl, h⟩

theorem heedsOnly_liftM (key : String) (t : Traced α) :
    (liftM t : Act (Store γ) α).HeedsOnly key :=
  fun _ _ h => ⟨rfl, rfl, h⟩

/-- A run of two parts heeds only what both parts heed only. -/
theorem HeedsOnly.bind {key : String} {x : Act (Store γ) α} {f : α → Act (Store γ) β}
    (hx : x.HeedsOnly key) (hf : ∀ a, (f a).HeedsOnly key) : (x >>= f).HeedsOnly key := by
  intro s t h
  obtain ⟨hresult, hevents, hentry⟩ := hx s t h
  cases hr : (x s).result with
  | error message =>
    have ht : (x t).result = .error message := hresult ▸ hr
    rw [bind_apply_of_error hr, bind_apply_of_error ht]
    exact ⟨rfl, hevents, hentry⟩
  | ok a =>
    have ht : (x t).result = .ok a := hresult ▸ hr
    obtain ⟨hresult', hevents', hentry'⟩ := hf a _ _ hentry
    rw [bind_apply_of_ok hr, bind_apply_of_ok ht]
    exact ⟨hresult', by rw [hevents, hevents'], hentry'⟩

end Act

namespace Router

variable (r : Router γ) (m : Message)

/-- Recording where a conversation goes on sets the entry of its key. -/
theorem get?_recordNext (key : String) (next : Option γ) (s : Store γ) (k : String) :
    (r.recordNext key next s).state.get? k = if k = key then next else s.get? k := by
  cases next with
  | none => exact Table.get?_erase s key k
  | some g => exact Table.get?_insert s key g k

theorem spares_recordEach {key k : String} (hk : k ≠ key) (g : γ) (is : List (Invocation γ)) :
    (r.recordEach key g is).Spares k := by
  induction is with
  | nil => exact Act.spares_pure k ()
  | cons i rest ih =>
    refine Act.Spares.bind (fun s => ?_) fun _ => ih
    rw [get?_recordNext, if_neg hk]

theorem heedsOnly_recordEach (key : String) (g : γ) (is : List (Invocation γ)) :
    (r.recordEach key g is).HeedsOnly key := by
  induction is with
  | nil => exact Act.heedsOnly_pure key ()
  | cons i rest ih =>
    refine Act.HeedsOnly.bind (fun s t _ => ?_) fun _ => ih
    refine ⟨?_, ?_, ?_⟩
    · cases nextDialog g i <;> rfl
    · cases nextDialog g i <;> rfl
    · rw [get?_recordNext, get?_recordNext, if_pos rfl, if_pos rfl]

theorem spares_deliverEach {key : Option String} {k : String} (hk : key ≠ some k) (gs : List γ) :
    (r.deliverEach m key gs).Spares k := by
  induction gs with
  | nil => exact Act.spares_pure k []
  | cons g rest ih =>
    refine Act.Spares.bind ?_ fun _ => ih.bind fun _ => Act.spares_pure k _
    refine Act.Spares.bind (Act.spares_liftM k _) fun o => ?_
    cases key with
    | none => exact Act.spares_pure k o
    | some key =>
      have hne : k ≠ key := fun h => hk (h ▸ rfl)
      exact (r.spares_recordEach hne g _).bind fun _ => Act.spares_pure k o

theorem heedsOnly_deliverEach (key : String) (gs : List γ) :
    (r.deliverEach m (some key) gs).HeedsOnly key := by
  induction gs with
  | nil => exact Act.heedsOnly_pure key []
  | cons g rest ih =>
    refine Act.HeedsOnly.bind ?_ fun _ => ih.bind fun _ => Act.heedsOnly_pure key _
    refine Act.HeedsOnly.bind (Act.heedsOnly_liftM key _) fun o => ?_
    exact (r.heedsOnly_recordEach key g _).bind fun _ => Act.heedsOnly_pure key o

/-- A message changes no entry but that of its own key. -/
theorem spares_route {k : String} (hk : m.get? r.keyFacet ≠ some k) : (r.route m).Spares k := by
  refine Act.Spares.bind ?_ fun pending => ?_
  · cases hkey : m.get? r.keyFacet with
    | none => exact Act.spares_pure k none
    | some key =>
      intro s
      have hne : k ≠ key := fun h => hk (h ▸ hkey)
      exact (Table.get?_erase s key k).trans (if_neg hne)
  · cases pending with
    | none => exact r.spares_deliverEach m hk _
    | some g => exact (Act.spares_liftM k _).bind fun _ => r.spares_deliverEach m hk _

/-- A message heeds no entry but that of its own key. -/
theorem heedsOnly_route {key : String} (hkey : m.get? r.keyFacet = some key) :
    (r.route m).HeedsOnly key := by
  unfold route
  rw [hkey]
  refine Act.HeedsOnly.bind ?_ fun pending => ?_
  · intro s t h
    refine ⟨congrArg Except.ok h, rfl, ?_⟩
    have herase : ∀ u : Store γ, (u.erase key).get? key = none := fun u => by
      rw [Table.get?_erase, if_pos rfl]
    exact (herase s).trans (herase t).symm
  · cases pending with
    | none => exact r.heedsOnly_deliverEach m key _
    | some g => exact (Act.heedsOnly_liftM key _).bind fun _ => r.heedsOnly_deliverEach m key _

end Router

end Parley
