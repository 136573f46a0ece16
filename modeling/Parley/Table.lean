/-!
# Tables

A table holds one entry for each of its keys and lists them in the order of the keys. Messages
keep their facets in one, handlers their patterns, and conversations what is pending.

## Main definitions

- `Table` — entries in ascending order of distinct keys
- `Table.get?`, `Table.insert`, `Table.erase` — look-up and change

## Main results

- `Table.get?_insert`, `Table.get?_erase` — what a change does to the look-up of every key
-/

namespace Parley

/-- Entries in ascending order of distinct keys. -/
structure Table (α : Type u) where
  /-- The entries. -/
  entries : List (String × α)
  sorted : entries.Pairwise fun a b => a.1 < b.1

namespace Table

variable {α : Type u} {β : Type v}

/-- The table without entries. -/
def empty : Table α :=
  ⟨[], .nil⟩

instance : EmptyCollection (Table α) := ⟨empty⟩

instance : Inhabited (Table α) := ⟨empty⟩

instance [DecidableEq α] : DecidableEq (Table α) := fun s t =>
  if h : s.entries = t.entries then
    isTrue (by cases s; cases t; simp_all)
  else isFalse (by intro e; exact h (e ▸ rfl))

/-- The entry of a key. -/
def get? (t : Table α) (key : String) : Option α :=
  t.entries.lookup key

/-- Whether there is an entry for a key. -/
def contains (t : Table α) (key : String) : Bool :=
  (t.get? key).isSome

/-- The number of entries. -/
def size (t : Table α) : Nat :=
  t.entries.length

/-- Whether there are no entries. -/
def isEmpty (t : Table α) : Bool :=
  t.entries.isEmpty

/-- The keys in ascending order. -/
def keys (t : Table α) : List String :=
  t.entries.map Prod.fst

/-- Puts an entry in its place among sorted entries. -/
def place (key : String) (value : α) : List (String × α) → List (String × α)
  | [] => [(key, value)]
  | (k, v) :: rest =>
    if key < k then (key, value) :: (k, v) :: rest
    else if key = k then (key, value) :: rest
    else (k, v) :: place key value rest

/-- Only the key that is put in can be a new one. -/
theorem mem_place {key : String} {value : α} {es : List (String × α)} {e : String × α}
    (h : e ∈ place key value es) : e = (key, value) ∨ e ∈ es := by
  induction es with
  | nil => simpa [place] using h
  | cons a rest ih =>
    obtain ⟨k, v⟩ := a
    unfold place at h
    split at h
    · simpa using h
    · split at h
      · simp only [List.mem_cons] at h ⊢
        exact h.imp_right Or.inr
      · simp only [List.mem_cons] at h ⊢
        rcases h with h | h
        · exact .inr (.inl h)
        · exact (ih h).imp_right Or.inr

theorem pairwise_place (key : String) (value : α) {es : List (String × α)}
    (h : es.Pairwise fun a b => a.1 < b.1) :
    (place key value es).Pairwise fun a b => a.1 < b.1 := by
  induction es with
  | nil => simp [place]
  | cons a rest ih =>
    obtain ⟨k, v⟩ := a
    rw [List.pairwise_cons] at h
    obtain ⟨hk, hrest⟩ := h
    unfold place
    split
    · rename_i hlt
      refine List.pairwise_cons.2 ⟨?_, List.pairwise_cons.2 ⟨hk, hrest⟩⟩
      intro e he
      rcases List.mem_cons.1 he with rfl | he
      · exact hlt
      · exact String.lt_trans hlt (hk e he)
    · rename_i hnlt
      split
      · rename_i heq
        subst heq
        exact List.pairwise_cons.2 ⟨hk, hrest⟩
      · rename_i hne
        refine List.pairwise_cons.2 ⟨?_, ih hrest⟩
        intro e he
        rcases mem_place he with rfl | he
        · apply Decidable.byContradiction
          intro hn
          exact hne (String.le_antisymm (String.not_lt.1 hn) (String.not_lt.1 hnlt))
        · exact hk e he

/-- Sets the entry of a key, in place of the one that it had. -/
def insert (t : Table α) (key : String) (value : α) : Table α :=
  ⟨place key value t.entries, pairwise_place key value t.sorted⟩

/-- Removes the entry of a key, if it has one. -/
def erase (t : Table α) (key : String) : Table α :=
  ⟨t.entries.filter fun e => e.1 != key, t.sorted.filter _⟩

/-- The table with every entry changed. -/
def map (f : α → β) (t : Table α) : Table β :=
  ⟨t.entries.map fun e => (e.1, f e.2), by
    rw [List.pairwise_map]
    exact t.sorted⟩

@[simp]
theorem get?_empty (key : String) : (∅ : Table α).get? key = none :=
  rfl

theorem lookup_cons_if (k : String) (e : String × α) (es : List (String × α)) :
    (e :: es).lookup k = if k = e.1 then some e.2 else es.lookup k := by
  obtain ⟨a, b⟩ := e
  by_cases h : k = a
  · rw [h, List.lookup_cons_self, if_pos rfl]
  · rw [List.lookup_cons, beq_eq_false_iff_ne.2 h, if_neg h]

theorem lookup_place (key : String) (value : α) (es : List (String × α)) (k : String) :
    (place key value es).lookup k = if k = key then some value else es.lookup k := by
  induction es with
  | nil => simp [place, lookup_cons_if]
  | cons a rest ih =>
    obtain ⟨k', v⟩ := a
    unfold place
    split
    · simp only [lookup_cons_if]
    · split
      · rename_i heq
        subst heq
        by_cases h : k = key <;> simp [lookup_cons_if, h]
      · rename_i hne
        simp only [lookup_cons_if, ih]
        by_cases h : k = k'
        · simp [h, Ne.symm hne]
        · simp [h]

/-- Inserting changes the look-up of one key only. -/
theorem get?_insert (t : Table α) (key : String) (value : α) (k : String) :
    (t.insert key value).get? k = if k = key then some value else t.get? k :=
  lookup_place key value t.entries k

theorem lookup_filter (key : String) (es : List (String × α)) (k : String) :
    (es.filter fun e => e.1 != key).lookup k = if k = key then none else es.lookup k := by
  induction es with
  | nil => simp
  | cons a rest ih =>
    by_cases h' : a.1 = key
    · rw [List.filter_cons_of_neg (by simp [h']), ih, lookup_cons_if, h']
      by_cases h : k = key <;> simp [h]
    · rw [List.filter_cons_of_pos (by simp [h']), lookup_cons_if, lookup_cons_if, ih]
      by_cases h : k = a.1
      · simp [h, h']
      · simp [h]

/-- Erasing changes the look-up of one key only. -/
theorem get?_erase (t : Table α) (key : String) (k : String) :
    (t.erase key).get? k = if k = key then none else t.get? k :=
  lookup_filter key t.entries k

end Table

end Parley
