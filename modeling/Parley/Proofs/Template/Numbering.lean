import Parley.Proofs.Template.Capture
import Parley.Table

/-!
# Templates with one group for each placeholder

Where a pattern has as many groups as placeholders, and one for the remainder, no group is passed
over, whether or not it took part in the match. So every name that the template declares has a
value, and it is the text of the group with the place of the name.

## Main results

- `TemplateMatch.first?_eq_lookup` — the value of a name is the first capture with that name
- `Template.first?_of_count` — a name that is declared has the text of the group with its place
- `Template.first?_of_not_mem` — a name that is not declared has no value
-/

namespace Parley

-- ════════════════════════════════════════════════════════════════════════
-- The first value of a name
-- ════════════════════════════════════════════════════════════════════════

/-- Except for the remainder, the value of a name is the first capture with that name. -/
theorem TemplateMatch.first?_eq_lookup (m : TemplateMatch) {name : String}
    (hname : name ≠ finalGroupName) : m.first? name = m.captures.lookup name := by
  have hlookup : ((m.captures.filter fun c => c.1 == name).map Prod.snd).head? =
      m.captures.lookup name := by
    induction m.captures with
    | nil => rfl
    | cons c rest ih =>
      rw [Table.lookup_cons_if, ← ih, List.filter_cons]
      by_cases heq : name = c.1
      · simp [heq]
      · simp [heq, Ne.symm heq]
  rw [first?, get?, if_neg hname, ← hlookup]
  cases (m.captures.filter fun c => c.1 == name).map Prod.snd <;> rfl

theorem lookup_zip_of_mem {names texts : List String} {name : String} (hmem : name ∈ names) :
    (names.zip texts).lookup name = texts[names.idxOf name]? := by
  induction names generalizing texts with
  | nil => cases hmem
  | cons n names ih =>
    cases texts with
    | nil => rfl
    | cons t texts =>
      rw [List.zip_cons_cons, Table.lookup_cons_if]
      by_cases heq : name = n
      · subst heq
        simp
      · rw [if_neg heq, ih (List.mem_of_ne_of_mem heq hmem), List.idxOf_cons_ne _ (Ne.symm heq)]
        rfl

theorem lookup_zip_of_not_mem {names texts : List String} {name : String} (hmem : name ∉ names) :
    (names.zip texts).lookup name = none := by
  rw [List.lookup_eq_none_iff]
  rintro ⟨n, t⟩ hc
  rw [bne_iff_ne]
  rintro rfl
  exact hmem (List.of_mem_zip hc).1

namespace Template

-- ════════════════════════════════════════════════════════════════════════
-- Values by place
-- ════════════════════════════════════════════════════════════════════════

section Count

variable {names : List String} {groups : List (Option (List Char))} {name : String}

/-- Where there is one group for each name, and one for the remainder, none is passed over. -/
theorem takenGroups_of_count (hcount : groups.length = names.length + 2) :
    takenGroups names groups = List.range' 1 (names.length + 1) := by
  rw [takenGroups, List.filter_eq_self.mpr fun g _ => isTaken_of_count hcount g, hcount]
  rfl

/-- A name that is declared has the text of the group with its place. -/
theorem first?_of_count (hcount : groups.length = names.length + 2)
    (hname : name ≠ finalGroupName) (hmem : name ∈ names) :
    (ofGroups names groups).first? name =
      some (String.ofList (textOf groups (names.idxOf name + 1))) := by
  have hgroups : groups ≠ [] := List.ne_nil_of_length_eq_add_one hcount
  have hplace : names.idxOf name < names.length := List.idxOf_lt_length_of_mem hmem
  rw [TemplateMatch.first?_eq_lookup _ hname, captures_ofGroups names hgroups,
    lookup_zip_of_mem hmem, takenGroups_of_count hcount, List.getElem?_map,
    List.getElem?_range' (by omega)]
  simp [Nat.add_comm]

/-- A name that is not declared has no value. -/
theorem first?_of_not_mem (hgroups : groups ≠ []) (hname : name ≠ finalGroupName)
    (hmem : name ∉ names) : (ofGroups names groups).first? name = none := by
  rw [TemplateMatch.first?_eq_lookup _ hname, captures_ofGroups names hgroups,
    lookup_zip_of_not_mem hmem]

end Count

end Template

end Parley
