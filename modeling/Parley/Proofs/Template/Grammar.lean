import Mathlib.Data.List.Forall2
import Parley.Proofs.Regex.Parts
import Parley.Proofs.Template.Tree

/-!
# The grammar of a template

The texts of a template are its chunks one after the other, with a value for each placeholder,
without a final slash of a literal, and then a remainder. These are the spans of its tree, and the
positions that a span records are those of the values and of the remainder.

## Main definitions

- `Placeholder.Admits` — what may stand for a placeholder
- `Chunk.fillWith`, `Chunk.stem` — the text of chunks with values for the placeholders
- `Template.Parses` — a text as chunks with values and a remainder
- `Reading.across` — the positions that the tree of the chunks records

## Main results

- `Chunk.spans_trees` — the spans of the trees of chunks are the texts of the chunks
- `Template.spans_tree` — the spans of the tree of a template are the texts of its grammar
-/

namespace Parley

open Regex

/-- The text may stand for the placeholder: its constraint, which is a pattern on its own, matches
the whole of it; or the text is not empty and has no slash, if there is no constraint. -/
def Placeholder.Admits (p : Placeholder) (v : List Char) : Prop :=
  match p.constraint with
  | some c => ∃ r, parse? c.source.toList = some r ∧ r.MatchesWhole v
  | none => v ≠ [] ∧ '/' ∉ v

theorem Placeholder.admits_of_unconstrained {p : Placeholder} (h : p.constraint = none)
    {v : List Char} : p.Admits v ↔ v ≠ [] ∧ '/' ∉ v := by
  rw [Admits, h]

namespace Chunk

/-- The text of chunks with values for their placeholders, in order. -/
def fillWith : List Chunk → List (List Char) → List Char
  | [], _ => []
  | .literal text :: rest, values => text.toList ++ fillWith rest values
  | .placeholder _ :: rest, [] => fillWith rest []
  | .placeholder _ :: rest, v :: values => v ++ fillWith rest values

/-- Whether the last chunk is a literal with a slash at its end. -/
def endsInSlash (chunks : List Chunk) : Bool :=
  match chunks.getLast? with
  | some (.literal text) => text.toList.getLast? = some '/'
  | _ => false

/-- The text of chunks with values, without the final slash of a literal. -/
def stem (chunks : List Chunk) (values : List (List Char)) : List Char :=
  if endsInSlash chunks then (fillWith chunks values).dropLast else fillWith chunks values

end Chunk

/-- What may follow a template: nothing, or a slash with the rest of a line. -/
def IsRemainder (s : List Char) : Prop :=
  s = [] ∨ ∃ line, s = '/' :: line ∧ '\n' ∉ line

/-- Before a remainder, a text without slashes ends at the first slash. -/
theorem IsRemainder.takeWhile_append {v s : List Char} (hs : IsRemainder s) (hv : '/' ∉ v) :
    (v ++ s).takeWhile (· ≠ '/') = v := by
  have hplain : ∀ c ∈ v, decide (c ≠ '/') := by
    intro c hc
    rw [decide_eq_true_eq]
    rintro rfl
    exact hv hc
  rw [List.takeWhile_append_of_pos hplain]
  obtain rfl | ⟨line, rfl, -⟩ := hs <;> simp

/-- An input as the chunks of a template, with values for the placeholders and a remainder. -/
structure Template.Parses (chunks : List Chunk) (input : List Char) (values : List (List Char))
    (remainder : List Char) : Prop where
  /-- The values are admitted. -/
  admitted : List.Forall₂ Placeholder.Admits (Chunk.placeholders chunks) values
  /-- The input is the chunks with these values, and the remainder. -/
  text : input = Chunk.stem chunks values ++ remainder
  /-- The remainder begins with a slash, unless it is empty. -/
  remainder : IsRemainder remainder

namespace Chunk

/-- Only the last chunk decides whether the chunks end in a slash. -/
theorem endsInSlash_cons {rest : List Chunk} (h : rest ≠ []) (c : Chunk) :
    endsInSlash (c :: rest) = endsInSlash rest := by
  unfold endsInSlash
  rw [List.getLast?_cons, List.getLast?_eq_some_getLast h, Option.getD_some]

theorem endsInSlash_literal (text : String) :
    endsInSlash [.literal text] ↔ text.toList.getLast? = some '/' := by
  simp [endsInSlash]

/-- Values put before the text of the other chunks. -/
theorem fillWith_cons (c : Chunk) (values : List (List Char)) :
    ∃ (first : List Char) (others : List (List Char)),
      ∀ rest, fillWith (c :: rest) values = first ++ fillWith rest others := by
  cases c with
  | literal text => exact ⟨text.toList, values, fun _ => rfl⟩
  | placeholder p =>
    cases values with
    | nil => exact ⟨[], [], fun _ => rfl⟩
    | cons v values => exact ⟨v, values, fun _ => rfl⟩

/-- The chunks without a final slash have the text without that slash. -/
theorem fillWith_trim (chunks : List Chunk) (values : List (List Char)) :
    fillWith chunks values =
      fillWith (trim chunks) values ++ (if endsInSlash chunks then ['/'] else []) := by
  induction chunks using lastInduction generalizing values with
  | nil => rfl
  | literal text =>
    simp only [trim, fillWith, List.append_nil, String.toList_ofList]
    by_cases hslash : text.toList.getLast? = some '/'
    · rw [if_pos ((endsInSlash_literal text).mpr hslash)]
      exact dropFinalSlash_of_getLast? hslash
    · rw [if_neg fun h => hslash ((endsInSlash_literal text).mp h), dropFinalSlash_of_ne hslash,
        List.append_nil]
  | placeholder p => simp [trim, endsInSlash]
  | cons c rest hne ih =>
    obtain ⟨first, others, hcons⟩ := fillWith_cons c values
    rw [trim_cons hne, hcons, hcons, ih, endsInSlash_cons hne, List.append_assoc]

theorem stem_eq (chunks : List Chunk) (values : List (List Char)) :
    stem chunks values = fillWith (trim chunks) values := by
  rw [stem, fillWith_trim]
  split <;> simp

end Chunk

/-- What stands for a placeholder without a constraint is not empty and has no slash. -/
theorem matchesWhole_segmentTree {v : List Char} :
    segmentTree.MatchesWhole v ↔ v ≠ [] ∧ '/' ∉ v := by
  rw [segmentTree, matchesWhole_rep_chars, Nat.one_le_iff_ne_zero, ne_eq, List.length_eq_zero_iff]
  refine and_congr_right fun _ => ?_
  simp only [CharClass.contains_compl_single]
  exact ⟨fun h hv => h _ hv rfl, fun h c hc heq => h (heq ▸ hc)⟩

/-- The tree of a placeholder matches what the placeholder admits. -/
theorem Placeholder.matchesWhole_tree {p : Placeholder} (h : Chunk.Readable (.placeholder p))
    {v : List Char} : p.tree.MatchesWhole v ↔ p.Admits v := by
  unfold Admits
  cases hc : p.constraint with
  | none =>
    rw [p.tree_of_unconstrained hc]
    exact matchesWhole_segmentTree
  | some c =>
    obtain ⟨-, hparse, -⟩ := p.parse?_source h
    have hsource : p.source = c.source.toList := by
      rw [source, hc]
    rw [hsource] at hparse
    simp [hparse]

/-- Any text within a line. -/
theorem spans_line {m n : Reading} : (rep true 0 none (chars (.compl (.single '\n')))).Spans m n ↔
    ∃ line, m.rest = line ++ n.rest ∧ n = m.skip line ∧ '\n' ∉ line := by
  rw [spans_iff rfl rfl]
  refine exists_congr fun line => and_congr_right fun _ => and_congr_right fun _ => ?_
  simp only [matchesWhole_rep_chars, CharClass.contains_compl_single, Nat.zero_le, true_and]
  exact ⟨fun h hv => h _ hv rfl, fun h c hc heq => h (heq ▸ hc)⟩

/-- A slash with the rest of a line. -/
theorem matchesWhole_lineTree {w : List Char} :
    lineTree.MatchesWhole w ↔ ∃ line, w = '/' :: line ∧ '\n' ∉ line := by
  constructor
  · rintro ⟨n, ⟨_, ⟨c, cs, hrest, hc, rfl⟩, hspan⟩, hend⟩
    obtain ⟨line, hcs, rfl, hnewline⟩ := spans_line.mp hspan
    obtain rfl := CharClass.contains_single.mp hc
    rw [rest_skip (w := ['/']) hrest, hend, List.append_nil] at hcs
    exact ⟨line, by rw [← hcs]; exact hrest, hnewline⟩
  · rintro ⟨line, rfl, hnewline⟩
    let m : Reading := ⟨.start ('/' :: line), lineTree.startSlots 0⟩
    have hrest : (m.skip ['/']).rest = line := rest_skip (w := ['/']) rfl
    have hend : ((m.skip ['/']).skip line).rest = [] :=
      rest_skip (by rw [hrest, List.append_nil])
    refine ⟨_, ⟨m.skip ['/'], ⟨'/', line, rfl, CharClass.contains_single.mpr rfl, rfl⟩, ?_⟩, hend⟩
    exact spans_line.mpr ⟨line, by rw [hend, hrest, List.append_nil], rfl, hnewline⟩

/-- The text that is left as the text of a group, unless it is empty. -/
def Reading.finish (m : Reading) (group : Nat) : Reading :=
  if m.rest = [] then m else m.capture group m.rest

/-- The remainder is all that is left. -/
theorem spans_remainderTree {index : Nat} {m n : Reading} :
    (remainderTree index).Spans m n ∧ n.rest = [] ↔ IsRemainder m.rest ∧ n = m.finish index := by
  constructor
  · rintro ⟨⟨count, -, hcount, htimes⟩, hend⟩
    have hcount := hcount 1 rfl
    obtain rfl | rfl : count = 0 ∨ count = 1 := by omega
    · obtain rfl := htimes
      exact ⟨.inl hend, (if_pos hend).symm⟩
    · obtain ⟨_, hspan, rfl⟩ := htimes
      obtain ⟨w, hrest, rfl, hwhole⟩ := (spans_group rfl rfl).mp hspan
      rw [hend, List.append_nil] at hrest
      obtain ⟨line, rfl, hnewline⟩ := matchesWhole_lineTree.mp hwhole
      refine ⟨.inr ⟨line, hrest, hnewline⟩, ?_⟩
      rw [Reading.finish, if_neg (by simp [hrest]), hrest]
  · rintro ⟨hempty | ⟨line, hrest, hnewline⟩, rfl⟩
    · rw [Reading.finish, if_pos hempty]
      exact ⟨⟨0, Nat.zero_le _, fun _ _ => Nat.zero_le _, rfl⟩, hempty⟩
    · rw [Reading.finish, if_neg (by simp [hrest])]
      have hend : (m.capture index m.rest).rest = [] := by simp
      refine ⟨⟨1, Nat.zero_le _, fun h hh => ?_, m.capture index m.rest, ?_, rfl⟩, hend⟩
      · cases hh
        exact Nat.le_max_right ..
      · have hwhole := matchesWhole_lineTree.mpr ⟨line, hrest, hnewline⟩
        exact (spans_group rfl rfl).mpr ⟨m.rest, by rw [hend, List.append_nil], rfl, hwhole⟩

/-- The chunks with values that stand here, the first placeholder as the group `index`. -/
def Reading.across : (index : Nat) → List Chunk → List (List Char) → Reading → Reading
  | _, [], _, m => m
  | index, .literal text :: rest, values, m => across index rest values (m.skip text.toList)
  | index, .placeholder _ :: rest, [], m => across (index + 1) rest [] m
  | index, .placeholder _ :: rest, v :: values, m =>
    across (index + 1) rest values (m.capture index v)

/-- The chunks with values stand for the text that they fill. -/
@[simp]
theorem Reading.across_toCursor (m : Reading) (index : Nat) (chunks : List Chunk)
    (values : List (List Char)) :
    (m.across index chunks values).toCursor = m.toCursor.skip (Chunk.fillWith chunks values) := by
  induction chunks generalizing m index values with
  | nil => simp [across, Chunk.fillWith]
  | cons c rest ih =>
    cases c with
    | literal text => rw [across, ih, Chunk.fillWith, Cursor.skip_append, skip_toCursor]
    | placeholder p =>
      cases values with
      | nil => rw [across, ih, Chunk.fillWith]
      | cons v values => rw [across, ih, Chunk.fillWith, Cursor.skip_append, capture_toCursor]

/-- The spans of the trees of chunks are the texts of the chunks. -/
theorem Chunk.spans_trees {chunks : List Chunk} {index : Nat} {rs : List Regex} {m n : Reading}
    (hreadable : ∀ c ∈ chunks, c.Readable) :
    (cats (trees index chunks ++ rs)).Spans m n ↔
      ∃ values, List.Forall₂ Placeholder.Admits (Chunk.placeholders chunks) values ∧
        fillWith chunks values <+: m.rest ∧ (cats rs).Spans (m.across index chunks values) n := by
  induction chunks generalizing index m with
  | nil =>
    constructor
    · exact fun h => ⟨[], .nil, List.nil_prefix, h⟩
    · rintro ⟨values, hvalues, -, h⟩
      cases hvalues
      exact h
  | cons c rest ih =>
    have hrest := fun d hd => hreadable d (List.mem_cons_of_mem c hd)
    cases c with
    | literal text =>
      rw [trees, List.append_assoc, spans_cats_chars]
      constructor
      · rintro ⟨left, hm, hspan⟩
        obtain ⟨values, hvalues, hbegins, hspan⟩ := (ih hrest).mp hspan
        rw [rest_skip hm] at hbegins
        refine ⟨values, hvalues, ?_, hspan⟩
        rw [hm, fillWith]
        exact (List.prefix_append_right_inj _).mpr hbegins
      · rintro ⟨values, hvalues, ⟨left, hm⟩, hspan⟩
        rw [fillWith, List.append_assoc] at hm
        refine ⟨_, hm.symm, (ih hrest).mpr ⟨values, hvalues, ?_, hspan⟩⟩
        rw [rest_skip hm.symm]
        exact List.prefix_append ..
    | placeholder p =>
      have hp := hreadable _ (List.mem_cons_self ..)
      have hfree := p.groupFree_tree hp
      have hassertion := (p.parse?_source hp).2.2
      rw [trees, List.cons_append, spans_cats_cons]
      constructor
      · rintro ⟨mid, hgroup, hspan⟩
        obtain ⟨w, hm, rfl, hwhole⟩ := (spans_group hassertion hfree).mp hgroup
        obtain ⟨values, hvalues, hbegins, hspan⟩ := (ih hrest).mp hspan
        refine ⟨w :: values, .cons ((p.matchesWhole_tree hp).mp hwhole) hvalues, ?_, hspan⟩
        rw [hm, fillWith]
        exact (List.prefix_append_right_inj _).mpr hbegins
      · rintro ⟨_, hvalues, ⟨left, hm⟩, hspan⟩
        obtain ⟨w, values, hw, hothers, rfl⟩ := List.forall₂_cons_left_iff.mp hvalues
        rw [fillWith, List.append_assoc] at hm
        have hnext : (m.capture index w).rest = fillWith rest values ++ left :=
          rest_skip (m := m) hm.symm
        refine ⟨m.capture index w, (spans_group hassertion hfree).mpr ?_,
          (ih hrest).mpr ⟨values, hothers, ?_, hspan⟩⟩
        · exact ⟨w, by rw [hnext]; exact hm.symm, rfl, (p.matchesWhole_tree hp).mpr hw⟩
        · rw [hnext]
          exact List.prefix_append ..

/-- The spans of the tree of a template to the end of a text are the readings of the text by its
grammar. -/
theorem Template.spans_tree {chunks : List Chunk} {m n : Reading}
    (hreadable : ∀ c ∈ chunks, c.Readable) :
    (tree chunks).Spans m n ∧ n.rest = [] ↔
      ∃ values remainder, Parses chunks m.rest values remainder ∧
        n = (m.across 1 (Chunk.trim chunks) values).finish
          ((Chunk.placeholders chunks).length + 1) := by
  have hover : ∀ {values remainder}, m.rest = Chunk.stem chunks values ++ remainder →
      (m.across 1 (Chunk.trim chunks) values).rest = remainder := by
    intro values remainder hm
    rw [Reading.across_toCursor, ← Chunk.stem_eq]
    exact rest_skip hm
  rw [tree, Chunk.spans_trees (Chunk.readable_trim hreadable), Chunk.placeholders_trim]
  constructor
  · rintro ⟨⟨values, hvalues, ⟨remainder, hm⟩, hspan⟩, hend⟩
    rw [← Chunk.stem_eq] at hm
    obtain ⟨hremainder, hn⟩ := spans_remainderTree.mp ⟨hspan, hend⟩
    rw [hover hm.symm] at hremainder
    exact ⟨values, remainder, ⟨hvalues, hm.symm, hremainder⟩, hn⟩
  · rintro ⟨values, remainder, ⟨hvalues, hm, hremainder⟩, hn⟩
    rw [← hover hm] at hremainder
    obtain ⟨hspan, hend⟩ := spans_remainderTree.mpr ⟨hremainder, hn⟩
    refine ⟨⟨values, hvalues, ?_, hspan⟩, hend⟩
    rw [hm, Chunk.stem_eq]
    exact List.prefix_append ..

end Parley
