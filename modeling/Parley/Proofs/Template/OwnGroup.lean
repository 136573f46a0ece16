import Mathlib.Data.List.Forall2
import Mathlib.Data.List.Nodup
import Mathlib.Data.List.Perm.Subperm
import Parley.Proofs.Reader.Opening
import Parley.Proofs.Template.Compile

/-!
# The groups of the placeholders

Every placeholder puts one parenthesis into the pattern of its template, and the group that this
parenthesis opens is the placeholder's own. The groups of its constraint come after it. A literal
or a constraint that can only be read together with what follows may take the parenthesis for
something else, and then there is no such group. Where everything can be read alone, the regex of
the template is made of the trees of the chunks.

## Main definitions

- `Chunk.offsets` — where the parentheses of the placeholders are
- `Template.Owns` — the own groups of the placeholders
- `Template.OpensRemainder` — the group that is opened by the parenthesis of the remainder
- `Chunk.Sound` — a chunk that can be read alone
- `Chunk.ownGroups`, `Chunk.ownTrees` — the numbers and the trees of the own groups, counted from
  the constraints

## Main results

- `Template.Owns.pairwise` — the own groups are numbered as the placeholders are ordered
- `Template.Owns.eq_range'` — they are the first ones if the remainder has the last
- `Chunk.passes_of_sound` — the reader of patterns gets through sound chunks
- `Template.own_of_sound` — the placeholders have own groups if all chunks are sound
- `Template.opensRemainder_of_sound` — and the remainder has the group after them
- `Template.regex_eq` — a template of readable chunks has the tree of its chunks
-/

namespace Parley

open Regex

-- ════════════════════════════════════════════════════════════════════════
-- Own groups
-- ════════════════════════════════════════════════════════════════════════

/-- The offsets of the parentheses that placeholders put into the pattern of chunks. -/
def Chunk.offsets : Nat → List Chunk → List Nat
  | _, [] => []
  | n, .literal text :: rest => offsets (n + (escapeLiteral text.toList).length) rest
  | n, .placeholder p :: rest => n :: offsets (n + p.group.length) rest

@[simp]
theorem Chunk.length_offsets (n : Nat) (chunks : List Chunk) :
    (offsets n chunks).length = (placeholders chunks).length := by
  induction chunks generalizing n with
  | nil => rfl
  | cons c rest ih =>
    cases c with
    | literal text => exact ih _
    | placeholder p => exact congrArg Nat.succ (ih _)

theorem Chunk.le_of_mem_offsets {n k : Nat} {chunks : List Chunk} (h : k ∈ offsets n chunks) :
    n ≤ k := by
  induction chunks generalizing n with
  | nil => cases h
  | cons c rest ih =>
    cases c with
    | literal text => exact (Nat.le_add_right _ _).trans (ih h)
    | placeholder p =>
      rcases List.mem_cons.mp h with rfl | h
      · exact Nat.le_refl _
      · exact (Nat.le_add_right _ _).trans (ih h)

/-- Later placeholders have their parentheses later. -/
theorem Chunk.pairwise_offsets (n : Nat) (chunks : List Chunk) :
    (offsets n chunks).Pairwise (· < ·) := by
  induction chunks generalizing n with
  | nil => exact .nil
  | cons c rest ih =>
    cases c with
    | literal text => exact ih _
    | placeholder p =>
      refine .cons (fun k hk => ?_) (ih _)
      have hgroup : 0 < p.group.length := by
        rw [Placeholder.group_eq]
        exact Nat.succ_pos _
      have := le_of_mem_offsets hk
      omega

/-- The parentheses of placeholders stand in their pattern, and they do not end it. -/
theorem Chunk.lt_of_mem_offsets {n k : Nat} {chunks : List Chunk} (h : k ∈ offsets n chunks) :
    k + 1 < n + (chunks.flatMap pattern).length := by
  induction chunks generalizing n with
  | nil => cases h
  | cons c rest ih =>
    rw [List.flatMap_cons, List.length_append]
    cases c with
    | literal text =>
      have := ih h
      rw [pattern]
      omega
    | placeholder p =>
      rw [pattern]
      rcases List.mem_cons.mp h with rfl | h
      · have hgroup : p.group.length = p.source.length + 2 := by
          rw [Placeholder.group_eq]
          simp
        omega
      · have := ih h
        omega

theorem length_dropFinalSlash (s : List Char) : s.length ≤ (dropFinalSlash s).length + 1 := by
  unfold dropFinalSlash
  split
  · next rest heq =>
    rw [← List.length_reverse, heq, List.length_cons, List.length_reverse]
  · exact Nat.le_succ _

-- ════════════════════════════════════════════════════════════════════════
-- Sound chunks
-- ════════════════════════════════════════════════════════════════════════

/-- The pattern of the chunk can be read alone: a literal stands for itself, and a constraint is a
pattern on its own. -/
def Chunk.Sound : Chunk → Prop
  | .literal text => ∀ c ∈ text.toList, c ∉ meaningful
  | .placeholder p => ∀ c, p.constraint = some c → (Regex.parse? c.source.toList).isSome

/-- The own groups of placeholders from the group `index` on: the groups of a constraint come
after that of its placeholder. -/
def Chunk.ownGroups : (index : Nat) → List Chunk → List Nat
  | _, [] => []
  | index, .literal _ :: rest => ownGroups index rest
  | index, .placeholder p :: rest =>
    index :: ownGroups (index + Reader.captureCount p.source + 1) rest

/-- The number of groups that chunks put into the pattern. -/
def Chunk.groupCount : List Chunk → Nat
  | [] => 0
  | .literal _ :: rest => groupCount rest
  | .placeholder p :: rest => Reader.captureCount p.source + 1 + groupCount rest

/-- The trees of sound chunks: placeholders are their own groups, and the groups of a constraint are
numbered after that of its placeholder. -/
def Chunk.ownTrees : (index : Nat) → List Chunk → List Regex
  | _, [] => []
  | index, .literal text :: rest => text.toList.map char ++ ownTrees index rest
  | index, .placeholder p :: rest =>
    group index (p.tree.shift index) :: ownTrees (index + Reader.captureCount p.source + 1) rest

theorem Placeholder.parse?_of_sound {p : Placeholder} (h : Chunk.Sound (.placeholder p)) :
    parse? p.source = some p.tree := by
  obtain ⟨r, hr⟩ : ∃ r, parse? p.source = some r := by
    unfold source
    cases hc : p.constraint with
    | none => exact ⟨_, parse?_segment⟩
    | some c => exact Option.isSome_iff_exists.mp (h c hc)
  rw [tree, hr, Option.getD_some]

-- ════════════════════════════════════════════════════════════════════════
-- Reading the chunks
-- ════════════════════════════════════════════════════════════════════════

section Reads

variable {fuel offset : Nat} {text t : List Char} {p final : Reader}

/-- A sound placeholder is read as its own group. Its constraint may set verbose mode if it has a
parenthesis, and then the text must be on one line. -/
theorem Placeholder.passes_of_sound {v : Placeholder} (hv : Chunk.Sound (.placeholder v))
    (hrun : Reader.run fuel { rest := text } = some final) (hfinal : final.groups = [])
    (hline : '\n' ∉ text ∨ '(' ∉ v.source) (hreads : Reader.Reads { rest := text } p)
    (hflags : p.flags = {}) (hrest : p.rest = v.group ++ t) (hdrop : text.drop offset = p.rest) :
    Reader.Opens text offset (p.captures + 1) ∧
      ∃ q depth, p.Passes q [.tree (.group (p.captures + 1) (v.tree.shift (p.captures + 1))) depth]
        (Reader.captureCount v.source + 1) t := by
  have hparse := v.parse?_of_sound hv
  have hparen : p.rest = '(' :: v.source ++ ')' :: t := by
    rw [hrest, group_eq]
    simp
  constructor
  · have hskip : p.flags.skip p.rest = '(' :: (v.source ++ ')' :: t) := by
      rw [hflags, Flags.skip_default, hparen, List.cons_append]
    exact ⟨p, _, _, hreads, hskip, hdrop.trans hparen,
      Reader.startGroup_of_parse? hflags hparse _, rfl⟩
  · have hsuffix : t <:+ text := by
      have hgroup := List.suffix_append v.group t
      rw [← hrest, ← hdrop] at hgroup
      exact hgroup.trans (List.drop_suffix offset text)
    have hlines : '\n' ∉ t ∨ '(' ∉ v.source :=
      hline.imp_left fun hline hmem => hline (hsuffix.subset hmem)
    obtain ⟨fuel', hrun'⟩ := Reader.run_of_reads hrun hreads
    exact Reader.reads_parenthesis hrun' hfinal hflags hparen hparse hlines

/-- Sound chunks are read as their trees, and their parentheses open the own groups. -/
theorem Chunk.passes_of_sound {chunks : List Chunk}
    (hrun : Reader.run fuel { rest := text } = some final) (hfinal : final.groups = [])
    (hline : '\n' ∉ text ∨ ∀ p ∈ placeholders chunks, '(' ∉ p.source)
    (hsound : ∀ c ∈ chunks, c.Sound) (hbrace : ∀ s, .literal s ∈ chunks → '{' ∉ s.toList)
    (hreads : Reader.Reads { rest := text } p) (hflags : p.flags = {})
    (hrest : p.rest = chunks.flatMap pattern ++ t) (hdrop : text.drop offset = p.rest) :
    List.Forall₂ (Reader.Opens text) (offsets offset chunks) (ownGroups (p.captures + 1) chunks) ∧
      ∃ q items, p.Passes q items (groupCount chunks) t ∧
        items.map Item.regex = ownTrees (p.captures + 1) chunks := by
  induction chunks generalizing p offset with
  | nil =>
    obtain rfl : p.rest = t := hrest
    exact ⟨.nil, p, [], .refl p, rfl⟩
  | cons c rest ih =>
    have hc := hsound c (.head _)
    have hsounds := fun d hd => hsound d (List.mem_cons_of_mem c hd)
    have hbraces := fun s hs => hbrace s (List.mem_cons_of_mem c hs)
    rw [List.flatMap_cons, List.append_assoc] at hrest
    have hnext : text.drop (offset + c.pattern.length) = rest.flatMap pattern ++ t := by
      rw [← List.drop_drop, hdrop, hrest, List.drop_left]
    cases c with
    | literal s =>
      obtain ⟨q, hliteral⟩ := Reader.passes_literal hflags hc (hbrace s (.head _)) hrest
      obtain ⟨hopens, q', items, hitems, htrees⟩ := ih hline hsounds hbraces
        (hreads.trans hliteral.reads) (hliteral.flags.trans hflags) hliteral.rest
        (hnext.trans hliteral.rest.symm)
      have hall := hliteral.trans hitems
      rw [Nat.zero_add] at hall
      have hcaptures : q.captures = p.captures := hliteral.captures
      rw [hcaptures] at hopens htrees
      refine ⟨hopens, q', _, hall, ?_⟩
      rw [List.map_append, htrees, List.map_map]
      rfl
    | placeholder v =>
      rw [placeholders_placeholder, List.forall_mem_cons] at hline
      obtain ⟨hopen, q, depth, hgroup⟩ := v.passes_of_sound hc hrun hfinal
        (hline.imp_right And.left) hreads hflags hrest hdrop
      obtain ⟨hopens, q', items, hitems, htrees⟩ := ih (hline.imp_right And.right) hsounds hbraces
        (hreads.trans hgroup.reads) (hgroup.flags.trans hflags) hgroup.rest
        (hnext.trans hgroup.rest.symm)
      have hindex : q.captures + 1 = p.captures + 1 + Reader.captureCount v.source + 1 := by
        rw [hgroup.captures]
        omega
      rw [hindex] at hopens htrees
      exact ⟨.cons hopen hopens, q', _, hgroup.trans hitems, congrArg (_ :: ·) htrees⟩

end Reads

-- ════════════════════════════════════════════════════════════════════════
-- The final slash
-- ════════════════════════════════════════════════════════════════════════

@[simp]
theorem Chunk.offsets_trim (n : Nat) (chunks : List Chunk) :
    offsets n (trim chunks) = offsets n chunks := by
  induction chunks using lastInduction generalizing n with
  | nil => rfl
  | literal text => simp only [trim, offsets]
  | placeholder p => rfl
  | cons c rest hne ih =>
    rw [trim_cons hne]
    cases c with
    | literal text => exact ih _
    | placeholder p => exact congrArg (n :: ·) (ih _)

@[simp]
theorem Chunk.ownGroups_trim (index : Nat) (chunks : List Chunk) :
    ownGroups index (trim chunks) = ownGroups index chunks := by
  induction chunks using lastInduction generalizing index with
  | nil => rfl
  | literal text => rfl
  | placeholder p => rfl
  | cons c rest hne ih =>
    rw [trim_cons hne]
    cases c with
    | literal text => exact ih _
    | placeholder p => exact congrArg (index :: ·) (ih _)

@[simp]
theorem Chunk.groupCount_trim (chunks : List Chunk) :
    groupCount (trim chunks) = groupCount chunks := by
  induction chunks using lastInduction with
  | nil => rfl
  | literal text => rfl
  | placeholder p => rfl
  | cons c rest hne ih =>
    rw [trim_cons hne]
    cases c with
    | literal text => exact ih
    | placeholder p => exact congrArg (Reader.captureCount p.source + 1 + ·) ih

theorem Chunk.sound_trim {chunks : List Chunk} (h : ∀ c ∈ chunks, c.Sound) :
    ∀ c ∈ trim chunks, c.Sound :=
  forall_mem_trim (fun _ => .rfl) h

-- ════════════════════════════════════════════════════════════════════════
-- Constraints without groups
-- ════════════════════════════════════════════════════════════════════════

/-- Where no constraint has a group, the own groups are the first ones. -/
theorem Chunk.ownGroups_eq {chunks : List Chunk}
    (hnone : ∀ p ∈ placeholders chunks, Reader.captureCount p.source = 0) (index : Nat) :
    ownGroups index chunks = List.range' index (placeholders chunks).length ∧
      groupCount chunks = (placeholders chunks).length := by
  induction chunks generalizing index with
  | nil => exact ⟨rfl, rfl⟩
  | cons c rest ih =>
    cases c with
    | literal text => exact ih hnone index
    | placeholder p =>
      have hp := hnone p (.head _)
      obtain ⟨hown, hcount⟩ := ih (fun q hq => hnone q (.tail _ hq)) (index + 1)
      rw [ownGroups, groupCount, hp, placeholders_placeholder, List.length_cons,
        List.range'_succ, hcount, ← hown]
      exact ⟨rfl, by omega⟩

/-- The trees of placeholders without groups are numbered as the placeholders are. -/
theorem Chunk.ownTrees_eq {chunks : List Chunk}
    (hnone : ∀ p ∈ placeholders chunks, Reader.captureCount p.source = 0 ∧ p.tree.groupFree)
    (index : Nat) : ownTrees index chunks = trees index chunks := by
  induction chunks generalizing index with
  | nil => rfl
  | cons c rest ih =>
    cases c with
    | literal text => exact congrArg (text.toList.map char ++ ·) (ih hnone index)
    | placeholder p =>
      obtain ⟨hcount, hfree⟩ := hnone p (.head _)
      rw [ownTrees, trees, hcount, shift_of_groupFree index hfree,
        ih fun q hq => hnone q (.tail _ hq)]

theorem Chunk.sound_of_readable {c : Chunk} (h : c.Readable) : c.Sound := by
  cases c with
  | literal text => exact h
  | placeholder p =>
    intro c hc
    obtain ⟨-, r, hparse, -⟩ := h c hc
    rw [hparse]
    rfl

-- ════════════════════════════════════════════════════════════════════════
-- The groups of a template
-- ════════════════════════════════════════════════════════════════════════

namespace Template

/-- The own groups of the placeholders, in order: those that their parentheses open in the pattern
of the template. -/
def Owns (t : Template) (own : List Nat) : Prop :=
  List.Forall₂ (Reader.Opens (['^', '(', '?', ':'] ++ Chunk.body t.chunks ++ [')', '$']))
    (Chunk.offsets 4 t.chunks) own

variable {t : Template} {own : List Nat}

theorem Owns.length_eq (h : t.Owns own) : own.length = t.placeholders.length := by
  rw [← List.Forall₂.length_eq h, Chunk.length_offsets, placeholders]

/-- The parenthesis of the remainder opens the group `g` in the pattern of the template. -/
def OpensRemainder (t : Template) (g : Nat) : Prop :=
  Reader.Opens (['^', '(', '?', ':'] ++ Chunk.body t.chunks ++ [')', '$'])
    (4 + (dropFinalSlash (t.chunks.flatMap Chunk.pattern)).length) g

section Sound

variable {pattern : String} (h : compile pattern = .ok t)
  (hline : '\n' ∉ Chunk.body t.chunks ∨ ∀ p ∈ t.placeholders, '(' ∉ p.source)
  (hsound : ∀ c ∈ t.chunks, c.Sound)
include h hline hsound

/-- In a template with sound chunks that is on one line, or of which no constraint has a
parenthesis, the reader gets through the chunks, and the remainder is left. -/
theorem passes_chunks_of_sound : ∃ q items,
    t.Owns (Chunk.ownGroups 1 t.chunks) ∧
      (Reader.opened (Chunk.body t.chunks ++ [')', '$'])).Passes q items
        (Chunk.groupCount t.chunks) ("(/.*)?".toList ++ [')', '$']) ∧
      items.map Item.regex = Chunk.ownTrees 1 (Chunk.trim t.chunks) := by
  obtain ⟨htext, hregex⟩ := of_compile h
  obtain ⟨final, hrun, hfinal, -⟩ := Regex.reads_of_parse? hregex
  have hbody : Chunk.body t.chunks ++ [')', '$'] = (Chunk.trim t.chunks).flatMap Chunk.pattern ++
      ("(/.*)?".toList ++ [')', '$']) := by
    rw [Chunk.body, Chunk.pattern_trim fun text ht => (Chunk.literal_of_ofText htext ht).1,
      List.append_assoc]
  have hreads : Reader.Reads { rest := ['^', '(', '?', ':'] ++ Chunk.body t.chunks ++ [')', '$'] }
      (Reader.opened (Chunk.body t.chunks ++ [')', '$'])) := by
    rw [List.append_assoc]
    exact Reader.reads_opened _
  have hline : '\n' ∉ ['^', '(', '?', ':'] ++ Chunk.body t.chunks ++ [')', '$'] ∨
      ∀ p ∈ Chunk.placeholders (Chunk.trim t.chunks), '(' ∉ p.source := by
    rw [Chunk.placeholders_trim]
    exact hline.imp_left fun hline => by simpa using hline
  have hdrop : (['^', '(', '?', ':'] ++ Chunk.body t.chunks ++ [')', '$']).drop 4 =
      Chunk.body t.chunks ++ [')', '$'] := rfl
  obtain ⟨hopens, q, items, hchunks, htrees⟩ := Chunk.passes_of_sound hrun hfinal hline
    (Chunk.sound_trim hsound) (fun text ht => Chunk.not_mem_of_mem_trim htext ht) hreads rfl hbody
    hdrop
  rw [Chunk.offsets_trim, Chunk.ownGroups_trim] at hopens
  rw [Chunk.groupCount_trim] at hchunks
  exact ⟨q, items, hopens, hchunks, htrees⟩

/-- In such a template the placeholders have own groups. The groups of the constraints are numbered
after them, and the remainder is in the last group. -/
theorem own_of_sound :
    t.Owns (Chunk.ownGroups 1 t.chunks) ∧
      t.regex = (cats (Chunk.ownTrees 1 (Chunk.trim t.chunks) ++
        [remainderTree (Chunk.groupCount t.chunks + 1)])).between := by
  obtain ⟨q, items, hopens, hchunks, htrees⟩ := passes_chunks_of_sound h hline hsound
  refine ⟨hopens, ?_⟩
  obtain ⟨-, hregex⟩ := of_compile h
  obtain ⟨final, hrun, hfinal, -⟩ := Regex.reads_of_parse? hregex
  have hreads := (Reader.reads_opened (Chunk.body t.chunks ++ [')', '$'])).trans hchunks.reads
  obtain ⟨fuel, hrun'⟩ := Reader.run_of_reads (by rwa [List.append_assoc] at hrun) hreads
  obtain ⟨q', depth, hremainder⟩ :=
    Reader.passes_remainder hrun' hfinal hchunks.flags hchunks.rest
  have hindex : q.captures = Chunk.groupCount t.chunks := by
    rw [hchunks.captures]
    exact Nat.zero_add _
  rw [(hchunks.trans hremainder).eq_between hregex, List.map_append, htrees, List.map_singleton,
    Item.regex, hindex]

/-- In such a template the parenthesis of the remainder opens the last group. -/
theorem opensRemainder_of_sound : t.OpensRemainder (Chunk.groupCount t.chunks + 1) := by
  obtain ⟨q, items, -, hchunks, -⟩ := passes_chunks_of_sound h hline hsound
  have hparse : parse? "/.*".toList = some lineTree := by decide +kernel
  have hrest : q.rest = '(' :: "/.*".toList ++ ')' :: '?' :: [')', '$'] := hchunks.rest
  have hcaptures : q.captures = Chunk.groupCount t.chunks := by
    rw [hchunks.captures]
    exact Nat.zero_add _
  have hreads : Reader.Reads { rest := ['^', '(', '?', ':'] ++ Chunk.body t.chunks ++ [')', '$'] }
      q := by
    rw [List.append_assoc]
    exact (Reader.reads_opened _).trans hchunks.reads
  have hskip : q.flags.skip q.rest = '(' :: ("/.*".toList ++ ')' :: '?' :: [')', '$']) := by
    rw [show q.flags = {} from hchunks.flags, Flags.skip_default, hrest, List.cons_append]
  have hdrop : (['^', '(', '?', ':'] ++ Chunk.body t.chunks ++ [')', '$']).drop
      (4 + (dropFinalSlash (t.chunks.flatMap Chunk.pattern)).length) = q.rest := by
    rw [Chunk.body, ← List.drop_drop, hchunks.rest]
    simp
  have hstep := Reader.startGroup_of_parse? hchunks.flags hparse ('?' :: [')', '$'])
  rw [hcaptures] at hstep
  exact ⟨q, _, _, hreads, hskip, hdrop.trans hrest, hstep, rfl⟩

end Sound

/-- The regex of a template of readable chunks has the tree of its chunks. -/
theorem regex_eq {pattern : String} (h : compile pattern = .ok t)
    (hreadable : ∀ c ∈ t.chunks, c.Readable) : t.regex = (tree t.chunks).between := by
  have hplaceholder : ∀ p ∈ t.placeholders, Chunk.Readable (.placeholder p) := fun p hp =>
    hreadable _ (Chunk.mem_placeholders.mp hp)
  have hparen : ∀ p ∈ t.placeholders, '(' ∉ p.source := fun p hp =>
    (p.parse?_source (hplaceholder p hp)).1
  have hnone : ∀ p ∈ t.placeholders, Reader.captureCount p.source = 0 := fun p hp =>
    Reader.captureCount_eq_zero (hparen p hp)
  have htrees : Chunk.ownTrees 1 (Chunk.trim t.chunks) = Chunk.trees 1 (Chunk.trim t.chunks) := by
    refine Chunk.ownTrees_eq (fun p hp => ?_) 1
    rw [Chunk.placeholders_trim] at hp
    exact ⟨hnone p hp, p.groupFree_tree (hplaceholder p hp)⟩
  obtain ⟨-, hregex⟩ := own_of_sound h (.inr hparen) fun c hc =>
    Chunk.sound_of_readable (hreadable c hc)
  rw [hregex, htrees, (Chunk.ownGroups_eq hnone 1).2, tree]

/-- The own groups are numbered as the placeholders are ordered. -/
theorem Owns.pairwise (h : t.Owns own) : own.Pairwise (· < ·) := by
  have hlength := List.Forall₂.length_eq h
  refine List.pairwise_iff_getElem.mpr fun i j hi hj hij => ?_
  have hoffsets := List.pairwise_iff_getElem.mp (Chunk.pairwise_offsets 4 t.chunks) i j
    (hlength ▸ hi) (hlength ▸ hj) hij
  exact (List.Forall₂.get h (hlength ▸ hi) hi).lt (List.Forall₂.get h (hlength ▸ hj) hj) hoffsets

/-- An own group is counted from one, and it comes before the group of the remainder. -/
theorem Owns.bounds (h : t.Owns own) {last g : Nat} (hlast : t.OpensRemainder last)
    (hg : g ∈ own) : 0 < g ∧ g < last := by
  obtain ⟨i, hi, rfl⟩ := List.getElem_of_mem hg
  have hlength := List.Forall₂.length_eq h
  have hopens := List.Forall₂.get h (hlength ▸ hi) hi
  constructor
  · obtain ⟨p, q, s, -, -, -, hstep, hgroups⟩ := hopens
    rw [List.get_eq_getElem] at hgroups
    rw [(Reader.captures_of_opens hstep hgroups).1]
    exact Nat.succ_pos _
  · refine hopens.lt hlast ?_
    have hoffset := Chunk.lt_of_mem_offsets (List.get_mem (Chunk.offsets 4 t.chunks)
      ⟨i, hlength ▸ hi⟩)
    have := length_dropFinalSlash (t.chunks.flatMap Chunk.pattern)
    omega

/-- If the remainder has the last of as many groups as there can be, the own groups are those
before it. -/
theorem Owns.eq_range' (h : t.Owns own) (hlast : t.OpensRemainder (t.placeholders.length + 1)) :
    own = List.range' 1 t.placeholders.length := by
  have hordered := h.pairwise
  have hrange : (List.range' 1 t.placeholders.length).Pairwise (· < ·) := List.pairwise_lt_range' ..
  have hsubset : own ⊆ List.range' 1 t.placeholders.length := fun g hg => by
    obtain ⟨hpos, hlt⟩ := h.bounds hlast hg
    exact List.mem_range'_1.mpr ⟨hpos, by omega⟩
  have hperm : own.Perm (List.range' 1 t.placeholders.length) :=
    (List.subperm_of_subset (hordered.imp Nat.ne_of_lt) hsubset).perm_of_length_le (by
      rw [List.length_range', h.length_eq])
  exact List.Perm.eq_of_pairwise (fun a b _ _ hab hba => absurd hab (Nat.lt_asymm hba)) hordered
    hrange hperm

end Template

end Parley
