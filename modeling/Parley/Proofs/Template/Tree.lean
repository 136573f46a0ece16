import Parley.Proofs.Reader.Construct
import Parley.Template.Basic

/-!
# The tree of a template

Where no literal has a character with a meaning in patterns, and every constraint is a pattern on
its own that has no parenthesis, each chunk of a template has a tree of its own. The tree of the
template is made of them, and of the remainder. A final slash is not part of it: the chunks are
trimmed before.

## Main definitions

- `Chunk.Readable` — a chunk of which the pattern has a tree of its own
- `Placeholder.tree`, `Chunk.trees` — the trees of the chunks, placeholders as numbered groups
- `Chunk.trim` — the chunks without a final slash
- `Template.tree` — the tree of all chunks, with the remainder

## Main results

- `Placeholder.parse?_source` — a readable placeholder has the tree of its pattern
- `Chunk.lastInduction` — induction up to the last chunk, which may lose its slash
- `Chunk.pattern_trim` — the pattern of the trimmed chunks
-/

namespace Parley

open Regex

-- ════════════════════════════════════════════════════════════════════════
-- Trees of chunks
-- ════════════════════════════════════════════════════════════════════════

/-- The characters that keep their meaning in the pattern of a literal. -/
def meaningful : List Char :=
  ['\\', '?', '|', '[', ']', '^']

/-- The pattern of a placeholder, without its parentheses. -/
def Placeholder.source (p : Placeholder) : List Char :=
  match p.constraint with
  | some c => c.source.toList
  | none => "[^/]+?".toList

/-- The tree of a placeholder, without its group. -/
def Placeholder.tree (p : Placeholder) : Regex :=
  (parse? p.source).getD .empty

/-- The tree of what a placeholder without a constraint stands for. -/
def segmentTree : Regex :=
  .rep false 1 none (.chars (.compl (.single '/')))

/-- The tree of a slash with the rest of a line. -/
def lineTree : Regex :=
  .cat (.char '/') (.rep true 0 none (.chars (.compl (.single '\n'))))

/-- The tree of the remainder, which is in the last group. -/
def remainderTree (index : Nat) : Regex :=
  .rep true 0 (some 1) (.group index lineTree)

namespace Chunk

/-- The pattern of the chunk has a tree of its own: a literal stands for itself, and a constraint
is a pattern on its own, without a parenthesis and without an assertion. -/
def Readable : Chunk → Prop
  | .literal text => ∀ c ∈ text.toList, c ∉ meaningful
  | .placeholder p => ∀ c, p.constraint = some c → '(' ∉ c.source.toList ∧
      ∃ r, parse? c.source.toList = some r ∧ r.assertionFree

/-- The trees of the chunks in order; the first placeholder is in the group `index`. -/
def trees : (index : Nat) → List Chunk → List Regex
  | _, [] => []
  | index, .literal text :: rest => text.toList.map .char ++ trees index rest
  | index, .placeholder p :: rest => .group index p.tree :: trees (index + 1) rest

/-- The chunks without a final slash. -/
def trim : List Chunk → List Chunk
  | [] => []
  | [.literal text] => [.literal (String.ofList (dropFinalSlash text.toList))]
  | [.placeholder p] => [.placeholder p]
  | c :: rest => c :: trim rest

end Chunk

theorem Chunk.trim_cons {rest : List Chunk} (h : rest ≠ []) (c : Chunk) :
    trim (c :: rest) = c :: trim rest := by
  cases rest with
  | nil => exact absurd rfl h
  | cons d rest => cases c <;> rfl

/-- Induction along the chunks up to the last one, which may lose its slash. -/
@[elab_as_elim]
theorem Chunk.lastInduction {motive : List Chunk → Prop} (chunks : List Chunk) (nil : motive [])
    (literal : ∀ text, motive [.literal text]) (placeholder : ∀ p, motive [.placeholder p])
    (cons : ∀ c rest, rest ≠ [] → motive rest → motive (c :: rest)) : motive chunks := by
  induction chunks with
  | nil => exact nil
  | cons c rest ih =>
    by_cases hrest : rest = []
    · subst hrest
      cases c with
      | literal text => exact literal text
      | placeholder p => exact placeholder p
    · exact cons c rest hrest ih

@[simp]
theorem Chunk.placeholders_nil : Chunk.placeholders [] = [] :=
  rfl

@[simp]
theorem Chunk.placeholders_literal (text : String) (rest : List Chunk) :
    Chunk.placeholders (.literal text :: rest) = Chunk.placeholders rest :=
  rfl

@[simp]
theorem Chunk.placeholders_placeholder (p : Placeholder) (rest : List Chunk) :
    Chunk.placeholders (.placeholder p :: rest) = p :: Chunk.placeholders rest :=
  rfl

theorem Chunk.mem_placeholders {p : Placeholder} {chunks : List Chunk} :
    p ∈ Chunk.placeholders chunks ↔ .placeholder p ∈ chunks := by
  constructor
  · intro hp
    obtain ⟨c, hc, heq⟩ := List.mem_filterMap.mp hp
    cases c with
    | literal text => cases heq
    | placeholder q =>
      cases heq
      exact hc
  · exact fun hp => List.mem_filterMap.mpr ⟨_, hp, rfl⟩

/-- The tree of chunks with the remainder. -/
def Template.tree (chunks : List Chunk) : Regex :=
  .cats (Chunk.trees 1 (Chunk.trim chunks) ++
    [remainderTree ((Chunk.placeholders chunks).length + 1)])

theorem Placeholder.group_eq (p : Placeholder) : p.group = '(' :: p.source ++ [')'] := by
  unfold group source
  cases p.constraint <;> rfl

theorem parse?_segment : parse? "[^/]+?".toList = some segmentTree := by
  decide +kernel

/-- A placeholder of a readable chunk has a pattern with a tree. -/
theorem Placeholder.parse?_source {p : Placeholder} (h : Chunk.Readable (.placeholder p)) :
    '(' ∉ p.source ∧ parse? p.source = some p.tree ∧ p.tree.assertionFree := by
  unfold tree source
  cases hc : p.constraint with
  | none =>
    refine ⟨by decide, ?_, ?_⟩
    · simp only [parse?_segment, Option.getD_some]
    · simp only [parse?_segment, Option.getD_some]
      rfl
  | some c =>
    obtain ⟨hparen, r, hparse, hfree⟩ := h c hc
    refine ⟨hparen, ?_, ?_⟩
    · simp only [hparse, Option.getD_some]
    · simpa only [hparse, Option.getD_some] using hfree

/-- The tree of a readable placeholder has no group. -/
theorem Placeholder.groupFree_tree {p : Placeholder} (h : Chunk.Readable (.placeholder p)) :
    p.tree.groupFree := by
  obtain ⟨hparen, hparse, -⟩ := p.parse?_source h
  exact Reader.groupFree_of_parse? hparse hparen

theorem Placeholder.tree_of_unconstrained {p : Placeholder} (h : p.constraint = none) :
    p.tree = segmentTree := by
  rw [tree, source, h]
  simp only [parse?_segment, Option.getD_some]

-- ════════════════════════════════════════════════════════════════════════
-- The final slash
-- ════════════════════════════════════════════════════════════════════════

theorem dropFinalSlash_concat (s : List Char) (c : Char) :
    dropFinalSlash (s ++ [c]) = if c = '/' then s else s ++ [c] := by
  unfold dropFinalSlash
  rw [List.reverse_append]
  by_cases hc : c = '/'
  · subst hc
    simp
  · rw [if_neg hc]
    split
    · next heq => exact absurd (List.cons.inj heq).1 hc
    · rfl

/-- A final slash is dropped. -/
theorem dropFinalSlash_of_getLast? {s : List Char} (h : s.getLast? = some '/') :
    s = dropFinalSlash s ++ ['/'] := by
  obtain ⟨init, rfl⟩ := List.getLast?_eq_some_iff.mp h
  rw [dropFinalSlash_concat, if_pos rfl]

/-- Where there is no final slash, nothing is dropped. -/
theorem dropFinalSlash_of_ne {s : List Char} (h : s.getLast? ≠ some '/') :
    dropFinalSlash s = s := by
  obtain rfl | ⟨init, c, rfl⟩ := List.eq_nil_or_concat s
  · rfl
  · rw [List.concat_eq_append, List.getLast?_concat] at h
    rw [List.concat_eq_append, dropFinalSlash_concat, if_neg fun hc => h (by rw [hc])]

theorem dropFinalSlash_append (s : List Char) {t : List Char} (ht : t ≠ []) :
    dropFinalSlash (s ++ t) = s ++ dropFinalSlash t := by
  obtain ⟨init, c, rfl⟩ := (List.eq_nil_or_concat t).resolve_left ht
  rw [List.concat_eq_append, ← List.append_assoc, dropFinalSlash_concat, dropFinalSlash_concat]
  split <;> simp

/-- The final slash of a literal is the final slash of its pattern. -/
theorem dropFinalSlash_escapeLiteral (s : List Char) :
    dropFinalSlash (escapeLiteral s) = escapeLiteral (dropFinalSlash s) := by
  obtain rfl | ⟨init, c, rfl⟩ := List.eq_nil_or_concat s
  · rfl
  · have hescape : ∀ t, escapeLiteral (init ++ t) = escapeLiteral init ++ escapeLiteral t :=
      fun t => List.flatMap_append
    rw [List.concat_eq_append, dropFinalSlash_concat, hescape]
    cases hc : isEscaped c with
    | true =>
      have hne : c ≠ '/' := by
        rintro rfl
        cases hc
      have hpattern : escapeLiteral [c] = ['\\'] ++ [c] := by simp [escapeLiteral, hc]
      rw [if_neg hne, hescape, hpattern, ← List.append_assoc, dropFinalSlash_concat, if_neg hne]
    | false =>
      have hpattern : escapeLiteral [c] = [c] := by simp [escapeLiteral, hc]
      rw [hpattern, dropFinalSlash_concat]
      split
      · rfl
      · rw [hescape, hpattern]

/-- A chunk has a pattern unless it is an empty literal. -/
theorem Chunk.pattern_ne_nil {c : Chunk} (h : ∀ text, c = .literal text → text.toList ≠ []) :
    c.pattern ≠ [] := by
  cases c with
  | literal text =>
    obtain ⟨d, ds, hd⟩ := List.exists_cons_of_ne_nil (h text rfl)
    rw [pattern, hd, escapeLiteral, List.flatMap_cons]
    split <;> simp
  | placeholder p =>
    rw [pattern, Placeholder.group_eq]
    simp

/-- The pattern of the chunks without a final slash. -/
theorem Chunk.pattern_trim {chunks : List Chunk}
    (h : ∀ text, .literal text ∈ chunks → text.toList ≠ []) :
    (trim chunks).flatMap pattern = dropFinalSlash (chunks.flatMap pattern) := by
  induction chunks using lastInduction with
  | nil => rfl
  | literal text => simp [trim, pattern, dropFinalSlash_escapeLiteral]
  | placeholder p =>
    rw [trim, List.flatMap_cons, List.flatMap_nil, List.append_nil, pattern, p.group_eq,
      dropFinalSlash_concat, if_neg (by decide)]
  | cons c rest hne ih =>
    have hpattern : rest.flatMap pattern ≠ [] := by
      obtain ⟨d, ds, rfl⟩ := List.exists_cons_of_ne_nil hne
      rw [List.flatMap_cons]
      exact List.append_ne_nil_of_left_ne_nil (pattern_ne_nil fun text ht =>
        h text (.tail _ (ht ▸ .head _))) _
    rw [trim_cons hne, List.flatMap_cons, List.flatMap_cons,
      ih fun text ht => h text (.tail _ ht)]
    exact (dropFinalSlash_append _ hpattern).symm

theorem mem_of_mem_dropFinalSlash {c : Char} {s : List Char} (h : c ∈ dropFinalSlash s) :
    c ∈ s := by
  obtain rfl | ⟨init, d, rfl⟩ := List.eq_nil_or_concat s
  · exact h
  · rw [List.concat_eq_append, dropFinalSlash_concat] at h
    rw [List.concat_eq_append]
    split at h
    · exact List.mem_append_left _ h
    · exact h

namespace Chunk

/-- A chunk that remains without a final slash was there before, or it is a literal that lost its
slash. -/
theorem mem_of_mem_trim {chunks : List Chunk} {c : Chunk} (h : c ∈ trim chunks) :
    c ∈ chunks ∨ ∃ text, .literal text ∈ chunks ∧
      c = .literal (String.ofList (dropFinalSlash text.toList)) := by
  induction chunks using lastInduction with
  | nil => exact .inl h
  | literal text => exact .inr ⟨text, .head _, List.mem_singleton.mp h⟩
  | placeholder p => exact .inl h
  | cons d rest hne ih =>
    rw [trim_cons hne] at h
    rcases List.mem_cons.mp h with rfl | h
    · exact .inl (.head _)
    · obtain hmem | ⟨text, hmem, rfl⟩ := ih h
      · exact .inl (.tail _ hmem)
      · exact .inr ⟨text, .tail _ hmem, rfl⟩

@[simp]
theorem placeholders_trim (chunks : List Chunk) :
    Chunk.placeholders (trim chunks) = Chunk.placeholders chunks := by
  induction chunks using lastInduction with
  | nil => rfl
  | literal text => rfl
  | placeholder p => rfl
  | cons c rest hne ih =>
    rw [trim_cons hne]
    cases c with
    | literal text => exact ih
    | placeholder p => exact congrArg (p :: ·) ih

/-- What is true of all chunks is true of those that remain without a final slash, if it is about
each character of a literal. -/
theorem forall_mem_trim {P : Chunk → Prop} {p : Char → Prop}
    (hP : ∀ text, P (.literal text) ↔ ∀ c ∈ text.toList, p c) {chunks : List Chunk}
    (h : ∀ c ∈ chunks, P c) : ∀ c ∈ trim chunks, P c := by
  intro c hc
  obtain hmem | ⟨text, hmem, rfl⟩ := mem_of_mem_trim hc
  · exact h c hmem
  · refine (hP _).mpr fun d hd => (hP text).mp (h _ hmem) d ?_
    rw [String.toList_ofList] at hd
    exact mem_of_mem_dropFinalSlash hd

theorem readable_trim {chunks : List Chunk} (h : ∀ c ∈ chunks, c.Readable) :
    ∀ c ∈ trim chunks, c.Readable :=
  forall_mem_trim (fun _ => .rfl) h

end Chunk

end Parley
