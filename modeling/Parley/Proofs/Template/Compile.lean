import Parley.Proofs.Reader.Group
import Parley.Proofs.Template.Chunk
import Parley.Proofs.Template.Tree

/-!
# Compiled templates

A template is compiled by pasting its chunks and the remainder together to one pattern. The reader
of patterns gets through the literals and the remainder in it.

## Main results

- `Reader.passes_literal`, `Reader.passes_remainder` — literals and the remainder are read as trees
- `Chunk.not_mem_of_mem_trim` — a literal opens no brace, also where it has lost its final slash
- `Template.of_compile` — a compiled template has the chunks of its text, and a regex
-/

namespace Parley

open Regex

namespace Reader

variable {p : Reader}

/-- A character without a meaning is read as itself. -/
theorem readConstruct_char {c : Char} (hc : c ∉ meaningful) (hbrace : c ≠ '{')
    (hescaped : isEscaped c = false) (s : List Char) :
    readConstruct {} c s = some (.piece (.char c) 0, s) := by
  have hne : c ∉ ['\\', '?', '|', '[', ']', '^', '{', '.', '*', '+', '$', '(', ')'] := by
    simp [meaningful, isEscaped] at hc hescaped ⊢
    tauto
  unfold readConstruct
  split
  case h_11 => rfl
  all_goals exact absurd (by decide) hne

/-- A character of a literal is read as itself. -/
theorem passes_char {c : Char} {t : List Char} (hflags : p.flags = {}) (hc : c ∉ meaningful)
    (hbrace : c ≠ '{') (hrest : p.rest = escapeLiteral [c] ++ t) :
    p.Passes (p.push (.tree (.char c) 0) t) [.tree (.char c) 0] 0 t := by
  cases hescaped : isEscaped c with
  | true =>
    have htext : p.rest = '\\' :: c :: t := by
      rw [hrest]
      simp [escapeLiteral, hescaped]
    refine .push hflags htext ?_
    rw [step_eq p (by decide) (by decide), hflags]
    simp only [isEscaped, Bool.or_eq_true, beq_iff_eq] at hescaped
    obtain ((((rfl | rfl) | rfl) | rfl) | rfl) | rfl := hescaped <;> rfl
  | false =>
    have htext : p.rest = c :: t := by
      rw [hrest]
      simp [escapeLiteral, hescaped]
    refine .push hflags htext ?_
    have hopen : c ≠ '(' := by
      rintro rfl
      cases hescaped
    have hclose : c ≠ ')' := by
      rintro rfl
      cases hescaped
    rw [step_eq p hopen hclose, hflags, readConstruct_char hc hbrace hescaped]
    rfl

/-- A literal is read as its characters. -/
theorem passes_literal {text t : List Char} (hflags : p.flags = {})
    (htext : ∀ c ∈ text, c ∉ meaningful) (hbrace : '{' ∉ text)
    (hrest : p.rest = escapeLiteral text ++ t) :
    ∃ q, p.Passes q (text.map fun c => .tree (.char c) 0) 0 t := by
  induction text generalizing p with
  | nil =>
    obtain rfl : p.rest = t := hrest
    exact ⟨p, .refl p⟩
  | cons c cs ih =>
    obtain ⟨hc, hcs⟩ := List.ne_and_not_mem_of_not_mem_cons hbrace
    have hchar := passes_char (t := escapeLiteral cs ++ t) hflags (htext c (.head _)) hc.symm (by
      rw [hrest, ← List.append_assoc]
      simp [escapeLiteral])
    obtain ⟨q, hq⟩ := ih (hchar.flags.trans hflags) (fun d hd => htext d (.tail _ hd)) hcs
      hchar.rest
    exact ⟨q, hchar.trans hq⟩

/-- The remainder is read as its tree. -/
theorem passes_remainder {fuel : Nat} {final : Reader} {t : List Char}
    (hrun : run fuel p = some final) (hfinal : final.groups = []) (hflags : p.flags = {})
    (hrest : p.rest = "(/.*)?".toList ++ ')' :: t) :
    ∃ q depth, p.Passes q [.tree (remainderTree (p.captures + 1)) depth] 1 (')' :: t) := by
  have hparse : parse? "/.*".toList = some lineTree := by decide +kernel
  have hparen : '(' ∉ "/.*".toList := by decide
  obtain ⟨q, depth, hgroup⟩ := reads_parenthesis (s := "/.*".toList) (t := '?' :: ')' :: t)
    hrun hfinal hflags hrest hparse (.inr hparen)
  have hq := hgroup.flags.trans hflags
  have hcaptures := hgroup.captures
  rw [captureCount_eq_zero hparen] at hcaptures
  let i := Item.tree (remainderTree (p.captures + 1)) (depth + 1)
  have hstep : q.step '?' (')' :: t) =
      some (q.within ⟨p.inner.done, i :: p.inner.items⟩ (')' :: t)) := by
    rw [step_eq q (by decide) (by decide), hq, hgroup.inner]
    rfl
  have hmark : Reads q (q.within _ (')' :: t)) := .of_step hq hgroup.rest hstep
  exact ⟨_, _, hgroup.reads.trans hmark, hgroup.flags, rfl, hgroup.groups, hcaptures, rfl⟩

end Reader

/-- A literal of a template opens no brace where it has lost its final slash. -/
theorem Chunk.not_mem_of_mem_trim {pattern : String} {chunks : List Chunk}
    (h : ofText pattern = .ok chunks) {text : String} (htext : .literal text ∈ trim chunks) :
    '{' ∉ text.toList := by
  obtain hmem | ⟨text', hmem, heq⟩ := mem_of_mem_trim htext
  · exact (literal_of_ofText h hmem).2
  · cases heq
    rw [String.toList_ofList]
    exact fun hbrace => (literal_of_ofText h hmem).2 (mem_of_mem_dropFinalSlash hbrace)

/-- A compiled template is read from its text, and its regex from the pattern of its chunks. -/
theorem Template.of_compile {pattern : String} {t : Template} (h : compile pattern = .ok t) :
    Chunk.ofText pattern = .ok t.chunks ∧ anchored? (Chunk.body t.chunks) = some t.regex := by
  obtain ⟨chunks, htext, h⟩ := Except.exists_ok_of_bind h
  split at h
  · next hregex =>
    cases h
    exact ⟨htext, hregex⟩
  · cases h

end Parley
