import Parley.Proofs.Template.Compile

/-!
# Templates written back

Where no placeholder has a value, a template is filled with its placeholders in their written form.
The result is cut at its braces as the template was, so it has the same chunks. Only the blanks in
its braces may be fewer.

## Main definitions

- `Chunk.segment` — the segment that a chunk is written as
- `Chunk.written` — the written form of chunks

## Main results

- `Chunk.splits_written` — the written form is cut into the segments of the chunks
- `Chunk.ofText_written` — the written form has the same chunks
- `Template.compile_written` — the written form is compiled to the same template
- `Template.unresolved_is_equivalent` — a template that is filled with nothing is written back
-/

namespace Parley

-- ════════════════════════════════════════════════════════════════════════
-- The written form of chunks
-- ════════════════════════════════════════════════════════════════════════

namespace Chunk

/-- The segment that a chunk is written as. -/
def segment : Chunk → Segment
  | literal text => .plain text.toList
  | placeholder p => .braced p.inner

/-- The written form of chunks. -/
def written (chunks : List Chunk) : String :=
  String.ofList ((chunks.map segment).flatMap Segment.source)

theorem written_cons (c : Chunk) (chunks : List Chunk) :
    written (c :: chunks) = String.ofList c.segment.source ++ written chunks := by
  rw [written, List.map_cons, List.flatMap_cons, String.ofList_append]
  rfl

theorem source_literal (text : String) :
    String.ofList (segment (.literal text)).source = text :=
  String.ofList_toList

theorem source_placeholder (p : Placeholder) :
    String.ofList (segment (.placeholder p)).source = p.text := by
  rw [segment, ← p.toList_text, String.ofList_toList]

section Reads

variable {pattern : String} {segments : List Segment} {tail : Option (List Char)}
  {chunks : List Chunk}

/-- A chunk is read from the segment that it is written as. -/
theorem Reads.segment {s : Segment} {c : Chunk} (h : Reads pattern s c) (pattern' : String) :
    Reads pattern' c.segment c := by
  cases h with
  | literal text =>
    rw [Chunk.segment, String.toList_ofList]
    exact .literal text
  | placeholder h => exact .placeholder (h.written pattern')

theorem Reads.wellFormed_segment {s : Segment} {c : Chunk} (h : Reads pattern s c)
    (hs : s.WellFormed) : c.segment.WellFormed := by
  cases h with
  | literal text => rwa [Chunk.segment, String.toList_ofList]
  | placeholder h => exact h.balanced_inner hs

theorem isPlain_segment (c : Chunk) : c.segment.isPlain = c.isLiteral := by
  cases c <;> rfl

/-- The written form is cut where the text was cut. -/
theorem splits_written (h : Segment.Splits pattern.toList segments tail)
    (hreads : List.Forall₂ (Reads pattern) segments chunks) :
    Segment.Splits (written chunks).toList (chunks.map segment) none where
  wellFormed := by
    intro s hs
    obtain ⟨c, hc, rfl⟩ := List.mem_map.mp hs
    obtain ⟨s', hs', hread⟩ := exists_reads_of_mem hreads hc
    exact hread.wellFormed_segment (h.wellFormed s' hs')
  apart := by
    rw [List.isChain_map]
    simp only [isPlain_segment]
    exact isChain_of_forall₂ hreads h.apart
  unclosed := nofun
  text := by rw [written, String.toList_ofList, Segment.unclosedSource, List.append_nil]

/-- The written form of the chunks of a text has the same chunks. -/
theorem ofText_written (h : ofText pattern = .ok chunks) :
    ofText (written chunks) = .ok chunks := by
  obtain ⟨segments, tail, hsplits⟩ := Segment.exists_splits pattern.toList
  obtain ⟨-, hchunks⟩ := (ofText_eq_ok_iff hsplits).mp h
  have hreads := ofSegments_eq_ok_iff.mp hchunks
  refine (ofText_eq_ok_iff (splits_written hsplits hreads)).mpr ⟨rfl, ?_⟩
  rw [ofSegments_eq_ok_iff, List.forall₂_map_left_iff, List.forall₂_same]
  intro c hc
  obtain ⟨s, -, hread⟩ := exists_reads_of_mem hreads hc
  exact hread.segment _

end Reads

end Chunk

-- ════════════════════════════════════════════════════════════════════════
-- Templates without values
-- ════════════════════════════════════════════════════════════════════════

namespace Template

theorem fill_none (encode : List String) (chunks : List Chunk) :
    fill (fun _ => none) encode true chunks = .ok (Chunk.written chunks) := by
  induction chunks with
  | nil => rfl
  | cons c rest ih =>
    rw [Chunk.written_cons]
    cases c with
    | literal text =>
      rw [fill, ih, Chunk.source_literal]
      rfl
    | placeholder p =>
      rw [fill, ih, Chunk.source_placeholder]
      rfl

theorem fillPositional_nil (chunks : List Chunk) :
    fillPositional chunks [] = .ok (Chunk.written chunks) := by
  induction chunks with
  | nil => rfl
  | cons c rest ih =>
    rw [Chunk.written_cons]
    cases c with
    | literal text =>
      rw [fillPositional, ih, Chunk.source_literal]
      rfl
    | placeholder p =>
      rw [fillPositional, ih, Chunk.source_placeholder]
      rfl

/-- The written form of a template is compiled to the same template. -/
theorem compile_written {pattern : String} {t : Template} (h : compile pattern = .ok t) :
    compile (Chunk.written t.chunks) = .ok { t with raw := Chunk.written t.chunks } := by
  obtain ⟨htext, hregex⟩ := of_compile h
  rw [compile, Chunk.ofText_written htext]
  simp only [bind, Except.bind, hregex]
  rfl

/-- A template that is filled with nothing is written back as a template that says the same, and
that one is written back as it is. -/
theorem unresolved_is_equivalent {pattern : String} {t : Template} (h : compile pattern = .ok t) :
    ∃ q t', t.substitute (fun _ => none) [] true = .ok q ∧ t.substitutePositional [] = .ok q ∧
      compile q = .ok t' ∧
      (t'.body = t.body ∧ t'.variableNames = t.variableNames ∧
        t'.customVariables = t.customVariables ∧ t'.literals = t.literals) ∧
      (∀ input, t'.isMatch input = t.isMatch input) ∧
      (∀ input, t'.matchInput input = t.matchInput input) ∧
      t'.substitute (fun _ => none) [] true = .ok q ∧ t'.substitutePositional [] = .ok q :=
  ⟨Chunk.written t.chunks, { t with raw := Chunk.written t.chunks }, fill_none [] t.chunks,
    fillPositional_nil t.chunks, compile_written h, ⟨rfl, rfl, rfl, rfl⟩, fun _ => rfl,
    fun _ => rfl, fill_none [] t.chunks, fillPositional_nil t.chunks⟩

/-- The blanks around a name and around a constraint are lost, those within the constraint are
not. -/
theorem spaced_template_is_tidied :
    ∃ t t', compile "\x7b v : a b\x7b2\x7d \x7d-\x7bw\x7d" = .ok t ∧
      t.substitute (fun _ => none) [] true = .ok "\x7bv:a b\x7b2\x7d\x7d-\x7bw\x7d" ∧
      compile "\x7bv:a b\x7b2\x7d\x7d-\x7bw\x7d" = .ok t' ∧ t'.body = t.body ∧
      ∀ input, t'.matchInput input = t.matchInput input := by
  have hout : (compile "\x7b v : a b\x7b2\x7d \x7d-\x7bw\x7d").map
      (fun t => t.substitute (fun _ => none) [] true) =
        .ok (.ok "\x7bv:a b\x7b2\x7d\x7d-\x7bw\x7d") := by decide +kernel
  obtain ⟨t, hcompile, ht⟩ := Except.exists_ok_of_bind hout
  have ht : t.substitute (fun _ => none) [] true = .ok _ := Except.ok.inj ht
  obtain ⟨q, t', hq, -, hcompile', ⟨hbody, -⟩, -, hmatch, -⟩ := unresolved_is_equivalent hcompile
  rw [ht] at hq
  cases hq
  exact ⟨t, t', hcompile, ht, hcompile', hbody, hmatch⟩

end Template

end Parley
