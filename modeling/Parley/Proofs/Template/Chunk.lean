import Parley.Proofs.Journal
import Parley.Proofs.Template.Placeholder

/-!
# The chunks of a text

The chunks of a text are read from its segments, one from each and in order. The reading fails at
the first text in braces that denotes no placeholder, and if there is none, at an outermost brace
that is never closed.

## Main definitions

- `Chunk.Reads` — the chunk that stands for a segment
- `Segment.Readable` — whether there is one
- `Chunk.FirstInvalid` — the first segment that has none, with the error

## Main results

- `Chunk.ofSegments_eq_ok_iff`, `Chunk.ofSegments_eq_error_iff` — the chunks of segments
- `Chunk.ofText_eq_ok_iff`, `Chunk.ofText_eq_error_iff` — the chunks of a text that is cut
- `Chunk.literal_of_ofText` — a literal of a template is not empty and opens no brace
- `Chunk.anchored_of_ofText` — the regex of a constraint is its pattern for a whole text
- `Chunk.segments_are_read_in_order` — what the chunks of a text are, and why there are none
-/

namespace Parley

/-- The segment is text outside of braces, or its text is that of a placeholder. -/
def Segment.Readable : Segment → Prop
  | plain _ => True
  | braced inner => Placeholder.Valid inner

namespace Chunk

-- ════════════════════════════════════════════════════════════════════════
-- The chunks of segments
-- ════════════════════════════════════════════════════════════════════════

/-- The chunk that stands for a segment. -/
inductive Reads (pattern : String) : Segment → Chunk → Prop
  /-- Text outside of braces stands for itself. -/
  | literal (text : List Char) : Reads pattern (.plain text) (.literal (String.ofList text))
  /-- Text in braces stands for the placeholder that it denotes. -/
  | placeholder {inner : List Char} {p : Placeholder}
      (h : Placeholder.Denotes pattern inner (.ok p)) :
      Reads pattern (.braced inner) (.placeholder p)

/-- All segments before one in braces have chunks, but that one denotes no placeholder. -/
def FirstInvalid (pattern : String) (segments : List Segment) (e : PatternError) : Prop :=
  ∃ before inner after, segments = before ++ .braced inner :: after ∧
    (∀ s ∈ before, s.Readable) ∧ Placeholder.Denotes pattern inner (.error e)

/-- Whether a chunk is literal text. -/
def isLiteral : Chunk → Bool
  | literal _ => true
  | placeholder _ => false

section OfSegments

variable {pattern : String} {s : Segment} {segments : List Segment} {chunks : List Chunk}
  {e : PatternError}

theorem ofSegment_eq_ok_iff {c : Chunk} : ofSegment pattern s = .ok c ↔ Reads pattern s c := by
  constructor
  · intro h
    cases s with
    | plain text =>
      cases h
      exact .literal text
    | braced inner =>
      obtain ⟨p, hp, h⟩ := Except.exists_ok_of_bind h
      cases h
      exact .placeholder (Placeholder.denotes_iff.mpr hp)
  · intro h
    cases h with
    | literal text => rfl
    | placeholder h =>
      rw [ofSegment, Placeholder.denotes_iff.mp h]
      rfl

theorem ofSegment_eq_error_iff : ofSegment pattern s = .error e ↔
    ∃ inner, s = .braced inner ∧ Placeholder.Denotes pattern inner (.error e) := by
  constructor
  · intro h
    cases s with
    | plain text => cases h
    | braced inner =>
      refine ⟨inner, rfl, Placeholder.denotes_iff.mpr ?_⟩
      rw [ofSegment] at h
      cases hp : Placeholder.ofBraced pattern inner with
      | ok p =>
        rw [hp] at h
        cases h
      | error e' =>
        rw [hp] at h
        cases h
        rfl
  · rintro ⟨inner, rfl, h⟩
    rw [ofSegment, Placeholder.denotes_iff.mp h]
    rfl

theorem readable_iff (pattern : String) :
    s.Readable ↔ ∃ c, ofSegment pattern s = .ok c := by
  cases s with
  | plain text => exact iff_of_true trivial ⟨_, rfl⟩
  | braced inner =>
    rw [Segment.Readable, Placeholder.valid_iff pattern]
    constructor
    · rintro ⟨p, hp⟩
      exact ⟨_, ofSegment_eq_ok_iff.mpr (.placeholder hp)⟩
    · rintro ⟨c, hc⟩
      cases ofSegment_eq_ok_iff.mp hc with
      | placeholder hp => exact ⟨_, hp⟩

theorem ofSegments_eq_mapM (pattern : String) (segments : List Segment) :
    ofSegments pattern segments = segments.mapM (ofSegment pattern) := by
  induction segments with
  | nil => rfl
  | cons s rest ih => rw [ofSegments, List.mapM_cons, ih]

theorem ofSegments_eq_ok_iff :
    ofSegments pattern segments = .ok chunks ↔ List.Forall₂ (Reads pattern) segments chunks := by
  rw [ofSegments_eq_mapM, Except.mapM_eq_ok_iff]
  simp only [ofSegment_eq_ok_iff]

theorem ofSegments_eq_error_iff :
    ofSegments pattern segments = .error e ↔ FirstInvalid pattern segments e := by
  rw [ofSegments_eq_mapM, Except.mapM_eq_error_iff]
  constructor
  · rintro ⟨before, s, after, rfl, hbefore, hs⟩
    obtain ⟨inner, rfl, h⟩ := ofSegment_eq_error_iff.mp hs
    exact ⟨before, inner, after, rfl, fun x hx => (readable_iff pattern).mpr (hbefore x hx), h⟩
  · rintro ⟨before, inner, after, rfl, hbefore, h⟩
    exact ⟨before, _, after, rfl, fun x hx => (readable_iff pattern).mp (hbefore x hx),
      ofSegment_eq_error_iff.mpr ⟨inner, rfl, h⟩⟩

theorem exists_ofSegments_iff (pattern : String) (segments : List Segment) :
    (∃ chunks, ofSegments pattern segments = .ok chunks) ↔ ∀ s ∈ segments, s.Readable := by
  rw [ofSegments_eq_mapM, Except.exists_mapM_eq_ok_iff]
  simp only [readable_iff pattern]

theorem exists_reads_of_mem (h : List.Forall₂ (Reads pattern) segments chunks) {c : Chunk}
    (hc : c ∈ chunks) : ∃ s ∈ segments, Reads pattern s c := by
  induction h with
  | nil => cases hc
  | cons hs _ ih =>
    rcases List.mem_cons.mp hc with rfl | hc
    · exact ⟨_, .head _, hs⟩
    · obtain ⟨s, hmem, hread⟩ := ih hc
      exact ⟨s, .tail _ hmem, hread⟩

theorem Reads.isLiteral_eq {c : Chunk} (h : Reads pattern s c) : c.isLiteral = s.isPlain := by
  cases h <;> rfl

/-- Where text outside of braces is not cut, no literal follows another. -/
theorem isChain_of_forall₂ (h : List.Forall₂ (Reads pattern) segments chunks)
    (hapart : segments.IsChain fun x y => x.isPlain → ¬y.isPlain) :
    chunks.IsChain fun x y => x.isLiteral → ¬y.isLiteral := by
  induction h with
  | nil => exact .nil
  | cons hs h ih =>
    obtain ⟨hfirst, hrest⟩ := List.isChain_cons.mp hapart
    refine List.isChain_cons.mpr ⟨fun y hy => ?_, ih hrest⟩
    cases h with
    | nil => cases hy
    | cons hs' h =>
      cases hy
      rw [hs.isLiteral_eq, hs'.isLiteral_eq]
      exact hfirst _ rfl

end OfSegments

-- ════════════════════════════════════════════════════════════════════════
-- The chunks of a text
-- ════════════════════════════════════════════════════════════════════════

/-- The length that is counted is the length of the string. -/
theorem byteLength_eq (s : List Char) : byteLength s = (String.ofList s).utf8ByteSize := by
  have hfold : ∀ n, s.foldl (fun n c => n + c.utf8Size) n = n + (String.ofList s).utf8ByteSize := by
    induction s with
    | nil => intro n; simp
    | cons c s ih =>
      intro n
      rw [List.foldl_cons, ih, ← List.singleton_append, String.ofList_append,
        String.utf8ByteSize_append]
      simp [Nat.add_assoc]
  rw [byteLength, hfold, Nat.zero_add]

section OfText

variable {pattern : String} {segments : List Segment} {tail : Option (List Char)}
  {chunks : List Chunk} {e : PatternError}

/-- The text before a brace that is never closed. -/
theorem byteLength_sub {t : List Char} (h : Segment.Splits pattern.toList segments (some t)) :
    byteLength pattern.toList - byteLength t - 1 =
      (String.ofList (segments.flatMap Segment.source)).utf8ByteSize := by
  have hsplit : String.ofList pattern.toList =
      String.ofList (segments.flatMap Segment.source) ++ ("\x7b" ++ String.ofList t) := by
    rw [h.text, String.ofList_append, Segment.unclosedSource, ← List.singleton_append,
      String.ofList_append]
  rw [byteLength_eq, byteLength_eq, hsplit, String.utf8ByteSize_append,
    String.utf8ByteSize_append]
  have hbrace : "\x7b".utf8ByteSize = 1 := rfl
  omega

theorem ofText_of_splits (h : Segment.Splits pattern.toList segments tail) :
    ofText pattern = ofSegments pattern segments >>= fun chunks =>
      match tail with
      | none => .ok chunks
      | some _ => .error (.unterminated pattern
          (String.ofList (segments.flatMap Segment.source)).utf8ByteSize) := by
  rw [ofText, Segment.splits_iff.mp h]
  cases tail with
  | none => rfl
  | some t => rw [← byteLength_sub h]

/-- A text has chunks if no brace of it stays open and all its segments have. -/
theorem ofText_eq_ok_iff (h : Segment.Splits pattern.toList segments tail) :
    ofText pattern = .ok chunks ↔ tail = none ∧ ofSegments pattern segments = .ok chunks := by
  rw [ofText_of_splits h]
  cases ofSegments pattern segments with
  | error e => exact iff_of_false nofun nofun
  | ok cs =>
    cases tail with
    | none => exact ⟨fun hcs => ⟨rfl, hcs⟩, And.right⟩
    | some t => exact iff_of_false nofun nofun

/-- A brace that stays open is reported only if all segments have chunks. -/
theorem ofText_eq_error_iff (h : Segment.Splits pattern.toList segments tail) :
    ofText pattern = .error e ↔ ofSegments pattern segments = .error e ∨
      (∃ chunks, ofSegments pattern segments = .ok chunks) ∧ tail ≠ none ∧
        e = .unterminated pattern
          (String.ofList (segments.flatMap Segment.source)).utf8ByteSize := by
  rw [ofText_of_splits h]
  cases ofSegments pattern segments with
  | error e' =>
    constructor
    · exact .inl
    · rintro (h | ⟨⟨_, ⟨⟩⟩, -⟩)
      exact h
  | ok cs =>
    cases tail with
    | none => exact iff_of_false nofun (by simp)
    | some t =>
      constructor
      · rintro ⟨⟩
        exact .inr ⟨⟨cs, rfl⟩, nofun, rfl⟩
      · rintro (⟨⟨⟩⟩ | ⟨-, -, rfl⟩)
        rfl

/-- A chunk of a text is read from a segment. -/
theorem exists_reads_of_ofText (h : ofText pattern = .ok chunks) {c : Chunk} (hc : c ∈ chunks) :
    ∃ s, s.WellFormed ∧ Reads pattern s c := by
  obtain ⟨segments, tail, hsplits⟩ := Segment.exists_splits pattern.toList
  have hreads := ofSegments_eq_ok_iff.mp ((ofText_eq_ok_iff hsplits).mp h).2
  obtain ⟨s, hs, hread⟩ := exists_reads_of_mem hreads hc
  exact ⟨s, hsplits.wellFormed s hs, hread⟩

/-- A literal of a template is not empty and opens no brace. -/
theorem literal_of_ofText (h : ofText pattern = .ok chunks) {text : String}
    (htext : .literal text ∈ chunks) : text.toList ≠ [] ∧ '{' ∉ text.toList := by
  obtain ⟨s, hs, hread⟩ := exists_reads_of_ofText h htext
  cases hread with
  | literal text =>
    rw [String.toList_ofList]
    exact hs

theorem anchored_of_ofText (h : ofText pattern = .ok chunks) {p : Placeholder}
    (hp : .placeholder p ∈ chunks) {c : Constraint} (hc : p.constraint = some c) :
    anchored? c.source.toList = some c.regex := by
  obtain ⟨s, -, hread⟩ := exists_reads_of_ofText h hp
  cases hread with
  | placeholder hdenotes => exact hdenotes.anchored hc

end OfText

/-- There is one way to cut a text at its outermost braces. If no brace stays open and every text
in braces is that of a placeholder, the chunks stand for the segments one by one, and no two
literals are next to each other. Otherwise the first text in braces that is not that of a
placeholder gives the error; if there is none, the brace that stays open gives it, with its place
in UTF-8. -/
theorem segments_are_read_in_order (pattern : String) :
    ∃ segments tail, Segment.Splits pattern.toList segments tail ∧
      (∀ segments' tail', Segment.Splits pattern.toList segments' tail' →
        segments' = segments ∧ tail' = tail) ∧
      ((∃ chunks, ofText pattern = .ok chunks) ↔ tail = none ∧ ∀ s ∈ segments, s.Readable) ∧
      (∀ chunks, ofText pattern = .ok chunks →
        List.Forall₂ (Reads pattern) segments chunks ∧
          (chunks.IsChain fun x y => x.isLiteral → ¬y.isLiteral) ∧
          segments.flatMap Segment.source = pattern.toList) ∧
      ∀ e, ofText pattern = .error e ↔ FirstInvalid pattern segments e ∨
        (∀ s ∈ segments, s.Readable) ∧ tail ≠ none ∧
          e = .unterminated pattern
            (String.ofList (segments.flatMap Segment.source)).utf8ByteSize := by
  obtain ⟨segments, tail, h⟩ := Segment.exists_splits pattern.toList
  refine ⟨segments, tail, h, fun segments' tail' h' => ?_, ?_, fun chunks hchunks => ?_,
    fun e => ?_⟩
  · have heq := (Segment.splits_iff.mp h').symm.trans (Segment.splits_iff.mp h)
    exact Prod.mk.inj heq
  · simp only [ofText_eq_ok_iff h, exists_and_left, exists_ofSegments_iff]
  · obtain ⟨rfl, hchunks⟩ := (ofText_eq_ok_iff h).mp hchunks
    have hreads := ofSegments_eq_ok_iff.mp hchunks
    refine ⟨hreads, isChain_of_forall₂ hreads h.apart, ?_⟩
    rw [h.text, Segment.unclosedSource, List.append_nil]
  · rw [ofText_eq_error_iff h, ofSegments_eq_error_iff, exists_ofSegments_iff]

/-- The place of a brace that stays open is counted in bytes, and a brace that closes nothing is
text. -/
example : ofText "é\x7d\x7bx\x7d\x7by" = .error (.unterminated "é\x7d\x7bx\x7d\x7by" 6) := by
  decide +kernel

end Chunk

end Parley
