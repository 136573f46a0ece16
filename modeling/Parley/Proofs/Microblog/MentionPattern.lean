import Parley.Proofs.Microblog.Mention
import Parley.Proofs.Regex.Preference
import Parley.Regex.Reader

/-!
# Stripping mentions by a pattern

The mentions at the start of a post are stripped by a pattern: while the text starts with an at
sign, the preferred match is cut off. The pattern leaves open whether there is an at sign, how long
the name is and where the blanks end, but in a text that starts with an at sign its preferred match
is the first mention with all blanks after it, and without a mention there is no match. So the
matches that are cut off are the mentions, one after the other.

## Main definitions

- `mentionPattern`, `mentionTree` — the pattern, and what it is read as
- `Strips` — what is left when matches are cut off

## Main results

- `Picks.greedy_upTo` — a greedy repetition with an upper bound
- `searchSlots_mentionTree`, `searchSlots_mentionTree_eq_none` — the preferred match
- `strips_iff` — the text of a post is what the pattern leaves of it
- `mentions_are_stripped` — it is what is left without the mentions
-/

namespace Parley

open Parley.Text Parley.Unicode Regex Frames

-- ════════════════════════════════════════════════════════════════════════
-- Repetitions with an upper bound
-- ════════════════════════════════════════════════════════════════════════

namespace Picks

variable {m : Reading} {k : Frames} {out : Slots} {cls : CharClass} {w rest : List Char}

/-- A greedy repetition with an upper bound stands for all characters of the class that follow, if
these are not too many. -/
theorem greedy_upTo {hi : Nat} (hrest : m.rest = w ++ rest) (hw : ∀ c ∈ w, cls.contains c)
    (hhi : w.length ≤ hi) (hstop : ∀ c ∈ rest.head?, ¬cls.contains c)
    (h : Picks (m.skip w).toCursor ⟨k, m.slots⟩ out) :
    Picks m.toCursor ⟨.tree (.rep true 0 (some hi) (.chars cls)) :: k, m.slots⟩ out := by
  induction w generalizing m hi with
  | nil =>
    rw [m.skip_nil] at h
    cases hi with
    | zero => exact only rfl h
    | succ hi =>
      refine second rfl (.of_not_spans fun slots n hspan => ?_) h
      obtain ⟨c, cs, hc, hcls, -⟩ := hspan
      have hrest : c :: cs = rest := hc.symm.trans hrest
      exact hstop c (by rw [← hrest]; rfl) hcls
  | cons c cs ih =>
    obtain ⟨hi, rfl⟩ := Nat.exists_eq_add_one_of_ne_zero (Nat.ne_of_gt (Nat.lt_of_lt_of_le
      (Nat.succ_pos cs.length) hhi))
    refine first rfl (char hrest (hw c (.head _)) ?_)
    have hleft : (m.skip [c]).rest = cs ++ rest := rest_skip (w := [c]) hrest
    refine ih hleft (fun d hd => hw d (.tail _ hd)) (Nat.le_of_succ_le_succ hhi) ?_
    rw [← m.skip_append]
    exact h

/-- The same if there must be one. -/
theorem greedy_one_upTo {hi : Nat} (hne : w ≠ []) (hrest : m.rest = w ++ rest)
    (hw : ∀ c ∈ w, cls.contains c) (hhi : w.length ≤ hi)
    (hstop : ∀ c ∈ rest.head?, ¬cls.contains c)
    (h : Picks (m.skip w).toCursor ⟨k, m.slots⟩ out) :
    Picks m.toCursor ⟨.tree (.rep true 1 (some hi) (.chars cls)) :: k, m.slots⟩ out := by
  obtain ⟨c, cs, rfl⟩ := List.exists_cons_of_ne_nil hne
  have hbound : cs.length ≤ 0 + (hi - (0 + 1)) := by
    rw [List.length_cons] at hhi
    omega
  refine only rfl (char hrest (hw c (.head _)) ?_)
  have hleft : (m.skip [c]).rest = cs ++ rest := rest_skip (w := [c]) hrest
  refine greedy_upTo hleft (fun d hd => hw d (.tail _ hd)) hbound hstop ?_
  rw [← m.skip_append]
  exact h

/-- A greedy repetition without an upper bound that must not be empty. -/
theorem greedy_one (hne : w ≠ []) (hrest : m.rest = w ++ rest) (hw : ∀ c ∈ w, cls.contains c)
    (hstop : ∀ c ∈ rest.head?, ¬cls.contains c)
    (h : Picks (m.skip w).toCursor ⟨k, m.slots⟩ out) :
    Picks m.toCursor ⟨.tree (.rep true 1 none (.chars cls)) :: k, m.slots⟩ out := by
  obtain ⟨c, cs, rfl⟩ := List.exists_cons_of_ne_nil hne
  refine only rfl (char hrest (hw c (.head _)) ?_)
  have hleft : (m.skip [c]).rest = cs ++ rest := rest_skip (w := [c]) hrest
  refine rounds_greedy hleft (fun d hd => hw d (.tail _ hd)) hstop ?_
  rw [← m.skip_append]
  exact h

end Picks

-- ════════════════════════════════════════════════════════════════════════
-- The pattern of a mention
-- ════════════════════════════════════════════════════════════════════════

/-- The pattern of a mention at the start of a text. -/
def mentionPattern : String :=
  "^@?\\w\x7b1,15\x7d\\s+"

/-- What the pattern is read as. -/
def mentionTree : Regex :=
  cats [look .textStart, rep true 0 (some 1) (char '@'), rep true 1 (some 15) (chars .word),
    rep true 1 none (chars .blank)]

/-- The pattern is read as the tree, if its automata fit into the memory that is allowed. -/
theorem parse?_mentionPattern : parse? mentionPattern.toList =
    if mentionTree.footprint ≤ footprintLimit then some mentionTree else none := by
  have hrun : (Reader.run mentionPattern.toList.length { rest := mentionPattern.toList }).map
      (fun p => (p.inner.close.1, p.groups.isEmpty && decide (p.inner.close.2 ≤ depthLimit))) =
        some (mentionTree, true) := by decide +kernel
  obtain ⟨p, hp, hclosed⟩ := Option.map_eq_some_iff.1 hrun
  obtain ⟨hclose, hrest⟩ := Prod.mk.inj hclosed
  obtain ⟨hgroups, hdepth⟩ := Bool.and_eq_true_iff.1 hrest
  rw [parse?, hp, Option.bind_eq_bind, Option.bind_some]
  simp only [hclose, hgroups, of_decide_eq_true hdepth, true_and]
  rfl

/-- Whatever the pattern matches in a text that starts with an at sign is a mention. -/
theorem exists_mention_of_spans {s pre : List Char} {n : Reading} (hs : s.head? = some '@')
    (h : mentionTree.Spans (mentionTree.startReading s pre) n) : ∃ m, IsMention m ∧ m <+: s := by
  obtain ⟨_, ⟨hstart, rfl⟩, _, ⟨_, -, hsign, hat⟩, _, ⟨_, hlo, hhi, hname⟩, _, hcount, -,
    hblanks⟩ := h
  obtain rfl := before_skip_isNone.1 hstart
  obtain ⟨sign, rfl, hrest, rfl, hsigns⟩ := times_chars.1 hat
  obtain ⟨name, rfl, hafter, rfl, hword⟩ := times_chars.1 hname
  obtain ⟨blanks, rfl, hleft, rfl, hblank⟩ := times_chars.1 hblanks
  obtain ⟨tail, htext⟩ : ∃ tail, s = sign ++ (name ++ (blanks ++ tail)) := by
    rw [hleft] at hafter
    rw [rest_skip hrest] at hafter
    exact ⟨_, hrest.trans (congrArg (sign ++ ·) hafter)⟩
  cases sign with
  | nil =>
    -- the name does not start with an at sign
    rw [htext, List.nil_append,
      List.head?_append_of_ne_nil _ (List.ne_nil_of_length_pos hlo)] at hs
    have hat := hword _ (List.mem_of_mem_head? hs)
    rw [CharClass.contains, wordTable_contains_at] at hat
    cases hat
  | cons c sign =>
    obtain rfl := CharClass.contains_single.1 (hsigns c (.head _))
    have hone : sign.length + 1 ≤ 1 := hsign 1 rfl
    obtain rfl := List.length_eq_zero_iff.1 (Nat.le_zero.1 (Nat.le_of_succ_le_succ hone))
    refine ⟨_, .intro hlo (hhi 15 rfl) hword (List.ne_nil_of_length_pos hcount) hblank, tail, ?_⟩
    simp [htext]

/-- The preferred run goes over a mention with all blanks after it. -/
theorem searchSlots_mentionTree {m rest : List Char} (hm : IsMention m) (hrest : StartsPlain rest) :
    mentionTree.searchSlots (m ++ rest) =
      some (((mentionTree.startReading (m ++ rest) []).skip m).record 1).slots := by
  obtain @⟨name, blanks, hlo, hhi, hword, hne, hblank⟩ := hm
  let start := mentionTree.startReading ('@' :: (name ++ blanks) ++ rest) []
  have hstart : start.rest = '@' :: (name ++ (blanks ++ rest)) := by
    change '@' :: (name ++ blanks) ++ rest = _
    simp
  have hsign : (start.skip ['@']).rest = name ++ (blanks ++ rest) := rest_skip (w := ['@']) hstart
  have hname : ((start.skip ['@']).skip name).rest = blanks ++ rest := rest_skip hsign
  have hskip : start.skip ('@' :: (name ++ blanks)) = ((start.skip ['@']).skip name).skip blanks := by
    rw [← start.skip_append, ← start.skip_append]
    simp
  -- each part ends where a character of the next one stands
  have hat : ∀ c ∈ (name ++ (blanks ++ rest)).head?, ¬(CharClass.single '@').contains c := by
    rw [List.head?_append_of_ne_nil _ (List.ne_nil_of_length_pos hlo)]
    intro c hc hat
    obtain rfl := CharClass.contains_single.1 hat
    have hword := hword _ (List.mem_of_mem_head? hc)
    rw [wordTable_contains_at] at hword
    cases hword
  have hblanks : ∀ c ∈ (blanks ++ rest).head?, ¬CharClass.word.contains c := by
    rw [List.head?_append_of_ne_nil _ hne]
    intro c hc
    simp [CharClass.contains, wordTable_contains_blank (hblank c (List.mem_of_mem_head? hc))]
  have hafter : ∀ c ∈ rest.head?, ¬CharClass.blank.contains c := fun c hc => by
    simp [CharClass.contains, hrest c hc]
  have hfinish : Picks (((start.skip ['@']).skip name).skip blanks).toCursor
      ⟨[.close 0], start.slots⟩ ((start.skip ('@' :: (name ++ blanks))).record 1).slots := by
    rw [hskip]
    exact .close (m := ((start.skip ['@']).skip name).skip blanks) .finish
  refine searchSlots_of_picks (r := mentionTree) ?_
  refine .cats (m := start) (by simp) (.only rfl (.cats (m := start) (by simp) ?_))
  refine .greedy_upTo (w := ['@']) hstart (by simp [CharClass.contains_single]) (by simp) hat
    (.cats (by simp) ?_)
  refine .greedy_one_upTo (List.ne_nil_of_length_pos hlo) hsign hword hhi hblanks ?_
  exact .greedy_one (m := (start.skip ['@']).skip name) hne hname hblank hafter hfinish

/-- A text that starts with an at sign but with no mention does not match. -/
theorem searchSlots_mentionTree_eq_none {s : List Char} (hs : s.head? = some '@')
    (hnone : ¬∃ m, IsMention m ∧ m <+: s) : mentionTree.searchSlots s = none := by
  rw [← Option.not_isSome_iff_eq_none]
  intro hsome
  obtain ⟨pre, -, n, -, hspan⟩ := isMatch_iff.1 hsome
  exact hnone (exists_mention_of_spans hs hspan)

-- ════════════════════════════════════════════════════════════════════════
-- Stripping by the pattern
-- ════════════════════════════════════════════════════════════════════════

/-- What is left of a text from which matches of a regex are cut off, one at a time, while it
starts with an at sign. -/
inductive Strips (r : Regex) : (text rest : List Char) → Prop
  /-- The text does not start with an at sign. -/
  | plain {s : List Char} (hs : s.head? ≠ some '@') : Strips r s s
  /-- The regex does not match. -/
  | unmatched {s : List Char} (hs : s.head? = some '@') (hnone : r.searchSlots s = none) :
    Strips r s s
  /-- The text goes on where the preferred match ends. -/
  | cut {s rest : List Char} {slots : Slots} {stop : Nat} (hs : s.head? = some '@')
      (hmatch : r.searchSlots s = some slots) (hstop : slots[1]? = some (some stop))
      (later : Strips r (s.drop stop) rest) : Strips r s rest

theorem Strips.unique {r : Regex} {s out out' : List Char} (h : Strips r s out)
    (h' : Strips r s out') : out = out' := by
  induction h with
  | plain hs =>
    cases h' with
    | plain => rfl
    | unmatched hs' => exact absurd hs' hs
    | cut hs' => exact absurd hs' hs
  | unmatched hs hnone =>
    cases h' with
    | plain hs' => exact absurd hs hs'
    | unmatched => rfl
    | cut _ hmatch => rw [hnone] at hmatch; cases hmatch
  | cut hs hmatch hstop later ih =>
    cases h' with
    | plain hs' => exact absurd hs hs'
    | unmatched _ hnone => rw [hmatch] at hnone; cases hnone
    | cut _ hmatch' hstop' later' =>
      obtain rfl := Option.some.inj (hmatch.symm.trans hmatch')
      obtain rfl := Option.some.inj (Option.some.inj (hstop.symm.trans hstop'))
      exact ih later'

/-- The matches that are cut off are the mentions. -/
theorem Opens.strips {s rest : List Char} {ms : List (List Char)} (h : Opens s ms rest) :
    Strips mentionTree s rest := by
  induction h with
  | @rest s hnone =>
    by_cases hs : s.head? = some '@'
    · exact .unmatched hs (searchSlots_mentionTree_eq_none hs hnone)
    · exact .plain hs
  | @mention m s rest ms hm hs later ih =>
    have hhead : (m ++ s).head? = some '@' := by
      cases hm
      rfl
    have hstop : (((mentionTree.startReading (m ++ s) []).skip m).record 1).slots[1]? =
        some (some m.length) := by
      change some (some (0 + m.length)) = _
      rw [Nat.zero_add]
    refine .cut hhead (searchSlots_mentionTree hm hs) hstop ?_
    rwa [List.drop_left]

/-- The text of a post is what the pattern leaves of it. -/
theorem strips_iff {text : String} {out : List Char} :
    Strips mentionTree text.toList out ↔ out = (normalizeText text).toList := by
  obtain ⟨ms, hopens⟩ := exists_opens text.toList
  rw [← toList_normalizeText] at hopens
  constructor
  · exact fun h => h.unique hopens.strips
  · rintro rfl
    exact hopens.strips

/-- A text is mentions and a rest in one way, and the text of a post is the rest. So it is the end
of what was written, has nothing left to be stripped, and does not depend on a mention before it.
It is also what is left when matches of the pattern are cut off. -/
theorem mentions_are_stripped (text : String) :
    (∃! x : List (List Char) × List Char, Opens text.toList x.1 x.2) ∧
      (∀ ms rest, Opens text.toList ms rest →
        text.toList = ms.flatten ++ rest ∧ (¬∃ m, IsMention m ∧ m <+: rest) ∧
          (normalizeText text).toList = rest) ∧
      (normalizeText text).toList <:+ text.toList ∧
      normalizeText (normalizeText text) = normalizeText text ∧
      (∀ mention rest : String, text = mention ++ rest → IsMention mention.toList →
        StartsPlain rest.toList → normalizeText text = normalizeText rest) ∧
      (∀ out, Strips mentionTree text.toList out ↔ out = (normalizeText text).toList) ∧
      parse? mentionPattern.toList =
        if mentionTree.footprint ≤ footprintLimit then some mentionTree else none := by
  obtain ⟨ms, hopens⟩ := exists_opens text.toList
  refine ⟨⟨(ms, stripMentions text.toList), hopens, fun x hx => ?_⟩, fun ms rest h => ?_, ?_, ?_,
    ?_, fun out => strips_iff, parse?_mentionPattern⟩
  · exact Prod.ext (hx.unique hopens).1 (hx.unique hopens).2
  · refine ⟨h.eq_append, h.not_prefix, ?_⟩
    rw [toList_normalizeText]
    exact opens_iff.1 ⟨ms, h⟩
  · rw [toList_normalizeText]
    exact ⟨ms.flatten, hopens.eq_append.symm⟩
  · rw [normalizeText, toList_normalizeText, stripMentions_of_not_prefix hopens.not_prefix]
    rfl
  · rintro mention rest rfl hm hrest
    rw [normalizeText, String.toList_append, stripMentions_append hm hrest]
    rfl

end Parley
