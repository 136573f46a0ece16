import Parley.Bots.Hashtags
import Parley.Proofs.Dispatch.Binding
import Parley.Proofs.Dispatch.Leading
import Parley.Proofs.Handler.Pattern
import Parley.Proofs.Template.Match

/-!
# What the hashtag bot cheers for

A text of one line is cheered for by the handler of every tag that stands in it after a `#`, once
for each and in the order of the tags. The bot does nothing for other texts, those of several lines
included.

## Main definitions

- `cheers` — the tags with their replies
- `Tagged` — a text of one line with a tag
- `tagTree`, `tagTemplate`, `tagPattern` — the compiled pattern for a tag
- `cheerer`, `cheerArgs` — the handler of a tag, and what it is called with
- `turn` — what becomes of the delivery to it

## Main results

- `isMatch_tagTree`, `tagged_of_isMatch` — as a regular expression the pattern accepts the tagged
  texts, and as a template no others
- `accepts_tagPattern_iff` — so that both readings together accept the tagged texts
- `candidates_eq` — the candidates are the handlers of the tags in the text
- `delivery_cheerer` — what becomes of the delivery to one of them
- `tags_are_cheered` — what comes of a text
-/

namespace Parley.Hashtags

open Regex

variable {γ : Type}

-- ════════════════════════════════════════════════════════════════════════
-- Tags
-- ════════════════════════════════════════════════════════════════════════

/-- The tags of the bot, in order, with their replies. -/
def cheers : List (String × String) :=
  [("async", "#async all the way down"), ("rust", "#rust is awesome"),
    ("tokio", "#tokio is where the cool runtimes showcase")]

/-- The text is within a line, and the tag stands in it after a `#`. -/
def Tagged (tag text : String) : Prop :=
  '\n' ∉ text.toList ∧ '#' :: tag.toList <:+: text.toList

instance (tag text : String) : Decidable (Tagged tag text) :=
  inferInstanceAs (Decidable (_ ∧ _))

-- ════════════════════════════════════════════════════════════════════════
-- The pattern for a tag
-- ════════════════════════════════════════════════════════════════════════

/-- The text of the pattern for a tag. -/
def tagSource (tag : String) : String :=
  ".*#" ++ tag ++ ".*"

/-- The tree of a tag with the line around it. -/
def tagTree (tag : String) : Regex :=
  let line := rep true 0 none (chars (.compl (.single '\n')))
  cats (line :: (('#' :: tag.toList).map char ++ [line]))

/-- The template of the pattern for a tag, which takes the text of the pattern literally. -/
def tagTemplate (tag : String) : Template :=
  ⟨tagSource tag, [.literal (tagSource tag)], (Template.tree [.literal (tagSource tag)]).between⟩

/-- The pattern for a tag. -/
def tagPattern (tag : String) : FacetPattern :=
  ⟨tagSource tag, some (tagTree tag).between, some (tagTemplate tag)⟩

theorem compile_tagPattern : ∀ c ∈ cheers,
    FacetPattern.compile (tagSource c.1) = .ok (tagPattern c.1) := by
  decide +kernel

theorem compile_tagTemplate : ∀ c ∈ cheers,
    Template.compile (tagSource c.1) = .ok (tagTemplate c.1) := by
  decide +kernel

/-- A tag with the line around it matches the texts of one line that contain it. -/
theorem isMatch_tagTree {tag : String} (htag : '\n' ∉ '#' :: tag.toList) (text : String) :
    (tagTree tag).between.isMatch text.toList ↔ Tagged tag text := by
  have hwithin (before after : List Char) :
      '\n' ∉ before ++ ('#' :: tag.toList ++ after) ↔ '\n' ∉ before ∧ '\n' ∉ after := by
    rw [List.mem_append, List.mem_append, not_or, not_or, and_iff_right htag]
  rw [isMatch_between]
  constructor
  · rintro ⟨n, hspan, hend⟩
    obtain ⟨_, hline, hspan⟩ := spans_cats_cons.mp hspan
    obtain ⟨before, hbefore, rfl, hnewline⟩ := spans_line.mp hline
    obtain ⟨rest, hrest, hspan⟩ := spans_cats_chars.mp hspan
    obtain ⟨after, hafter, -, hnewline'⟩ := spans_line.mp hspan
    rw [rest_skip hrest, hend, List.append_nil] at hafter
    subst hafter
    rw [hrest] at hbefore
    have htext : text.toList = before ++ ('#' :: tag.toList ++ rest) := hbefore
    rw [Tagged, htext]
    exact ⟨(hwithin before rest).mpr ⟨hnewline, hnewline'⟩, List.infix_append' _ _ _⟩
  · rintro ⟨hnewline, before, after, htext⟩
    rw [List.append_assoc] at htext
    rw [← htext] at hnewline ⊢
    obtain ⟨hnewline, hnewline'⟩ := (hwithin before after).mp hnewline
    let start := (tagTree tag).startReading (before ++ ('#' :: tag.toList ++ after)) []
    have hbefore : (start.skip before).rest = '#' :: tag.toList ++ after := rest_skip rfl
    have hafter : ((start.skip before).skip ('#' :: tag.toList)).rest = after :=
      rest_skip hbefore
    have hend : (((start.skip before).skip ('#' :: tag.toList)).skip after).rest = [] :=
      rest_skip (by rw [hafter, List.append_nil])
    refine ⟨_, spans_cats_cons.mpr ⟨start.skip before, ?_, ?_⟩, hend⟩
    · exact spans_line.mpr ⟨before, by rw [hbefore]; rfl, rfl, hnewline⟩
    · refine spans_cats_chars.mpr ⟨after, hbefore, spans_line.mpr ⟨after, ?_, rfl, hnewline'⟩⟩
      rw [hend, hafter, List.append_nil]

/-- A text that the template matches is the text of the pattern with a remainder, which contains
the tag. -/
theorem tagged_of_isMatch {c : String × String} (hc : c ∈ cheers) {text : String}
    (hmatch : (tagTemplate c.1).isMatch text) : Tagged c.1 text := by
  have hsource : ∀ c ∈ cheers, Tagged c.1 (tagSource c.1) ∧
      ((tagSource c.1).toList.all fun x => decide (x ∉ meaningful)) ∧
      (tagSource c.1).toList.getLast? ≠ some '/' := by
    decide +kernel
  obtain ⟨⟨hnewline, htag⟩, hplain, hslash⟩ := hsource c hc
  have hplain : ∀ x ∈ (tagSource c.1).toList, x ∉ meaningful :=
    fun x hx => of_decide_eq_true (List.all_eq_true.mp hplain x hx)
  obtain ⟨rest, htext, hrest⟩ :=
    (Template.isMatch_iff_of_literal (compile_tagTemplate c hc) rfl hplain hslash text).mp hmatch
  rw [Tagged, htext]
  refine ⟨?_, htag.trans (List.prefix_append _ _).isInfix⟩
  rw [List.mem_append, not_or]
  refine ⟨hnewline, ?_⟩
  obtain rfl | ⟨line, rfl, hline⟩ := hrest
  · exact List.not_mem_nil
  · simp [hline]

/-- The pattern for a tag accepts the texts of one line that contain the tag. -/
theorem accepts_tagPattern_iff {c : String × String} (hc : c ∈ cheers) (text : String) :
    (tagPattern c.1).accepts (some text) ↔ Tagged c.1 text := by
  have hplain : ∀ c ∈ cheers, tagSource c.1 ≠ "" ∧ '\n' ∉ '#' :: c.1.toList := by decide
  obtain ⟨hraw, htag⟩ := hplain c hc
  rw [FacetPattern.accepts_some_iff hraw]
  constructor
  · rintro (⟨_, ⟨⟩, hmatch⟩ | ⟨_, ⟨⟩, hmatch⟩)
    · exact (isMatch_tagTree htag text).mp hmatch
    · exact tagged_of_isMatch hc hmatch
  · exact fun h => .inl ⟨_, rfl, (isMatch_tagTree htag text).mpr h⟩

-- ════════════════════════════════════════════════════════════════════════
-- The handlers
-- ════════════════════════════════════════════════════════════════════════

/-- The handler of a tag with its reply. -/
def cheerer (c : String × String) : Handler γ :=
  (cheer c.1 c.2).withPattern textFacet (tagPattern c.1) true

theorem built_registrations :
    Registration.built true (roster : Roster γ).registrations = cheers.map cheerer := by
  have hbuild : ∀ c ∈ cheers, (cheer c.1 c.2 : Registration γ).build true = .ok (cheerer c) :=
    fun c hc => Registration.build_withPattern rfl (compile_tagPattern c hc) true
  have hroster : (roster : Roster γ).registrations = cheers.map fun c => cheer c.1 c.2 := rfl
  rw [Registration.built, hroster, List.filterMap_map, ← List.filterMap_eq_map]
  refine List.filterMap_congr fun c hc => ?_
  rw [Function.comp_apply, hbuild c hc]
  rfl

variable {m : Message} {text : String}

/-- The candidates are the handlers of the tags in the text, in the order of the tags. -/
theorem candidates_eq (htext : m.get? textFacet = some text) :
    selectCandidates m (group : Group γ).handlers =
      (cheers.filter fun c => Tagged c.1 text).map cheerer := by
  have hordered : (roster : Roster γ).registrations.Pairwise
      fun r r' => r.identity ≤ r'.identity := by
    simp [roster, cheer]
  rw [group, Roster.candidates_of_pairwise hordered,
    show (roster : Roster γ).invokeAll = true from rfl, built_registrations, List.filter_map]
  refine congrArg _ (List.filter_congr fun c hc => ?_)
  rw [Function.comp_apply, cheerer, Registration.accepts_withPattern, htext, Bool.eq_iff_iff,
    accepts_tagPattern_iff hc, decide_eq_true_iff]

/-- The arguments of a handler: the text and the user, or no value if there is no user. -/
def cheerArgs (m : Message) (text : String) : Args :=
  ⟨[.text text, (m.get? userFacet).elim .null .text]⟩

theorem bindParameters_cheerer (htext : m.get? textFacet = some text) (c : String × String) :
    bindParameters m (cheerer c : Handler γ) = .ok (cheerArgs m text) := by
  rw [bindParameters_eq_ok_iff]
  refine .cons ?_ (.cons ?_ .nil)
  · change convert (m.get? textFacet) .text = _
    rw [htext, convert_text]
  · change convert (m.get? userFacet) .text = _
    cases m.get? userFacet with
    | none => rfl
    | some user => exact convert_text user

/-- A handler replies to what it is called with, and writes down nothing but log entries. -/
theorem action_cheerer (c : String × String) (m : Message) (text : String) :
    let reaction := (cheerer c : Handler γ).action (cheerArgs m text)
    reaction.ending = .reply (.text c.2) ∧ deliveryEvents reaction.events = [] := by
  cases huser : m.get? userFacet <;> simp [cheerArgs, huser] <;> exact ⟨rfl, rfl⟩

/-- What becomes of the delivery to a handler: unless the hook refuses it, it is called once and
replies. -/
def turn (d : Dispatcher γ) (m : Message) (text : String) (c : String × String) :
    List Event × Except InvocationError (Reply γ) :=
  match d.hook.refusal (cheerer c) with
  | none => ([.before c.1, .called c.1 (cheerArgs m text), .after c.1], .ok (.text c.2))
  | some reason => ([.before c.1, .after c.1], .error (.delivery c.1 reason))

theorem delivery_cheerer (d : Dispatcher γ) (htext : m.get? textFacet = some text)
    (c : String × String) :
    Delivery d m (cheerer c) (turn d m text c).1 (.ok (turn d m text c).2) := by
  cases hrefusal : d.hook.refusal (cheerer c) with
  | none =>
    obtain ⟨hending, hevents⟩ := action_cheerer (γ := γ) c m text
    have hdelivery := Delivery.replied hrefusal (bindParameters_cheerer htext c) hending
    rw [hevents] at hdelivery
    rw [turn, hrefusal]
    exact hdelivery
  | some reason =>
    rw [turn, hrefusal]
    exact .refused hrefusal

-- ════════════════════════════════════════════════════════════════════════
-- What comes of a text
-- ════════════════════════════════════════════════════════════════════════

/-- A text without a tag is for no handler, and neither is a text of several lines. For any other
text the handlers of its tags are invoked in the order of the tags, each of them once and with its
own reply, however often its tag occurs and whether or not there is a user. Only the hook keeps a
handler from its reply. -/
theorem tags_are_cheered (d : Dispatcher γ) (m : Message) (text : String)
    (htext : m.get? textFacet = some text) :
    let found := cheers.filter fun c => Tagged c.1 text
    let run := d.dispatch m group
    (found = [] → deliveryEvents run.events = [] ∧ run.result = .ok .noMatch) ∧
    (found ≠ [] →
      ((∀ h ∈ (group : Group γ).handlers, d.hook.refusal h = none) →
        deliveryEvents run.events = found.flatMap (fun c =>
            [.before c.1, .called c.1 (cheerArgs m text), .after c.1]) ∧
          run.result = .ok (.invoked (found.map fun c => ⟨c.1, .ok (.text c.2)⟩))) ∧
      ∃ o, run.result = .ok o ∧ o.identities = found.map Prod.fst ∧
        ∀ e ∈ o.failures, ∃ h ∈ (group : Group γ).handlers, ∃ reason,
          d.hook.refusal h = some reason ∧ e = .delivery h.identity reason) := by
  intro found run
  have hcandidates : selectCandidates m (group : Group γ).handlers = found.map cheerer :=
    candidates_eq htext
  have hmem : ∀ c ∈ found, (cheerer c : Handler γ) ∈ (group : Group γ).handlers := by
    intro c hc
    have hselected := hcandidates ▸ List.mem_map_of_mem (f := cheerer (γ := γ)) hc
    exact (mem_selectCandidates.mp hselected).1
  refine ⟨fun hnone => ?_, fun hsome => ?_⟩
  · rw [hnone] at hcandidates
    exact ⟨d.deliveryEvents_of_nil hcandidates, d.dispatch_of_nil hcandidates⟩
  · obtain ⟨hevents, hresult⟩ := d.dispatch_of_forall m (g := group) rfl hcandidates hsome
      fun c _ => delivery_cheerer d htext c
    refine ⟨fun hlets => ?_, _, hresult, ?_, fun e he => ?_⟩
    · have hturn : ∀ c ∈ found, turn d m text c =
          ([.before c.1, .called c.1 (cheerArgs m text), .after c.1], .ok (.text c.2)) := by
        intro c hc
        rw [turn, hlets _ (hmem c hc)]
      refine ⟨hevents.trans ?_, hresult.trans ?_⟩
      · exact List.flatMap_congr fun c hc => congrArg Prod.fst (hturn c hc)
      · refine congrArg (fun is => Except.ok (Outcome.invoked is)) ?_
        refine List.map_congr_left fun c hc => ?_
        rw [hturn c hc]
        rfl
    · rw [Outcome.identities, Outcome.invocations, List.map_map]
      rfl
    · obtain ⟨i, hi, he⟩ := List.mem_filterMap.mp he
      obtain ⟨c, hc, rfl⟩ := List.mem_map.mp hi
      cases hrefusal : d.hook.refusal (cheerer c) with
      | none => simp [turn, hrefusal] at he
      | some reason =>
        have herror : InvocationError.delivery c.1 reason = e := by
          simpa [turn, hrefusal] using he
        exact ⟨cheerer c, hmem c hc, reason, hrefusal, herror.symm⟩

/-- A post without a user, with two of the tags and one of them twice. -/
theorem repeated_tag_is_cheered_once :
    let d : Dispatcher Unit := {}
    let m : Message := ({ channel := "microblog" } : Message).insert textFacet
      "#tokio or not #tokio? #rust!"
    m.get? textFacet = some "#tokio or not #tokio? #rust!" ∧
      (d.dispatch m group).result =
        .ok (.invoked [⟨"rust", .ok (.text "#rust is awesome")⟩,
          ⟨"tokio", .ok (.text "#tokio is where the cool runtimes showcase")⟩]) := by
  intro d m
  have htext : m.get? textFacet = some "#tokio or not #tokio? #rust!" := by decide
  have hfound : (cheers.filter fun c => Tagged c.1 "#tokio or not #tokio? #rust!") =
      [("rust", "#rust is awesome"), ("tokio", "#tokio is where the cool runtimes showcase")] := by
    decide +kernel
  obtain ⟨-, hsome⟩ := tags_are_cheered d m _ htext
  rw [hfound] at hsome
  exact ⟨htext, ((hsome (List.cons_ne_nil _ _)).1 fun _ _ => rfl).2⟩

end Parley.Hashtags
