import Mathlib
import Parley.Proofs.Dispatch.Binding
import Parley.Proofs.Dispatch.Leading
import Parley.Proofs.Handler.Pattern
import Parley.Proofs.Microblog.Delivery
import Parley.Proofs.Template.Match
import Parley.Program

/-!
# A joke in three stages

With every user the listener in a knock-knock joke is in one of three stages. The texts of the user
alone move it from one to the next, whatever other users post in between.

## Main definitions

- `Stage`, `Move` — the stages of a joke, and what a text does in each
- `Cast` — the names of the three groups
- `Staged` — an account that plays the listener
- `Turn`, `Plays` — a post that is answered, and several

## Main results

- `existsUnique_move` — the stage and the text decide what is answered
- `settles` — what one post does to an account
- `jokes_follow_their_stages` — what several posts do to it
-/

namespace Parley.KnockKnock

variable {γ : Type}

-- ════════════════════════════════════════════════════════════════════════
-- Stages
-- ════════════════════════════════════════════════════════════════════════

/-- How far a joke has come. -/
inductive Stage
  | idle
  | who
  | punchline
  deriving Repr, DecidableEq

/-- The pattern accepts the text. -/
def Accepts (raw text : String) : Prop :=
  ∃ p, FacetPattern.compile raw = .ok p ∧ p.accepts (some text)

/-- The text is a name, or a name with a slash and the rest of a line after it. -/
def Introduces (text name : String) : Prop :=
  name ≠ "" ∧ '/' ∉ name.toList ∧
    ∃ rest, text.toList = name.toList ++ rest ∧
      (rest = [] ∨ ∃ line, rest = '/' :: line ∧ '\n' ∉ line)

/-- What a text of a user does in a stage: the handler that it is for and the answer, if there is
one, and the stage after it. -/
inductive Move (user text : String) : Stage → Option (String × String) → Stage → Prop
  | knock (h : Accepts ".*[Kk]nock(,? |-)[Kk]nock.*" text) :
      Move user text .idle (some ("knock_knock", whosThere)) .who
  | loud (h : ¬ Accepts ".*[Kk]nock(,? |-)[Kk]nock.*" text)
      (hloud : Accepts ".*KNOCK KNOCK.*" text) :
      Move user text .idle (some ("loud_knock", loud)) .idle
  | silence (h : ¬ Accepts ".*[Kk]nock(,? |-)[Kk]nock.*" text)
      (hloud : ¬ Accepts ".*KNOCK KNOCK.*" text) : Move user text .idle none .idle
  | banana (h : Accepts "(?i)Banana" text) : Move user text .who (some ("orange", banana)) .who
  | self (h : ¬ Accepts "(?i)Banana" text) (hname : Introduces text user) :
      Move user text .who (some ("who", selfKnock)) .idle
  | name {name : String} (h : ¬ Accepts "(?i)Banana" text) (hname : Introduces text name)
      (hother : name ≠ user) : Move user text .who (some ("who", name ++ " who?")) .punchline
  | puzzle (h : ¬ Accepts "(?i)Banana" text) (hnone : ∀ name, ¬ Introduces text name) :
      Move user text .who none .idle
  | laugh : Move user text .punchline (some ("punchline", punchline)) .idle

/-- A text introduces one name only. -/
theorem Introduces.unique {text v w : String} (hv : Introduces text v) (hw : Introduces text w) :
    v = w := by
  have hbefore : ∀ name, Introduces text name → text.toList.takeWhile (· ≠ '/') = name.toList := by
    rintro name ⟨-, hslash, rest, htext, hrest⟩
    rw [htext]
    exact IsRemainder.takeWhile_append hrest hslash
  exact String.toList_inj.1 ((hbefore v hv).symm.trans (hbefore w hw))

/-- A text in a stage does one thing only. -/
theorem Move.unique {user text : String} {stage next next' : Stage}
    {answer answer' : Option (String × String)} (h : Move user text stage answer next)
    (h' : Move user text stage answer' next') : answer = answer' ∧ next = next' := by
  cases h with
  | knock | loud | silence | banana | puzzle | laugh => cases h' <;> simp_all
  | self hbanana hname =>
    cases h' with
    | banana | puzzle => simp_all
    | self => exact ⟨rfl, rfl⟩
    | name _ hname' hother => exact absurd (hname'.unique hname) hother
  | name hbanana hname hother =>
    cases h' with
    | banana | puzzle => simp_all
    | self _ hname' => exact absurd (hname.unique hname') hother
    | name _ hname' => exact ⟨by rw [hname.unique hname'], rfl⟩

/-- The stage and the text decide what is answered, and the stage after it. -/
theorem existsUnique_move (user text : String) (stage : Stage) :
    ∃! x : Option (String × String) × Stage, Move user text stage x.1 x.2 := by
  have hsome : ∃ answer next, Move user text stage answer next := by
    cases stage with
    | idle =>
      by_cases hknock : Accepts ".*[Kk]nock(,? |-)[Kk]nock.*" text
      · exact ⟨_, _, .knock hknock⟩
      · by_cases hloud : Accepts ".*KNOCK KNOCK.*" text
        · exact ⟨_, _, .loud hknock hloud⟩
        · exact ⟨_, _, .silence hknock hloud⟩
    | who =>
      by_cases hbanana : Accepts "(?i)Banana" text
      · exact ⟨_, _, .banana hbanana⟩
      · by_cases hname : ∃ name, Introduces text name
        · obtain ⟨name, hname⟩ := hname
          by_cases huser : name = user
          · exact ⟨_, _, .self hbanana (huser ▸ hname)⟩
          · exact ⟨_, _, .name hbanana hname huser⟩
        · exact ⟨_, _, .puzzle hbanana (not_exists.1 hname)⟩
    | punchline => exact ⟨_, _, .laugh⟩
  obtain ⟨answer, next, h⟩ := hsome
  exact ⟨(answer, next), h, fun x hx => Prod.ext (hx.unique h).1 (hx.unique h).2⟩

-- ════════════════════════════════════════════════════════════════════════
-- Turns
-- ════════════════════════════════════════════════════════════════════════

/-- The names of the groups of a joke. -/
structure Cast (γ : Type) where
  /-- The opening. -/
  door : γ
  /-- The question who is there. -/
  who : γ
  /-- The end of the joke. -/
  last : γ
  deriving Repr, DecidableEq

/-- What is pending for a user in a stage. -/
def Cast.pending (cast : Cast γ) : Stage → Option γ
  | .idle => none
  | .who => some cast.who
  | .punchline => some cast.last

/-- The group that a text goes to in a stage. -/
def Cast.place (cast : Cast γ) (stage : Stage) : γ :=
  (cast.pending stage).getD cast.door

/-- An account that has the groups of a joke, and gives the opening what continues no
conversation. -/
structure Staged (c : Microblog γ) (cast : Cast γ) : Prop where
  targets : c.targets = [cast.door]
  door : c.group cast.door = (roster cast.who).build
  who : c.group cast.who = (whosThereRoster cast.last).build
  last : c.group cast.last = punchlineRoster.build

/-- An answer to a user as it is posted. -/
def addressed (c : Microblog γ) (user text : String) : String :=
  if c.mentions then "@" ++ user ++ " " ++ text else text

/-- What comes of a post, with what is posted in return: nothing if no handler accepts it, the
answer of the handler that does, or nothing if the hook does not let this handler. -/
inductive Turn (c : Microblog γ) (cast : Cast γ) (post : Post) :
    Stage → Outcome γ → List Posting → Stage → Prop
  | unmatched {stage next : Stage}
      (h : Move post.user (normalizeText post.text) stage none next) :
      Turn c cast post stage .noMatch [] next
  | answered {stage next : Stage} {handler : Handler γ} {text : String} {reply : Reply γ}
      (h : Move post.user (normalizeText post.text) stage (some (handler.identity, text)) next)
      (hmem : handler ∈ (c.group (cast.place stage)).handlers)
      (hlets : c.dispatcher.hook.refusal handler = none) (hreply : reply.message = some text) :
      Turn c cast post stage (.invoked [⟨handler.identity, .ok reply⟩])
        [⟨addressed c post.user text, some post.id⟩] next
  | refused {stage next : Stage} {handler : Handler γ} {text reason : String}
      (h : Move post.user (normalizeText post.text) stage (some (handler.identity, text)) next)
      (hmem : handler ∈ (c.group (cast.place stage)).handlers)
      (hrefusal : c.dispatcher.hook.refusal handler = some reason) :
      Turn c cast post stage
        (.invoked [⟨handler.identity, .error (.delivery handler.identity reason)⟩]) [] .idle

/-- What one post does in a stage: the outcome of its delivery, what is posted in return, and what
is pending afterwards. -/
def Settles (c : Microblog γ) (cast : Cast γ) (post : Post) (stage : Stage) : Prop :=
  ∃ o ps next, Turn c cast post stage o ps next ∧
    (c.dispatcher.dispatch (Microblog.message post) (c.group (cast.place stage))).result = .ok o ∧
    c.answers post [o] = ps ∧
    entryAfter none (o.invocations.map fun i => (cast.place stage, i)) = cast.pending next

variable {c : Microblog γ} {cast : Cast γ} {post : Post} {stage next : Stage}

theorem get?_message_user (post : Post) :
    (Microblog.message post).get? userFacet = some post.user := by
  rw [Microblog.message, Message.get?, Message.insert, Table.get?_insert, if_neg (by decide),
    Message.insert, Table.get?_insert, if_pos rfl]

theorem get?_message_text (post : Post) :
    (Microblog.message post).get? textFacet = some (normalizeText post.text) := by
  rw [Microblog.message, Message.get?, Message.insert, Table.get?_insert, if_pos rfl]

/-- In every stage one handler is enough. -/
theorem Staged.invokeAll_eq (h : Staged c cast) (stage : Stage) :
    (c.group (cast.place stage)).invokeAll = false := by
  cases stage with
  | idle => exact congrArg Group.invokeAll h.door
  | who => exact congrArg Group.invokeAll h.who
  | punchline => exact congrArg Group.invokeAll h.last

theorem settles_of_nil
    (hnone : selectCandidates (Microblog.message post) (c.group (cast.place stage)).handlers = [])
    (hmove : Move post.user (normalizeText post.text) stage none .idle) :
    Settles c cast post stage :=
  ⟨.noMatch, [], .idle, .unmatched hmove, c.dispatcher.dispatch_of_nil hnone, rfl, rfl⟩

/-- The first candidate answers, unless the hook does not let it. -/
theorem settles_of_cons (h : Staged c cast) {handler : Handler γ} {rest : List (Handler γ)}
    {text : String} {reply : Reply γ}
    (hfirst : selectCandidates (Microblog.message post) (c.group (cast.place stage)).handlers =
      handler :: rest)
    (hreplies : handler.Replies (Microblog.message post) reply)
    (hmove : Move post.user (normalizeText post.text) stage (some (handler.identity, text)) next)
    (htext : reply.message = some text)
    (hrender : c.render post.user reply = some (addressed c post.user text))
    (hnext : Router.nextDialog (cast.place stage) ⟨handler.identity, .ok reply⟩ =
      cast.pending next) : Settles c cast post stage := by
  have hresult := c.dispatcher.dispatch_of_cons (h.invokeAll_eq stage) hfirst
  have hcandidate : handler ∈
      selectCandidates (Microblog.message post) (c.group (cast.place stage)).handlers := by
    rw [hfirst]
    exact List.mem_cons_self
  have hmem := (mem_selectCandidates.1 hcandidate).1
  cases hrefusal : c.dispatcher.hook.refusal handler with
  | some reason =>
    rw [c.dispatcher.attempt_of_refusal hrefusal] at hresult
    exact ⟨_, [], .idle, .refused hmove hmem hrefusal, hresult, rfl, rfl⟩
  | none =>
    rw [c.dispatcher.attempt_of_replies hrefusal hreplies] at hresult
    refine ⟨_, _, next, .answered hmove hmem hrefusal htext, hresult, ?_, hnext⟩
    simp [Microblog.answers, Outcome.replies, Outcome.invocations, Except.toOption, hrender]

-- ════════════════════════════════════════════════════════════════════════
-- The opening
-- ════════════════════════════════════════════════════════════════════════

theorem accepts_iff {raw : String} {p : FacetPattern} (h : FacetPattern.compile raw = .ok p)
    (text : String) : Accepts raw text ↔ p.accepts (some text) = true := by
  constructor
  · rintro ⟨q, hq, haccepts⟩
    rw [h] at hq
    cases hq
    exact haccepts
  · exact fun haccepts => ⟨p, h, haccepts⟩

/-- What a registration with a pattern adds to the candidates for a text: its handler if the
pattern accepts the text. -/
inductive Offers (r : Registration γ) (raw text : String) (all : Bool) : List (Handler γ) → Prop
  | accepted {p : FacetPattern} (hp : FacetPattern.compile raw = .ok p)
      (h : p.accepts (some text) = true) : Offers r raw text all [r.withPattern textFacet p all]
  | rejected (h : ¬ Accepts raw text) : Offers r raw text all []

theorem offers_built {r : Registration γ} {raw : String} (hraw : r.patterns = [(textFacet, raw)])
    (all : Bool) (post : Post) :
    Offers r raw (normalizeText post.text) all
      ((Registration.built all [r]).filter fun h => h.accepts (Microblog.message post)) := by
  rw [Registration.built, List.filterMap_cons, List.filterMap_nil]
  cases hp : FacetPattern.compile raw with
  | error e =>
    have hbuild : r.build all = .error e := by
      rw [Registration.build, hraw, compilePatterns, hp]
      rfl
    rw [hbuild]
    refine .rejected ?_
    rintro ⟨p, hp', -⟩
    rw [hp] at hp'
    cases hp'
  | ok p =>
    rw [Registration.build_withPattern hraw hp]
    simp only [Except.toOption, List.filter_cons, List.filter_nil,
      Registration.accepts_withPattern, get?_message_text]
    split
    · next h => exact .accepted hp h
    · next h => exact .rejected fun haccepts => h ((accepts_iff hp _).1 haccepts)

/-- The candidates where there is one handler with a pattern for the text. -/
theorem offers_candidates {r : Roster γ} {q : Registration γ} {raw : String}
    (hr : r.registrations = [q]) (hraw : q.patterns = [(textFacet, raw)]) (post : Post) :
    Offers q raw (normalizeText post.text) r.invokeAll
      (selectCandidates (Microblog.message post) r.build.handlers) := by
  have hpairwise : r.registrations.Pairwise fun r r' => r.identity ≤ r'.identity := by
    rw [hr]
    exact List.pairwise_singleton _ _
  rw [Roster.candidates_of_pairwise hpairwise, hr]
  exact offers_built hraw r.invokeAll post

/-- The candidates among two handlers with patterns for the text. -/
theorem candidates_pair {r : Roster γ} {r₁ r₂ : Registration γ} {raw₁ raw₂ : String}
    (hr : r.registrations = [r₁, r₂]) (hraw₁ : r₁.patterns = [(textFacet, raw₁)])
    (hraw₂ : r₂.patterns = [(textFacet, raw₂)]) (hordered : r₁.identity ≤ r₂.identity)
    (post : Post) :
    ∃ hs₁ hs₂, Offers r₁ raw₁ (normalizeText post.text) r.invokeAll hs₁ ∧
      Offers r₂ raw₂ (normalizeText post.text) r.invokeAll hs₂ ∧
      selectCandidates (Microblog.message post) r.build.handlers = hs₁ ++ hs₂ := by
  refine ⟨_, _, offers_built hraw₁ r.invokeAll post, offers_built hraw₂ r.invokeAll post, ?_⟩
  have hbuilt : Registration.built r.invokeAll r.registrations =
      Registration.built r.invokeAll [r₁] ++ Registration.built r.invokeAll [r₂] := by
    rw [hr, Registration.built, ← List.singleton_append, List.filterMap_append]
    rfl
  have hpairwise : r.registrations.Pairwise fun r r' => r.identity ≤ r'.identity := by
    rw [hr]
    exact List.pairwise_pair.2 hordered
  rw [Roster.candidates_of_pairwise hpairwise, hbuilt, List.filter_append]

theorem settles_idle (h : Staged c cast) (post : Post) : Settles c cast post .idle := by
  obtain ⟨hs₁, hs₂, hknock, hloud, hcandidates⟩ :=
    candidates_pair (r := roster cast.who) rfl rfl rfl (by simp) post
  rw [← h.door] at hcandidates
  cases hknock with
  | accepted hp hknock =>
    exact settles_of_cons h hcandidates ⟨⟨[]⟩, rfl, rfl⟩
      (.knock ((accepts_iff hp _).2 hknock)) rfl (by simp [Microblog.render, addressed]) rfl
  | rejected hknock =>
    cases hloud with
    | accepted hp hloud =>
      exact settles_of_cons h hcandidates ⟨⟨[]⟩, rfl, rfl⟩
        (.loud hknock ((accepts_iff hp _).2 hloud)) rfl (by simp [Microblog.render, addressed]) rfl
    | rejected hloud => exact settles_of_nil hcandidates (.silence hknock hloud)

-- ════════════════════════════════════════════════════════════════════════
-- The question who is there
-- ════════════════════════════════════════════════════════════════════════

/-- The place for a name. -/
def namePlaceholder : Placeholder :=
  ⟨"who", none⟩

/-- The template that is a place for a name. -/
def nameTemplate : Template :=
  ⟨"\x7bwho\x7d", [.placeholder namePlaceholder],
    (Template.tree [.placeholder namePlaceholder]).between⟩

theorem compile_nameTemplate : Template.compile "\x7bwho\x7d" = .ok nameTemplate := by
  decide +kernel

theorem compile_name : FacetPattern.compile "\x7bwho\x7d" =
    .ok ⟨"\x7bwho\x7d", none, some nameTemplate⟩ := by
  decide +kernel

theorem readable_nameTemplate : ∀ ch ∈ nameTemplate.chunks, ch.Readable := by
  intro ch hch
  obtain rfl := List.mem_singleton.1 hch
  intro constraint h
  cases h

/-- A text introduces a name if the template reads the name in it. -/
theorem introduces_iff_parses {text name : String} :
    Introduces text name ↔
      ∃ remainder, Template.Parses nameTemplate.chunks text.toList [name.toList] remainder := by
  have hstem : Chunk.stem nameTemplate.chunks [name.toList] = name.toList := List.append_nil _
  constructor
  · rintro ⟨hname, hslash, rest, htext, hrest⟩
    refine ⟨rest, .cons ⟨?_, hslash⟩ .nil, by rw [hstem]; exact htext, hrest⟩
    intro hnil
    exact hname (String.toList_eq_nil_iff.1 hnil)
  · rintro ⟨rest, hadmitted, htext, hrest⟩
    rw [hstem] at htext
    cases hadmitted with
    | cons hname _ =>
      refine ⟨?_, hname.2, rest, htext, hrest⟩
      rintro rfl
      exact hname.1 rfl

/-- Whatever the template reads has one value. -/
theorem exists_introduces_of_parses {text : String} {values : List (List Char)}
    {remainder : List Char}
    (h : Template.Parses nameTemplate.chunks text.toList values remainder) :
    ∃ name : String, values = [name.toList] ∧ Introduces text name := by
  obtain ⟨v, rfl⟩ : ∃ v, values = [v] := List.length_eq_one_iff.1 h.admitted.length_eq.symm
  refine ⟨String.ofList v, by rw [String.toList_ofList], introduces_iff_parses.2 ⟨remainder, ?_⟩⟩
  rwa [String.toList_ofList]

theorem isMatch_nameTemplate (text : String) :
    nameTemplate.isMatch text ↔ ∃ name, Introduces text name := by
  rw [Template.isMatch_iff_parses compile_nameTemplate readable_nameTemplate]
  constructor
  · rintro ⟨values, remainder, h⟩
    obtain ⟨name, -, hname⟩ := exists_introduces_of_parses h
    exact ⟨name, hname⟩
  · rintro ⟨name, hname⟩
    obtain ⟨remainder, h⟩ := introduces_iff_parses.1 hname
    exact ⟨_, remainder, h⟩

/-- The pattern accepts exactly the texts that introduce a name. -/
theorem accepts_name_iff (text : String) :
    Accepts "\x7bwho\x7d" text ↔ ∃ name, Introduces text name := by
  rw [accepts_iff compile_name, FacetPattern.accepts_template_iff (by decide),
    isMatch_nameTemplate]

/-- The template captures the name that a text introduces. -/
theorem captures_name {text name : String} (h : Introduces text name) :
    (nameTemplate.matchInput (some text)).bind (fun m => m.first? "who") = some name := by
  refine Template.first?_of_parses (p := namePlaceholder) compile_nameTemplate
    readable_nameTemplate (List.mem_singleton.2 rfl) (by decide) ?_
    fun values remainder hparses => ?_
  · obtain ⟨remainder, hparses⟩ := introduces_iff_parses.1 h
    exact ⟨_, remainder, hparses⟩
  · obtain ⟨name', rfl, hname'⟩ := exists_introduces_of_parses hparses
    obtain rfl := hname'.unique h
    simp [Template.valuesOf, Template.placeholders, nameTemplate, Chunk.placeholders]

/-- The handler of the question gets the name and the user. -/
theorem bindParameters_name {r : Registration γ} {all : Bool} {name : String}
    (hr : r.bindings = [.capture textFacet "who" .text, .whole userFacet .text])
    (h : Introduces (normalizeText post.text) name) :
    bindParameters (Microblog.message post)
        (r.withPattern textFacet ⟨"\x7bwho\x7d", none, some nameTemplate⟩ all) =
      .ok ⟨[.text name, .text post.user]⟩ := by
  let handler := r.withPattern textFacet ⟨"\x7bwho\x7d", none, some nameTemplate⟩ all
  have hcaptures : (handler.captures (Microblog.message post) textFacet).bind
      (fun t => t.first? "who") = some name := by
    rw [Registration.captures_withPattern, get?_message_text]
    exact captures_name h
  have hbindings : handler.bindings =
      [.capture textFacet "who" .text, .whole userFacet .text] := hr
  change bindParameters (Microblog.message post) handler = _
  rw [bindParameters_eq_ok_iff, hbindings]
  refine .cons ?_ (.cons ?_ .nil)
  · change convert ((handler.captures (Microblog.message post) textFacet).bind
      fun t => t.first? "who") .text = _
    rw [hcaptures, convert_text]
  · change convert ((Microblog.message post).get? userFacet) .text = _
    rw [get?_message_user, convert_text]

theorem settles_who (h : Staged c cast) (post : Post) : Settles c cast post .who := by
  obtain ⟨hs₁, hs₂, hbanana, hname, hcandidates⟩ :=
    candidates_pair (r := whosThereRoster cast.last) rfl rfl rfl (by simp) post
  rw [← h.who] at hcandidates
  cases hbanana with
  | accepted hp hbanana =>
    exact settles_of_cons h hcandidates ⟨⟨[]⟩, rfl, rfl⟩
      (.banana ((accepts_iff hp _).2 hbanana)) rfl (by simp [Microblog.render, addressed]) rfl
  | rejected hbanana =>
    cases hname with
    | rejected hname =>
      have hnone : ∀ name, ¬ Introduces (normalizeText post.text) name :=
        not_exists.1 (mt (accepts_name_iff _).2 hname)
      exact settles_of_nil hcandidates (.puzzle hbanana hnone)
    | accepted hp hname =>
      obtain ⟨name, hintroduces⟩ := (accepts_name_iff _).1 ((accepts_iff hp _).2 hname)
      rw [compile_name] at hp
      cases hp
      by_cases huser : name = post.user
      · refine settles_of_cons h hcandidates
          (?_ : Handler.Replies _ _ (.response { message := some selfKnock }))
          (.self hbanana (huser ▸ hintroduces)) rfl (by simp [Microblog.render, addressed]) rfl
        exact ⟨_, bindParameters_name rfl hintroduces, by
          simp [Registration.withPattern, Args.text, Args.get?, Reaction.withValue,
            Reaction.response, huser]⟩
      · refine settles_of_cons h hcandidates
          (?_ : Handler.Replies _ _
            (.response { message := some (name ++ " who?"), dialog := some (.group cast.last) }))
          (.name hbanana hintroduces huser) rfl (by simp [Microblog.render, addressed]) rfl
        exact ⟨_, bindParameters_name rfl hintroduces, by
          simp [Registration.withPattern, Args.text, Args.get?, Reaction.withValue,
            Reaction.response, huser]⟩

-- ════════════════════════════════════════════════════════════════════════
-- The end of the joke
-- ════════════════════════════════════════════════════════════════════════

theorem settles_punchline (h : Staged c cast) (post : Post) : Settles c cast post .punchline := by
  have hoffers := offers_candidates (r := punchlineRoster (γ := γ)) rfl rfl post
  rw [← h.last] at hoffers
  generalize hcandidates : selectCandidates (Microblog.message post) (c.group cast.last).handlers =
    hs at hoffers
  cases hoffers with
  | accepted hp hany =>
    exact settles_of_cons h hcandidates ⟨⟨[]⟩, rfl, rfl⟩ .laugh rfl
      (by simp [Microblog.render, addressed]) rfl
  | rejected hnone => exact absurd ⟨⟨"", none, none⟩, rfl, rfl⟩ hnone

/-- Whatever the stage, a post does what the joke says. -/
theorem settles (h : Staged c cast) (post : Post) (stage : Stage) : Settles c cast post stage := by
  cases stage with
  | idle => exact settles_idle h post
  | who => exact settles_who h post
  | punchline => exact settles_punchline h post

-- ════════════════════════════════════════════════════════════════════════
-- Jokes
-- ════════════════════════════════════════════════════════════════════════

/-- Posts that are answered one after the other, each in the stage of its author, with the stages
of all users before and after them. -/
inductive Plays (c : Microblog γ) (cast : Cast γ) :
    List Post → (String → Stage) → List (Outcome γ × List Posting) → (String → Stage) → Prop
  | nil (stages : String → Stage) : Plays c cast [] stages [] stages
  | cons {post : Post} {posts : List Post} {stages stages' : String → Stage} {o : Outcome γ}
      {ps : List Posting} {next : Stage} {answers : List (Outcome γ × List Posting)}
      (turn : Turn c cast post (stages post.user) o ps next)
      (later : Plays c cast posts (Function.update stages post.user next) answers stages') :
      Plays c cast (post :: posts) stages ((o, ps) :: answers) stages'

/-- What is pending for every user is what the stage of the user says. -/
def Follows (cast : Cast γ) (stages : String → Stage) (s : Microblog.State γ) : Prop :=
  ∀ user, s.store.get? user = cast.pending (stages user)

theorem consulted_of_follows (h : Staged c cast) {stages : String → Stage} {s : Microblog.State γ}
    (hs : Follows cast stages s) (post : Post) :
    c.router.consulted s.store (Microblog.message post) = [cast.place (stages post.user)] := by
  have hkey : (Microblog.message post).get? c.router.keyFacet = some post.user :=
    get?_message_user post
  rw [Router.consulted, hkey, Option.bind_some, hs post.user, Cast.place]
  cases cast.pending (stages post.user) with
  | none => exact h.targets
  | some g => rfl

/-- One post is answered in the stage of its author and changes the stage of no one else. -/
theorem turn_of_follows (h : Staged c cast) {stages : String → Stage} {s : Microblog.State γ}
    (hs : Follows cast stages s) (post : Post) :
    ∃ o ps next, Turn c cast post (stages post.user) o ps next ∧
      (c.deliver post s).result = .ok [o] ∧
      (c.deliver post s).state.postings = s.postings ++ ps ∧
      Follows cast (Function.update stages post.user next) (c.deliver post s).state := by
  obtain ⟨o, ps, next, hturn, hdispatch, hanswers, hentry⟩ := settles h post (stages post.user)
  obtain ⟨hroute, hstore⟩ := c.router.route_of_consulted (get?_message_user post)
    (consulted_of_follows h hs post) hdispatch
  obtain ⟨es, hdeliver⟩ := c.deliver_of_ok hroute
  refine ⟨o, ps, next, hturn, ?_, ?_, fun user => ?_⟩
  · rw [hdeliver]
  · rw [hdeliver, hanswers]
  · rw [hdeliver]
    refine (hstore user).trans ?_
    by_cases huser : user = post.user
    · rw [if_pos huser, huser, Function.update_self, hentry]
    · rw [if_neg huser, Function.update_of_ne huser, hs user]

/-- Posts are answered one after the other from stages that are followed. -/
theorem plays_of_follows (h : Staged c cast) (posts : List Post) {stages : String → Stage}
    {s : Microblog.State γ} (hs : Follows cast stages s) :
    ∃ answers stages', Plays c cast posts stages answers stages' ∧
      (c.deliveries s posts).map Step.result = answers.map (fun a => .ok [a.1]) ∧
      (c.stateAfter s posts).postings = s.postings ++ answers.flatMap Prod.snd ∧
      Follows cast stages' (c.stateAfter s posts) := by
  induction posts generalizing stages s with
  | nil => exact ⟨[], stages, .nil stages, rfl, (List.append_nil _).symm, hs⟩
  | cons post posts ih =>
    obtain ⟨o, ps, next, hturn, hresult, hpostings, hs'⟩ := turn_of_follows h hs post
    obtain ⟨answers, stages', hplays, hresults, hall, hlast⟩ := ih hs'
    refine ⟨(o, ps) :: answers, stages', .cons hturn hplays, ?_, ?_, hlast⟩
    · rw [Microblog.deliveries, List.map_cons, hresult, hresults, List.map_cons]
    · change (c.stateAfter (c.deliver post s).state posts).postings = _
      rw [hall, hpostings, List.flatMap_cons, List.append_assoc]

/-- The account plays the listener in a joke with every user, whatever the others post in between:
the stage of a user and the text of a post decide what is answered and the stage after it, the
outcomes and the postings of a run are those of the moves, and what is pending for a user is at all
times what the stage of the user says: nothing, the question or the punchline. -/
theorem jokes_follow_their_stages (h : Staged c cast) (posts : List Post) :
    (∀ user text stage,
      ∃! x : Option (String × String) × Stage, Move user text stage x.1 x.2) ∧
    ∃ answers stages, Plays c cast posts (fun _ => .idle) answers stages ∧
      (c.deliveries {} posts).map Step.result = answers.map (fun a => .ok [a.1]) ∧
      (c.stateAfter {} posts).postings = answers.flatMap Prod.snd ∧
      ∀ user, (c.stateAfter {} posts).store.get? user = cast.pending (stages user) := by
  have hfresh : Follows cast (fun _ => .idle) ({} : Microblog.State γ) := fun _ => rfl
  obtain ⟨answers, stages, hplays, hresults, hpostings, hfollows⟩ :=
    plays_of_follows h posts hfresh
  exact ⟨existsUnique_move, answers, stages, hplays, hresults, hpostings, hfollows⟩

open Regex in
/-- The tree of the pattern for an opening. -/
def knockTree : Regex :=
  let line := rep true 0 none (chars (.compl (.range '\n' '\n')))
  let letter := chars (.union (.range 'K' 'K') (.range 'k' 'k'))
  let gap := alt (cat (rep true 0 (some 1) (char ',')) (char ' ')) (char '-')
  let word := letter :: "nock".toList.map char
  let post := cats ([line] ++ word ++ [group 1 gap] ++ word ++ [line])
  cat (look .textStart) (cat post (look .textEnd))

theorem anchored_knock : anchored? ".*[Kk]nock(,? |-)[Kk]nock.*".toList = some knockTree := by
  have hlimit : knockTree.footprint ≤ Regex.footprintLimit := by cbv
  exact Regex.anchored?_eq_some (by decide +kernel) hlimit

/-- A text that is a pattern on its own can be compiled. -/
theorem exists_compile {raw : String} (hraw : raw.isEmpty = false)
    (h : (anchored? raw.toList).isSome = true) : ∃ p, FacetPattern.compile raw = .ok p := by
  rw [FacetPattern.compile, if_neg (by simp [hraw])]
  cases Template.compile raw with
  | ok t => exact ⟨_, rfl⟩
  | error e => exact ⟨_, if_pos h⟩

set_option maxRecDepth 8000 in
theorem knockTree_matches : knockTree.isMatch "Knock knock".toList = true := by cbv

theorem accepts_knock : Accepts ".*[Kk]nock(,? |-)[Kk]nock.*" "Knock knock" := by
  obtain ⟨p, hp⟩ : ∃ p, FacetPattern.compile ".*[Kk]nock(,? |-)[Kk]nock.*" = .ok p :=
    exists_compile (by decide) (by rw [anchored_knock]; rfl)
  obtain ⟨hraw, hregex⟩ := FacetPattern.of_compile (by decide) hp
  have hempty : p.raw.isEmpty = false := by
    rw [hraw]
    decide
  refine ⟨p, hp, ?_⟩
  simp only [FacetPattern.accepts, FacetPattern.matchPath, hempty, hregex, anchored_knock,
    Option.any_some, knockTree_matches]
  rfl

/-- An account that only plays the listener. -/
def listener : Microblog Topic where
  group := Topic.group
  targets := [.knockKnock]

/-- Its groups. -/
def listenerCast : Cast Topic :=
  ⟨.knockKnock, .whosThere, .punchline⟩

/-- Somebody knocks and is asked who it is. -/
theorem listener_asks_who_knocks :
    (listener.stateAfter {} [⟨"1", "ann", "Knock knock"⟩]).postings =
        [⟨"@ann Who's there?", some "1"⟩] ∧
      (listener.stateAfter {} [⟨"1", "ann", "Knock knock"⟩]).store.get? "ann" =
        some .whosThere := by
  have hstaged : Staged listener listenerCast := ⟨rfl, rfl, rfl, rfl⟩
  obtain ⟨-, answers, stages, hplays, -, hpostings, hpending⟩ :=
    jokes_follow_their_stages hstaged [⟨"1", "ann", "Knock knock"⟩]
  have hknock : Move "ann" (normalizeText "Knock knock") .idle
      (some ("knock_knock", whosThere)) .who := by
    have hplain : normalizeText "Knock knock" = "Knock knock" := by cbv
    rw [hplain]
    exact .knock accepts_knock
  rw [hpostings]
  cases hplays with
  | cons turn later =>
    cases later
    cases turn with
    | unmatched hmove => cases (hmove.unique hknock).1
    | refused _ _ hrefusal => cases hrefusal
    | answered hmove =>
      obtain ⟨hanswer, rfl⟩ := hmove.unique hknock
      obtain ⟨-, rfl⟩ := Prod.mk.inj (Option.some.inj hanswer)
      refine ⟨rfl, (hpending "ann").trans ?_⟩
      rw [Function.update_self]
      rfl

end Parley.KnockKnock
