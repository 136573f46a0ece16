import Parley.Bots.ChatCommands
import Parley.Proofs.Dispatch.Binding
import Parley.Proofs.Dispatch.Leading
import Parley.Proofs.Handler.Pattern
import Parley.Proofs.Template.Numbering

/-!
# What the chat command bot replies

A body is one of three commands or none. The bot calls the handler of the command with the text
that follows it, which replies, and does nothing for other bodies.

## Main definitions

- `Command` — the commands, with their handlers, arguments and replies
- `echoTree`, `echoPattern`, `greetPattern`, `helpPattern` — the compiled patterns

## Main results

- `Command.identity_unique` — a body is a command for one handler at most
- `accepts_echo_iff`, `accepts_greet_iff`, `accepts_help_iff` — the bodies that a handler accepts
- `exists_candidate` — the handler of a command is the only candidate
- `commands_are_answered` — what comes of a body
-/

namespace Parley.ChatCommands

open Regex

variable {γ : Type}

-- ════════════════════════════════════════════════════════════════════════
-- Commands
-- ════════════════════════════════════════════════════════════════════════

/-- The body is a command for the handler with the identity, which is called with the arguments and
gives the reply. -/
inductive Command : (body identity : String) → Args → (reply : String) → Prop
  /-- To repeat the rest of the body, which is within a line and may be empty. -/
  | echo {text : String} (hline : '\n' ∉ text.toList) :
      Command ("echo " ++ text) "echo" ⟨[.text text]⟩ text
  /-- To greet; the name ends at the first slash. -/
  | greet {name rest : String} (hname : name ≠ "") (hslash : '/' ∉ name.toList)
      (hrest : IsRemainder rest.toList) :
      Command ("my name is " ++ name ++ rest) "greet" ⟨[.text name]⟩
        ("Hello " ++ name ++ ", it is very nice to meet you")
  /-- To list the commands. -/
  | help {rest : String} (hrest : IsRemainder rest.toList) :
      Command ("help" ++ rest) "help" ⟨[]⟩ ChatCommands.help

/-- The first character of a body tells the handler. -/
theorem Command.identity_eq {body identity reply : String} {args : Args}
    (h : Command body identity args reply) :
    identity = match body.toList.head? with
      | some 'e' => "echo"
      | some 'm' => "greet"
      | _ => "help" := by
  cases h <;> simp

theorem Command.identity_unique {body identity identity' reply reply' : String}
    {args args' : Args} (h : Command body identity args reply)
    (h' : Command body identity' args' reply') : identity = identity' :=
  h.identity_eq.trans h'.identity_eq.symm

-- ════════════════════════════════════════════════════════════════════════
-- Repeating a text
-- ════════════════════════════════════════════════════════════════════════

/-- The tree of the text to repeat. -/
def restTree : Regex :=
  cat (rep true 0 none (chars (.compl (.single '\n')))) (look .textEnd)

/-- The tree of the command to repeat a text. -/
def echoTree : Regex :=
  cats ("echo ".toList.map char ++ [.group 1 restTree, remainderTree 2])

/-- The template of the command to repeat a text. -/
def echoTemplate : Template :=
  ⟨"echo \x7bmessage:.*$\x7d",
    [.literal "echo ", .placeholder ⟨"message", some ⟨".*$", restTree.between⟩⟩],
    echoTree.between⟩

/-- The pattern for the command to repeat a text. -/
def echoPattern : FacetPattern :=
  ⟨"echo \x7bmessage:.*$\x7d", none, some echoTemplate⟩

theorem compile_echo : FacetPattern.compile "echo \x7bmessage:.*$\x7d" = .ok echoPattern := by
  decide +kernel

theorem spans_restTree {m n : Reading} :
    restTree.Spans m n ↔ n = m.skip m.rest ∧ '\n' ∉ m.rest := by
  constructor
  · rintro ⟨_, hline, hend, rfl⟩
    obtain ⟨line, hrest, rfl, hnewline⟩ := spans_line.mp hline
    have hend : (m.skip line).rest = [] := by simpa [Assertion.holds] using hend
    rw [hend, List.append_nil] at hrest
    rw [hrest]
    exact ⟨rfl, hnewline⟩
  · rintro ⟨rfl, hnewline⟩
    have hend : (m.skip m.rest).rest = [] := rest_skip (List.append_nil _).symm
    refine ⟨m.skip m.rest, spans_line.mpr ⟨m.rest, ?_, rfl, hnewline⟩, ?_, rfl⟩
    · rw [hend, List.append_nil]
    · rw [hend]
      rfl

/-- The command is matched as a whole if the text after it is within a line, which is then the
text of the first group. -/
theorem spans_echoTree {m n : Reading} :
    echoTree.Spans m n ∧ n.rest = [] ↔
      ∃ text, m.rest = "echo ".toList ++ text ∧ '\n' ∉ text ∧
        n = (m.skip "echo ".toList).capture 1 text := by
  -- the text ends at the end of the body, so that nothing is left for the remainder
  have hend {m : Reading} {text : List Char} (htext : m.rest = text) :
      (m.capture 1 text).rest = [] :=
    rest_skip (m := m) (by rw [htext, List.append_nil])
  rw [echoTree, spans_cats_chars]
  constructor
  · rintro ⟨⟨text, hrest, hspan⟩, hn⟩
    obtain ⟨_, ⟨_, hspan, rfl⟩, hremainder⟩ := spans_cats_cons.mp hspan
    have htext : ((m.skip "echo ".toList).record (2 * 1)).rest = text := rest_skip hrest
    rw [spans_restTree, htext] at hspan
    obtain ⟨rfl, hnewline⟩ := hspan
    obtain ⟨-, rfl⟩ := spans_remainderTree.mp ⟨hremainder, hn⟩
    exact ⟨text, hrest, hnewline, if_pos (hend (m := m.skip "echo ".toList) htext)⟩
  · rintro ⟨text, hrest, hnewline, rfl⟩
    have htext : (m.skip "echo ".toList).rest = text := rest_skip hrest
    have hgroup : (Regex.group 1 restTree).Spans (m.skip "echo ".toList)
        ((m.skip "echo ".toList).capture 1 text) := by
      refine ⟨_, spans_restTree.mpr ⟨rfl, ?_⟩, ?_⟩
      · exact htext.symm ▸ hnewline
      · exact congrArg ((m.skip "echo ".toList).capture 1) htext.symm
    obtain ⟨hremainder, hn⟩ := spans_remainderTree.mpr
      ⟨.inl (hend htext), (if_pos (hend htext)).symm⟩
    exact ⟨⟨text, hrest, spans_cats_cons.mpr ⟨_, hgroup, hremainder⟩⟩, hn⟩

theorem isMatch_echoTemplate (body : String) :
    echoTemplate.isMatch body ↔ ∃ text : String, body = "echo " ++ text ∧ '\n' ∉ text.toList := by
  have hmatch : echoTemplate.isMatch body ↔ ∃ text, body.toList = "echo ".toList ++ text ∧
      '\n' ∉ text := by
    change echoTree.between.isMatch body.toList ↔ _
    rw [isMatch_between]
    simp only [spans_echoTree]
    constructor
    · rintro ⟨_, text, hrest, hnewline, -⟩
      exact ⟨text, hrest, hnewline⟩
    · rintro ⟨text, hrest, hnewline⟩
      exact ⟨_, text, hrest, hnewline, rfl⟩
  rw [hmatch]
  constructor
  · rintro ⟨text, hbody, hnewline⟩
    exact ⟨String.ofList text, String.toList_inj.mp (by simp [hbody]),
      by rwa [String.toList_ofList]⟩
  · rintro ⟨text, rfl, hnewline⟩
    exact ⟨text.toList, String.toList_append, hnewline⟩

/-- The first group has the text after the command. -/
theorem textOf_echo {text : String} {groups : List (Option (List Char))}
    (h : echoTree.between.search ("echo " ++ text).toList = some groups) :
    Template.textOf groups 1 = text.toList := by
  obtain ⟨slots, hslots, rfl⟩ := Option.map_eq_some_iff.mp h
  obtain ⟨n, hspan, hend, rfl⟩ := searchSlots_between hslots
  obtain ⟨w, hrest, -, rfl⟩ := spans_echoTree.mp ⟨hspan, hend⟩
  let start := echoTree.startReading ("echo " ++ text).toList []
  have hbody : ("echo " ++ text).toList = "echo ".toList ++ w := hrest
  rw [String.toList_append] at hbody
  obtain rfl := List.append_cancel_left hbody
  have hafter : (start.skip "echo ".toList).rest = text.toList ++ [] := by
    rw [List.append_nil]
    exact rest_skip (m := start) hrest
  have hcaptured (stop : Option Nat) : groupText ("echo " ++ text).toList
      (((start.skip "echo ".toList).capture 1 text.toList).slots.set 1 stop) 1 =
        some text.toList := by
    have hslots : 3 < (echoTree.startSlots 0).length := by decide
    rw [groupText_set_of_ne (by omega) (by omega)]
    exact Reading.groupText_capture (Reading.isOf_startReading.skip _) hafter hslots
  have hlast : 1 < echoTree.between.lastGroup + 1 := by decide
  rw [Template.textOf, List.getElem?_map, List.getElem?_range hlast, Option.map_some,
    Option.join_some, hcaptured, Option.getD_some]

theorem captures_echo {text : String} (hline : '\n' ∉ text.toList) :
    (echoTemplate.matchInput (some ("echo " ++ text))).bind (fun m => m.first? "message") =
      some text := by
  have hmatch : (echoTemplate.matchInput (some ("echo " ++ text))).isSome := by
    rw [Template.matchInput_isSome]
    exact (isMatch_echoTemplate _).mpr ⟨text, rfl, hline⟩
  obtain ⟨m, hm⟩ := Option.isSome_iff_exists.mp hmatch
  obtain ⟨groups, hsearch, rfl⟩ := Option.map_eq_some_iff.mp hm
  have hcount : groups.length = echoTemplate.variableNames.length + 2 := length_of_search hsearch
  have hplace : echoTemplate.variableNames.idxOf "message" + 1 = 1 := by decide
  rw [hm, Option.bind_some, Template.first?_of_count hcount (by decide) (by decide), hplace,
    textOf_echo hsearch, String.ofList_toList]

theorem accepts_echo_iff {body : String} :
    echoPattern.accepts (some body) ↔ ∃ args reply, Command body "echo" args reply := by
  rw [echoPattern, FacetPattern.accepts_template_iff (by decide), isMatch_echoTemplate]
  constructor
  · rintro ⟨text, rfl, hline⟩
    exact ⟨_, _, .echo hline⟩
  · rintro ⟨args, reply, h⟩
    generalize hidentity : "echo" = identity at h
    cases h with
    | echo hline => exact ⟨_, rfl, hline⟩
    | greet | help => simp at hidentity

-- ════════════════════════════════════════════════════════════════════════
-- Greeting
-- ════════════════════════════════════════════════════════════════════════

/-- The template of the greeting. -/
def greetTemplate : Template :=
  ⟨"my name is \x7bname\x7d", [.literal "my name is ", .placeholder ⟨"name", none⟩],
    (Template.tree [.literal "my name is ", .placeholder ⟨"name", none⟩]).between⟩

/-- The pattern for the greeting. -/
def greetPattern : FacetPattern :=
  ⟨"my name is \x7bname\x7d", none, some greetTemplate⟩

theorem compile_greetTemplate :
    Template.compile "my name is \x7bname\x7d" = .ok greetTemplate := by
  decide +kernel

theorem compile_greet : FacetPattern.compile "my name is \x7bname\x7d" = .ok greetPattern := by
  decide +kernel

theorem readable_greetTemplate : ∀ c ∈ greetTemplate.chunks, c.Readable := by
  rintro c (_ | ⟨_, _ | ⟨_, ⟨⟩⟩⟩)
  · show ∀ c ∈ "my name is ".toList, c ∉ meaningful
    simp [meaningful]
  · intro c hc
    cases hc

theorem parses_greetTemplate {input remainder : List Char} {values : List (List Char)} :
    Template.Parses greetTemplate.chunks input values remainder ↔
      ∃ name, values = [name] ∧ name ≠ [] ∧ '/' ∉ name ∧
        input = "my name is ".toList ++ name ++ remainder ∧ IsRemainder remainder := by
  have hstem (name : List Char) :
      Chunk.stem greetTemplate.chunks [name] = "my name is ".toList ++ name := by
    rw [Chunk.stem, if_neg (by decide)]
    exact congrArg _ (List.append_nil name)
  constructor
  · rintro ⟨hadmitted, htext, hremainder⟩
    obtain ⟨name, _, ⟨hname, hslash⟩, hnil, rfl⟩ := List.forall₂_cons_left_iff.mp hadmitted
    cases hnil
    exact ⟨name, rfl, hname, hslash, by rw [← hstem]; exact htext, hremainder⟩
  · rintro ⟨name, rfl, hname, hslash, htext, hremainder⟩
    exact ⟨.cons ⟨hname, hslash⟩ .nil, by rw [hstem]; exact htext, hremainder⟩

/-- A greeting is read with its name. -/
theorem parses_greeting {name rest : String} (hname : name ≠ "") (hslash : '/' ∉ name.toList)
    (hrest : IsRemainder rest.toList) :
    Template.Parses greetTemplate.chunks ("my name is " ++ name ++ rest).toList [name.toList]
      rest.toList := by
  refine parses_greetTemplate.mpr ⟨name.toList, rfl, ?_, hslash, ?_, hrest⟩
  · rwa [ne_eq, String.toList_eq_nil_iff]
  · rw [String.toList_append, String.toList_append]

theorem accepts_greet_iff {body : String} :
    greetPattern.accepts (some body) ↔ ∃ args reply, Command body "greet" args reply := by
  rw [greetPattern, FacetPattern.accepts_template_iff (by decide),
    Template.isMatch_iff_parses compile_greetTemplate readable_greetTemplate]
  constructor
  · rintro ⟨values, rest, hparses⟩
    obtain ⟨name, -, hname, hslash, hbody, hrest⟩ := parses_greetTemplate.mp hparses
    obtain rfl : body = "my name is " ++ String.ofList name ++ String.ofList rest :=
      String.toList_inj.mp (by simp [hbody])
    refine ⟨_, _, .greet ?_ (by rwa [String.toList_ofList]) (by rwa [String.toList_ofList])⟩
    rwa [ne_eq, String.ofList_eq_empty_iff]
  · rintro ⟨args, reply, h⟩
    generalize hidentity : "greet" = identity at h
    cases h with
    | greet hname hslash hrest => exact ⟨_, _, parses_greeting hname hslash hrest⟩
    | echo | help => simp at hidentity

theorem captures_greet {name rest : String} (hname : name ≠ "") (hslash : '/' ∉ name.toList)
    (hrest : IsRemainder rest.toList) :
    (greetTemplate.matchInput (some ("my name is " ++ name ++ rest))).bind
      (fun m => m.first? "name") = some name := by
  refine Template.first?_of_parses (p := ⟨"name", none⟩) compile_greetTemplate
    readable_greetTemplate (.head _) (by decide) ?_ fun values remainder hparses => ?_
  · exact ⟨_, _, parses_greeting hname hslash hrest⟩
  · obtain ⟨v, rfl, -, hv, hbody, hremainder⟩ := parses_greetTemplate.mp hparses
    rw [String.toList_append, String.toList_append, List.append_assoc, List.append_assoc] at hbody
    have hsame := congrArg (List.takeWhile (· ≠ '/')) (List.append_cancel_left hbody)
    rw [hrest.takeWhile_append hslash, hremainder.takeWhile_append hv] at hsame
    simp [← hsame, Template.valuesOf, Template.placeholders, greetTemplate, Chunk.placeholders]

-- ════════════════════════════════════════════════════════════════════════
-- The list of commands
-- ════════════════════════════════════════════════════════════════════════

/-- The template of the command to list the commands. -/
def helpTemplate : Template :=
  ⟨"help", [.literal "help"], (Template.tree [.literal "help"]).between⟩

/-- The pattern for the command to list the commands. -/
def helpPattern : FacetPattern :=
  ⟨"help", some (cats ("help".toList.map char)).between, some helpTemplate⟩

theorem compile_helpTemplate : Template.compile "help" = .ok helpTemplate := by
  decide +kernel

theorem compile_help : FacetPattern.compile "help" = .ok helpPattern := by
  decide +kernel

theorem isMatch_helpTemplate (body : String) :
    helpTemplate.isMatch body ↔
      ∃ rest : String, body = "help" ++ rest ∧ IsRemainder rest.toList := by
  have hplain : ∀ c ∈ "help".toList, c ∉ meaningful := by simp [meaningful]
  rw [Template.isMatch_iff_of_literal compile_helpTemplate rfl hplain (by decide)]
  constructor
  · rintro ⟨rest, hbody, hrest⟩
    exact ⟨String.ofList rest, String.toList_inj.mp (by simp [hbody]),
      by rwa [String.toList_ofList]⟩
  · rintro ⟨rest, rfl, hrest⟩
    exact ⟨rest.toList, String.toList_append, hrest⟩

/-- The reading as a regular expression accepts the command without a remainder. -/
theorem isMatch_helpRegex (body : String) :
    (cats ("help".toList.map char)).between.isMatch body.toList ↔ body = "help" := by
  have hparse : parse? "help".toList = some (cats ("help".toList.map char)) := by decide +kernel
  have hanchored : anchored? "help".toList = some (cats ("help".toList.map char)).between := by
    decide +kernel
  rw [isMatch_anchored hparse hanchored, matchesWhole_chars, String.toList_inj]

theorem accepts_help_iff {body : String} :
    helpPattern.accepts (some body) ↔ ∃ args reply, Command body "help" args reply := by
  rw [FacetPattern.accepts_some_iff (by decide)]
  constructor
  · rintro (⟨_, ⟨⟩, hmatch⟩ | ⟨_, ⟨⟩, hmatch⟩)
    · obtain rfl := (isMatch_helpRegex body).mp hmatch
      have hhelp : Command ("help" ++ "") "help" ⟨[]⟩ ChatCommands.help := .help (.inl rfl)
      exact ⟨_, _, hhelp⟩
    · obtain ⟨rest, rfl, hrest⟩ := (isMatch_helpTemplate body).mp hmatch
      exact ⟨_, _, .help hrest⟩
  · rintro ⟨args, reply, h⟩
    generalize hidentity : "help" = identity at h
    cases h with
    | @help rest hrest =>
      exact .inr ⟨helpTemplate, rfl, (isMatch_helpTemplate _).mpr ⟨rest, rfl, hrest⟩⟩
    | echo | greet => simp at hidentity

-- ════════════════════════════════════════════════════════════════════════
-- The handlers
-- ════════════════════════════════════════════════════════════════════════

/-- The handlers of the bot, in the order of their identities. -/
def handlers : List (Handler γ) :=
  [echo.withPattern bodyFacet echoPattern false, greet.withPattern bodyFacet greetPattern false,
    helpCommand.withPattern bodyFacet helpPattern false]

theorem built_registrations :
    Registration.built false (roster : Roster γ).registrations = handlers := by
  have hecho := Registration.build_withPattern (r := (echo : Registration γ)) rfl compile_echo false
  have hgreet := Registration.build_withPattern (r := (greet : Registration γ)) rfl compile_greet
    false
  have hhelp := Registration.build_withPattern (r := (helpCommand : Registration γ)) rfl
    compile_help false
  simp only [Registration.built, roster, List.filterMap_cons, List.filterMap_nil, hecho, hgreet,
    hhelp, Except.toOption, handlers]

theorem candidates_eq (m : Message) :
    selectCandidates m (group : Group γ).handlers = handlers.filter fun h => h.accepts m := by
  have hordered : (roster : Roster γ).registrations.Pairwise
      fun r r' => r.identity ≤ r'.identity := by
    simp [roster, echo, greet, helpCommand]
  rw [group, Roster.candidates_of_pairwise hordered]
  exact congrArg _ built_registrations

variable {m : Message} {body identity reply : String} {args : Args}

/-- A handler accepts the bodies that are its commands. -/
theorem accepts_iff (hbody : m.get? bodyFacet = some body) {h : Handler γ} (hh : h ∈ handlers) :
    h.accepts m ↔ ∃ args reply, Command body h.identity args reply := by
  simp only [handlers, List.mem_cons, List.not_mem_nil, or_false] at hh
  obtain rfl | rfl | rfl := hh <;> rw [Registration.accepts_withPattern, hbody]
  · exact accepts_echo_iff
  · exact accepts_greet_iff
  · exact accepts_help_iff

theorem candidates_of_command (hbody : m.get? bodyFacet = some body)
    (h : Command body identity args reply) :
    selectCandidates m (group : Group γ).handlers =
      handlers.filter fun h => h.identity = identity := by
  rw [candidates_eq]
  refine List.filter_congr fun handler hh => ?_
  rw [Bool.eq_iff_iff, accepts_iff hbody hh, decide_eq_true_iff]
  constructor
  · rintro ⟨_, _, h'⟩
    exact h'.identity_unique h
  · rintro rfl
    exact ⟨_, _, h⟩

theorem candidates_of_none (hbody : m.get? bodyFacet = some body)
    (hnone : ¬∃ identity args reply, Command body identity args reply) :
    selectCandidates m (group : Group γ).handlers = [] := by
  rw [candidates_eq, List.filter_eq_nil_iff]
  intro handler hh haccepts
  exact hnone ⟨_, (accepts_iff hbody hh).mp haccepts⟩

/-- A handler that takes one text gets the text that its template captures. -/
theorem bindParameters_text {r : Registration γ} {name text : String} {p : FacetPattern}
    (hbindings : r.bindings = [.capture bodyFacet name .text])
    (htext : (p.captures (m.get? bodyFacet)).bind (fun t => t.first? name) = some text) :
    bindParameters m (r.withPattern bodyFacet p false) = .ok ⟨[.text text]⟩ := by
  rw [bindParameters_eq_ok_iff, show (r.withPattern bodyFacet p false).bindings = _ from hbindings]
  refine .cons ?_ .nil
  change convert (((r.withPattern bodyFacet p false).captures m bodyFacet).bind
    fun t => t.first? name) .text = _
  rw [Registration.captures_withPattern, htext, convert_text]

/-- The handler of a command is the only candidate, and replies to the arguments that it gets. -/
theorem exists_candidate (hbody : m.get? bodyFacet = some body)
    (h : Command body identity args reply) :
    ∃ handler : Handler γ, selectCandidates m (group : Group γ).handlers = [handler] ∧
      handler.identity = identity ∧ bindParameters m handler = .ok args ∧
      handler.action args = .text reply := by
  rw [candidates_of_command hbody h]
  cases h with
  | echo hline =>
    refine ⟨echo.withPattern bodyFacet echoPattern false, rfl, rfl, ?_, rfl⟩
    refine bindParameters_text rfl ?_
    rw [hbody]
    exact captures_echo hline
  | greet hname hslash hrest =>
    refine ⟨greet.withPattern bodyFacet greetPattern false, rfl, rfl, ?_, rfl⟩
    refine bindParameters_text rfl ?_
    rw [hbody]
    exact captures_greet hname hslash hrest
  | help hrest => exact ⟨helpCommand.withPattern bodyFacet helpPattern false, rfl, rfl, rfl, rfl⟩

-- ════════════════════════════════════════════════════════════════════════
-- What comes of a body
-- ════════════════════════════════════════════════════════════════════════

/-- A body that is a command is delivered to its handler and to no other, which replies unless the
hook refuses it; any other body is for no handler. Whatever the body is, no handler fails: only the
hook keeps a command from its reply. -/
theorem commands_are_answered (d : Dispatcher γ) (m : Message) (body : String)
    (hbody : m.get? bodyFacet = some body) :
    let run := d.dispatch m group
    (∀ identity args reply, Command body identity args reply →
      ∃ h ∈ (group : Group γ).handlers, h.identity = identity ∧
        (d.hook.refusal h = none →
          deliveryEvents run.events = [.before identity, .called identity args, .after identity] ∧
            run.result = .ok (.invoked [⟨identity, .ok (.text reply)⟩])) ∧
        ∀ reason, d.hook.refusal h = some reason →
          deliveryEvents run.events = [.before identity, .after identity] ∧
            run.result = .ok (.invoked [⟨identity, .error (.delivery identity reason)⟩])) ∧
    ((¬∃ identity args reply, Command body identity args reply) →
      deliveryEvents run.events = [] ∧ run.result = .ok .noMatch) ∧
    ∃ o, run.result = .ok o ∧ ∀ e ∈ o.failures, ∃ h ∈ (group : Group γ).handlers, ∃ reason,
      d.hook.refusal h = some reason ∧ e = .delivery h.identity reason := by
  intro run
  have hcommand : ∀ identity args reply, Command body identity args reply →
      ∃ h ∈ (group : Group γ).handlers, h.identity = identity ∧
        (d.hook.refusal h = none →
          deliveryEvents run.events = [.before identity, .called identity args, .after identity] ∧
            run.result = .ok (.invoked [⟨identity, .ok (.text reply)⟩])) ∧
        ∀ reason, d.hook.refusal h = some reason →
          deliveryEvents run.events = [.before identity, .after identity] ∧
            run.result = .ok (.invoked [⟨identity, .error (.delivery identity reason)⟩]) := by
    intro identity args reply h
    obtain ⟨handler, hcandidates, rfl, hbind, haction⟩ := exists_candidate (γ := γ) hbody h
    have hmem : handler ∈ selectCandidates m (group : Group γ).handlers := by
      rw [hcandidates]
      exact List.mem_singleton_self handler
    refine ⟨handler, (mem_selectCandidates.mp hmem).1, rfl, fun hlets => ?_,
      fun reason hrefusal => d.dispatch_of_refused (g := group) rfl hcandidates hrefusal⟩
    obtain ⟨hevents, hresult⟩ :=
      d.dispatch_of_bound (g := group) rfl hcandidates hlets hbind
    rw [haction] at hevents hresult
    exact ⟨hevents, hresult⟩
  have hother : (¬∃ identity args reply, Command body identity args reply) →
      deliveryEvents run.events = [] ∧ run.result = .ok .noMatch := by
    intro hnone
    have hcandidates := candidates_of_none (γ := γ) hbody hnone
    exact ⟨d.deliveryEvents_of_nil hcandidates, d.dispatch_of_nil hcandidates⟩
  refine ⟨hcommand, hother, ?_⟩
  by_cases h : ∃ identity args reply, Command body identity args reply
  · obtain ⟨identity, args, reply, h⟩ := h
    obtain ⟨handler, hmem, rfl, hlets, hrefuses⟩ := hcommand identity args reply h
    cases hrefusal : d.hook.refusal handler with
    | none => exact ⟨_, (hlets hrefusal).2, nofun⟩
    | some reason =>
      refine ⟨_, (hrefuses reason hrefusal).2, fun e he => ?_⟩
      exact ⟨handler, hmem, reason, hrefusal, List.mem_singleton.mp he⟩
  · exact ⟨_, (hother h).2, nofun⟩

/-- A name that is followed by a slash. -/
theorem name_before_slash_is_greeted :
    let d : Dispatcher Unit := {}
    let m : Message := ({ channel := "chat" } : Message).insert bodyFacet "my name is Ann/Bob"
    m.get? bodyFacet = some "my name is Ann/Bob" ∧
      (d.dispatch m group).result =
        .ok (.invoked [⟨"greet", .ok (.text "Hello Ann, it is very nice to meet you")⟩]) := by
  intro d m
  have hbody : m.get? bodyFacet = some "my name is Ann/Bob" := by decide
  have hcommand : Command ("my name is " ++ "Ann" ++ "/Bob") "greet" ⟨[.text "Ann"]⟩
      ("Hello " ++ "Ann" ++ ", it is very nice to meet you") :=
    .greet (by decide) (by decide) (.inr ⟨"Bob".toList, rfl, by decide⟩)
  obtain ⟨h, -, -, hreplies, -⟩ := (commands_are_answered d m _ hbody).1 _ _ _ hcommand
  exact ⟨hbody, (hreplies rfl).2⟩

end Parley.ChatCommands
