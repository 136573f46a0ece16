import Parley.Dispatch

/-!
# The knock-knock bot

Plays the listener in knock-knock jokes. A joke goes through three groups: the opening, the
question who is there, and the punchline.

## Main definitions

- `KnockKnock.roster` — the opening, given the names of the group after it
- `KnockKnock.whosThereRoster` — the question, given the name of the punchline's group
- `KnockKnock.punchlineRoster` — the end of the joke
-/

namespace Parley.KnockKnock

variable {γ : Type}

/-- The question after the opening. -/
def whosThere : String :=
  "Who's there?"

/-- The answer to an opening in capitals. -/
def loud : String :=
  "Not so loud, you're giving me a headache!"

/-- The answer to somebody who is at their own door. -/
def selfKnock : String :=
  "You know how knock knock jokes work, right?"

/-- The answer to the banana. -/
def banana : String :=
  "Orange you glad I didn't say Banana again.  Try again, who's there?"

/-- The answer to the punchline. -/
def punchline : String :=
  "Haha, lol. That's a good one, I'll have to remember that."

/-- The opening of a joke; `who` is the group of the question. -/
def roster (who : γ) : Roster γ :=
  { name := "knock_knock"
    registrations :=
      [{ identity := "knock_knock"
         patterns := [(textFacet, ".*[Kk]nock(,? |-)[Kk]nock.*")]
         action := fun _ =>
           .response { message := some whosThere, dialog := some (.group who) } },
        { identity := "loud_knock"
          patterns := [(textFacet, ".*KNOCK KNOCK.*")]
          action := fun _ => .text loud }] }

/-- The question who is there; `last` is the group of the punchline. -/
def whosThereRoster (last : γ) : Roster γ :=
  { name := "whos_there"
    registrations :=
      [{ identity := "orange"
         patterns := [(textFacet, "(?i)Banana")]
         action := fun _ => .response { message := some banana, dialog := some .current } },
        { identity := "who"
          patterns := [(textFacet, "\x7bwho\x7d")]
          bindings := [.capture textFacet "who" .text, .whole userFacet .text]
          action := fun args =>
            .withValue (args.text 0) fun who =>
              .withValue (args.text 1) fun user =>
                if who = user then .response { message := some selfKnock }
                else
                  .response { message := some (who ++ " who?"), dialog := some (.group last) } }] }

/-- The end of a joke, whatever is said. -/
def punchlineRoster : Roster γ :=
  { name := "punchline"
    registrations :=
      [{ identity := "punchline"
         patterns := [(textFacet, "")]
         action := fun _ => .text punchline }] }

end Parley.KnockKnock
