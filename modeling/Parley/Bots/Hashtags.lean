import Parley.Dispatch

/-!
# The hashtag bot

Cheers for each of its tags that a post contains, and logs the post under that tag.

## Main definitions

- `Hashtags.cheer` — the handler of a tag
- `Hashtags.roster`, `Hashtags.group` — the bot
-/

namespace Parley.Hashtags

variable {γ : Type}

/-- Replies to posts that contain a tag. -/
def cheer (tag reply : String) : Registration γ :=
  { identity := tag
    patterns := [(textFacet, ".*#" ++ tag ++ ".*")]
    bindings := [.whole textFacet .text, .whole userFacet .text]
    action := fun args =>
      .withValue (args.text 0) fun status =>
        .withValue (args.text 1) fun user =>
          { events := [.logged ⟨.info, "New status",
              [("tag", tag), ("status", status), ("user", user)]⟩]
            ending := .reply (.text reply) } }

/-- The registrations of the bot, all of which are invoked if they match. -/
def roster : Roster γ :=
  { name := "hashtags"
    invokeAll := true
    registrations :=
      [cheer "async" "#async all the way down",
        cheer "rust" "#rust is awesome",
        cheer "tokio" "#tokio is where the cool runtimes showcase"] }

/-- The bot. -/
def group : Group γ :=
  roster.build

end Parley.Hashtags
