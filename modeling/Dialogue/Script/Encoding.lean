import Dialogue.Json.Decode
import Dialogue.Script.Effects

namespace Dialogue.Script

open Json

/-!
# Page contexts as JSON

* `ClientContext.ofJson`: what is known about a page; every field may be left out.
* `Mode.ofJson`: which globals a script sees.
-/

/-- The written names of modes. -/
def Mode.names : List (String × Mode) := [("client", .client), ("server", .server)]

/-- A mode from JSON. -/
def Mode.ofJson : Json → Decoded Mode := variant false Mode.names

/-- What is known about a page, from JSON. -/
def ClientContext.ofJson : Json → Decoded ClientContext :=
  asRecord ["url", "userAgent", "language", "referrer", "title"] fun r =>
    ClientContext.mk <$> r.defaulted "url" "" asText <*> r.defaulted "userAgent" "" asText
      <*> r.defaulted "language" "" asText <*> r.defaulted "referrer" "" asText
      <*> r.defaulted "title" "" asText

end Dialogue.Script
