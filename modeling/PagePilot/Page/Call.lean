import PagePilot.Json.Basic
import PagePilot.Page.Function

/-!
# Calls to a page

The operations that an engine offers on its page, as data.

## Main definitions

- `PageCall` - the operations with their arguments
- `PageCall.Answer` - the type of what each of them gives
-/

namespace PagePilot

/-- An operation on a page. -/
inductive PageCall
  /-- Go to a URL and wait until it has loaded. -/
  | navigate (url : String)
  /-- Call a function inside the page. -/
  | evaluate (function : String) (args : List Json)
  | setViewport (width height : UInt32)
  /-- Write a picture of the page to a file. -/
  | render (path : String)
  /-- Click at a position of the page. -/
  | clickAt (x y : Float)

/-- What an operation gives: an evaluation its result, the others nothing. -/
def PageCall.Answer : PageCall → Type
  | .evaluate _ _ => Json
  | .navigate _ => Unit
  | .setViewport _ _ => Unit
  | .render _ => Unit
  | .clickAt _ _ => Unit

end PagePilot
