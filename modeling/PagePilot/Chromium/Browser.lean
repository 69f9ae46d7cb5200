import PagePilot.Chromium.Launch
import PagePilot.Json.Basic

/-!
# The browser underneath

What Chromium and the file system offer, as operations over a state that is not looked into. Every
operation may fail with a text.

## Main definitions

- `Chromium.BrowserId`, `Chromium.TabId` - running browsers and their tabs
- `Chromium.Browser` - the operations
-/

namespace PagePilot.Chromium

/-- A running browser. -/
abbrev BrowserId := Nat

/-- A tab of a browser. -/
abbrev TabId := Nat

/-- An operation that may fail with a text. -/
abbrev Op (τ α : Type) := EStateM (Fault String) τ α

/-- What Chromium and the file system offer. -/
structure Browser (τ : Type) where
  start : LaunchSettings → Op τ BrowserId
  newTab : BrowserId → Op τ TabId
  /-- All tabs of a browser, in the order in which they were opened. -/
  tabs : BrowserId → Op τ (List TabId)
  /-- Ends the browser's process. -/
  release : BrowserId → Op τ Unit
  navigateTo : TabId → (url : String) → Op τ Unit
  waitUntilNavigated : TabId → Op τ Unit
  /-- Gives the window of a tab a size. -/
  setBounds : TabId → (width height : UInt32) → Op τ Unit
  clickPoint : TabId → (x y : Float) → Op τ Unit
  /-- Closes a tab without asking the page. -/
  close : TabId → Op τ Unit
  /-- The value of an expression, if it has one that can be passed on. -/
  evaluate : TabId → (expression : String) → Op τ (Option Json)
  /-- The picture of a tab. -/
  captureScreenshot : TabId → Op τ String
  writeFile : (path content : String) → Op τ Unit

end PagePilot.Chromium
