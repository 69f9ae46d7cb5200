import PagePilot.Chromium.Browser
import PagePilot.Decimal.Layout
import PagePilot.Simulation.FileSystem
import PagePilot.Simulation.Stage

/-!
# A simulated browser

A stand-in for Chromium and the file system: every operation is noted as an event, may have a
prepared outcome, and otherwise succeeds.

## Main definitions

- `Simulation.BrowserParts` - the browsers that were started, and the files of the screenshots
- `Simulation.browser` - the operations
-/

namespace PagePilot.Simulation

open Chromium (BrowserId TabId LaunchSettings Op)

/-- What the simulated browser consists of. -/
structure BrowserParts where
  /-- How many tabs each of the browsers has. -/
  tabCounts : Array Nat := #[]
  disk : FileSystem := {}

/-- A stage with browsers. -/
abbrev BrowserStage := Stage String BrowserParts

/-- Notes an operation with its named details and takes its outcome. -/
def operation (name : String) (details : List (String × Json)) : Op BrowserStage (Option Json) := do
  Stage.record name [.obj details]
  Stage.outcome name

/-- A duration as seconds and nanoseconds. -/
def durationJson (d : Duration) : Json := .arr [.nat d.seconds, .nat d.subsecond]

/-- A text or `null`. -/
def optionalJson : Option String → Json
  | none => .null
  | some s => .str s

/-- The member of a prepared value. -/
def member? (key : String) : Option Json → Option Json
  | some (.obj members) => Json.lookup key members
  | _ => none

/-- Starts a browser; a prepared value may say how many tabs it has. -/
def start (settings : LaunchSettings) : Op BrowserStage BrowserId := do
  let prepared ← operation "browser.new"
    [("args", .arr (settings.args.map Json.str)),
     ("headless", .bool settings.headless),
     ("sandbox", .bool settings.sandbox),
     ("window_size",
       .arr [.nat settings.windowSize.1.toNat, .nat settings.windowSize.2.toNat]),
     ("ignore_certificate_errors", .bool settings.ignoreCertificateErrors),
     ("path", optionalJson settings.path),
     ("user_data_dir", optionalJson settings.userDataDir),
     ("idle_timeout", durationJson settings.idleTimeout)]
  let tabs := ((member? "initial_tabs" prepared).bind Json.asNat?).getD 0
  let stage : BrowserStage ← get
  set ({ stage with
    parts := { stage.parts with tabCounts := stage.parts.tabCounts.push tabs } } : BrowserStage)
  return stage.parts.tabCounts.size

/-- Opens a tab, numbered by the tabs before it. -/
def newTab (id : BrowserId) : Op BrowserStage TabId := do
  let _ ← operation "browser.new_tab" []
  let stage : BrowserStage ← get
  let count := stage.parts.tabCounts.getD id 0
  set ({ stage with
    parts := { stage.parts with tabCounts := stage.parts.tabCounts.setIfInBounds id (count + 1) } }
    : BrowserStage)
  return count

/-- Lists the tabs. A prepared failure leaves a list that nobody can look at any more. -/
def tabs (id : BrowserId) : Op BrowserStage (List TabId) := fun stage =>
  match (operation "browser.get_tabs" []).run stage with
  | .ok _ stage => .ok (List.range (stage.parts.tabCounts.getD id 0)) stage
  | .error (.failed _) stage =>
    .error (.failed "poisoned lock: another task failed inside") stage
  | .error fault stage => .error fault stage

/-- An operation on a tab that gives nothing. -/
def onTab (name : String) (tab : TabId) (details : List (String × Json)) :
    Op BrowserStage Unit := do
  let _ ← operation name (("tab", .nat tab) :: details)

/-- Evaluates an expression. Unless something else is prepared, the value is the text of an
evaluation that gives `null`. -/
def evaluateExpression (tab : TabId) (expression : String) : Op BrowserStage (Option Json) := do
  match ← operation "tab.evaluate"
    [("tab", .nat tab), ("expression", .str expression), ("await_promise", .bool false)] with
  | none => return some (.str "\x7b\"value\":null\x7d")
  | prepared => return member? "value" prepared

/-- Takes a picture. -/
def captureScreenshot (tab : TabId) : Op BrowserStage String := do
  let prepared ← operation "tab.capture_screenshot"
    [("tab", .nat tab), ("format", .str "Png"), ("quality", .null), ("clip", .bool false),
     ("from_surface", .bool true)]
  return (prepared.bind Json.asText?).getD "PNG"

/-- Writes a file. -/
def writeFile (path content : String) : Op BrowserStage Unit := fun stage =>
  match stage.parts.disk.write path content with
  | .ok disk => .ok () { stage with parts := { stage.parts with disk := disk } }
  | .error cause => .error (.failed cause) stage

/-- The operations of the simulated browser. -/
def browser : Chromium.Browser BrowserStage where
  start := start
  newTab := newTab
  tabs := tabs
  release _ := do
    let _ ← operation "browser.drop" []
  navigateTo tab url := onTab "tab.navigate_to" tab [("url", .str url)]
  waitUntilNavigated tab := onTab "tab.wait_until_navigated" tab []
  setBounds tab width height :=
    onTab "tab.set_bounds" tab
      [("left", .nat 0), ("top", .nat 0), ("width", .str (toString width)),
       ("height", .str (toString height))]
  clickPoint tab x y :=
    onTab "tab.click_point" tab
      [("x", .str (Decimal.plainText x)), ("y", .str (Decimal.plainText y))]
  close tab := onTab "tab.close" tab [("fire_unload", .bool false)]
  evaluate := evaluateExpression
  captureScreenshot := captureScreenshot
  writeFile := writeFile

end PagePilot.Simulation
