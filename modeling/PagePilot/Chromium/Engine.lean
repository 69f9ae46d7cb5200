import PagePilot.Chromium.Browser
import PagePilot.Chromium.Evaluation
import PagePilot.Decimal.Layout
import PagePilot.Environment

/-!
# Chromium as an engine

The operations of an engine and its page in terms of those of the browser. Each failure of the
browser is told as a failure of the step that needed it.

## Main definitions

- `Chromium.Engine` - a browser, until it is released
- `Chromium.launch`, `Chromium.Engine.createPage`, `Chromium.Engine.exit` - its life
- `Chromium.perform` - an operation on a page
- `Chromium.environment` - a session's environment
-/

namespace PagePilot

namespace Chromium

variable {τ : Type} (browser : Browser τ)

/-- A running browser; none after it has been released. -/
structure Engine where
  running : Option BrowserId
deriving DecidableEq, Repr

/-- Starts the browser and warns of flags that it does not know. -/
def launch (options : Options) (params : LaunchParams) : Host Failure τ Engine := do
  warnUnsupported params
  let id ← Host.lift Failure.launchFailed (browser.start (options.settings params))
  return ⟨some id⟩

namespace Engine

/-- Opens a tab. -/
def createPage (engine : Engine) : Host Failure τ TabId :=
  match engine.running with
  | none => throw (.failed .sessionClosed)
  | some id =>
    Host.lift (fun cause => .launchFailed ("Failed to create tab: " ++ cause)) (browser.newTab id)

/-- Closes tabs in order and warns of each that cannot be closed. -/
def closeTabs : List TabId → Host Failure τ Unit
  | [] => pure ()
  | tab :: rest => do
    match ← Host.attempt (browser.close tab) with
    | .ok _ => pure ()
    | .error cause => Host.warn ("Failed to close tab: " ++ cause)
    closeTabs rest

/-- Closes all tabs and releases the browser. An engine without a browser has nothing to do. -/
def exit (engine : Engine) : Host Failure τ Unit :=
  match engine.running with
  | none => pure ()
  | some id =>
    Host.andThen
      (do
        let tabs ← Host.lift (fun cause => Failure.engine ("Failed to get tabs: " ++ cause))
          (browser.tabs id)
        closeTabs browser tabs)
      (do
        let _ ← Host.attempt (browser.release id)
        pure ())

/-- The engine after `exit`, whether that succeeded or not. -/
def exited : Engine := ⟨none⟩

end Engine

/-- Goes to a URL and waits until it has loaded. -/
def navigate (tab : TabId) (url : String) : Host Failure τ Unit := do
  Host.lift (fun cause => .navigationFailed ("Failed to navigate to " ++ url ++ ": " ++ cause))
    (browser.navigateTo tab url)
  Host.lift
    (fun cause => .navigationFailed ("Navigation to " ++ url ++ " did not complete: " ++ cause))
    (browser.waitUntilNavigated tab)

/-- Evaluates a function with its arguments. -/
def evaluate (tab : TabId) (function : String) (args : List Json) : Host Failure τ Json := do
  let answer ← Host.lift Failure.engine (browser.evaluate tab (evaluationScript function args))
  match decodeAnswer answer with
  | .ok value => pure value
  | .error failure => throw (.failed failure)

/-- Gives the page a size. -/
def setViewport (tab : TabId) (width height : UInt32) : Host Failure τ Unit :=
  Host.lift
    (fun cause => .engine ("Failed to set viewport to " ++ toString width ++ "x"
      ++ toString height ++ ": " ++ cause))
    (browser.setBounds tab width height)

/-- Writes a picture of the page to a file. -/
def render (tab : TabId) (path : String) : Host Failure τ Unit := do
  let picture ← Host.lift (fun cause => Failure.engine ("Failed to capture screenshot: " ++ cause))
    (browser.captureScreenshot tab)
  Host.lift (fun cause => .io ("Failed to write " ++ path ++ ": " ++ cause))
    (browser.writeFile path picture)

/-- Clicks the mouse at a position. -/
def clickAt (tab : TabId) (x y : Float) : Host Failure τ Unit :=
  Host.lift
    (fun cause => .engine ("Failed to send Click at (" ++ Decimal.plainText x ++ ", "
      ++ Decimal.plainText y ++ "): " ++ cause))
    (browser.clickPoint tab x y)

/-- An operation on the page in a tab. -/
def perform (tab : TabId) : (call : PageCall) → Host Failure τ call.Answer
  | .navigate url => navigate browser tab url
  | .evaluate function args => evaluate browser tab function args
  | .setViewport width height => setViewport browser tab width height
  | .render path => render browser tab path
  | .clickAt x y => clickAt browser tab x y

/-- A browser together with the engine and the page that a session has of it. -/
structure Machine (τ : Type) where
  inner : τ
  engine : Option Engine := none
  page : Option TabId := none

/-- Runs an operation on the browser of a machine. -/
def onInner (op : Host Failure τ α) : Host Failure (Machine τ) α := fun w =>
  match op.run ⟨w.host.inner, w.records⟩ with
  | .ok a after => .ok a ⟨{ w.host with inner := after.host }, after.records⟩
  | .error fault after => .error fault ⟨{ w.host with inner := after.host }, after.records⟩

/-- Changes the machine around the browser. -/
def change (f : Machine τ → Machine τ) : Host Failure (Machine τ) Unit :=
  modify fun w => { w with host := f w.host }

/-- A session's environment. Time passes as `clock` says. -/
def environment (options : Options) (now : τ → Duration × τ) (sleep : Duration → Op τ Unit) :
    Environment (Machine τ) where
  launch params := do
    let engine ← onInner (launch browser options params)
    change fun m => { m with engine := some engine }
  createPage := do
    match (← get).host.engine with
    | none => throw (.failed (.engine "engine is not running"))
    | some engine =>
      let tab ← onInner (engine.createPage browser)
      change fun m => { m with page := some tab }
  exit := do
    match (← get).host.engine with
    | none => pure ()
    | some engine =>
      change fun m => { m with engine := none, page := none }
      onInner (engine.exit browser)
  call call := do
    match (← get).host.page with
    | none => throw (.failed (.engine "page is not available"))
    | some tab => onInner (perform browser tab call)
  now machine :=
    match now machine.inner with
    | (time, inner) => (time, { machine with inner := inner })
  sleep d := onInner (Host.lift Failure.engine (sleep d))

end Chromium

end PagePilot
