import PagePilot.Chromium.Engine

/-!
# Histories of an engine

What an engine is asked for after its launch, one request after the other, with what each of them
found, answered and left. The calls to the browser are taken down beside it.

## Main definitions

- `Chromium.BrowserCall`, `Chromium.Note` - the calls to a browser, and how they have ended
- `Chromium.Browser.noting` - a browser that takes down its calls
- `Chromium.Held` - an engine and its browser
- `Chromium.Request`, `Chromium.fulfil` - what an engine can be asked for, and what it does then
- `Chromium.serve`, `Chromium.history` - serving one request, and one after the other
- `Chromium.after` - where requests lead
-/

namespace PagePilot

namespace Host

variable {ε σ α : Type}

/-- What a call answers. -/
def outcome (call : Host ε σ α) (w : Hosted σ) : Except (Fault ε) α :=
  match call.run w with
  | .ok a _ => .ok a
  | .error fault _ => .error fault

/-- The outside that a call leaves. -/
def leaves (call : Host ε σ α) (w : Hosted σ) : Hosted σ :=
  match call.run w with
  | .ok _ w₁ | .error _ w₁ => w₁

end Host

namespace Chromium

variable {τ α : Type}

section Notes

/-- A call to a browser. -/
inductive BrowserCall
  | start (settings : LaunchSettings)
  | newTab (id : BrowserId)
  | tabs (id : BrowserId)
  | release (id : BrowserId)
  | navigateTo (tab : TabId) (url : String)
  | waitUntilNavigated (tab : TabId)
  | setBounds (tab : TabId) (width height : UInt32)
  | clickPoint (tab : TabId) (x y : Float)
  | close (tab : TabId)
  | evaluate (tab : TabId) (expression : String)
  | captureScreenshot (tab : TabId)
  | writeFile (path content : String)

/-- A call that has been made, and the fault that it has run into. -/
structure Note where
  call : BrowserCall
  fault : Option (Fault String)

/-- Takes an operation down as a call. -/
def noted (call : BrowserCall) (op : Op τ α) : Op (τ × List Note) α := fun (host, notes) =>
  match op.run host with
  | .ok a host => .ok a (host, notes ++ [⟨call, none⟩])
  | .error fault host => .error fault (host, notes ++ [⟨call, some fault⟩])

/-- The browser with notes on all its calls. -/
def Browser.noting (browser : Browser τ) : Browser (τ × List Note) where
  start settings := noted (.start settings) (browser.start settings)
  newTab id := noted (.newTab id) (browser.newTab id)
  tabs id := noted (.tabs id) (browser.tabs id)
  release id := noted (.release id) (browser.release id)
  navigateTo tab url := noted (.navigateTo tab url) (browser.navigateTo tab url)
  waitUntilNavigated tab := noted (.waitUntilNavigated tab) (browser.waitUntilNavigated tab)
  setBounds tab width height :=
    noted (.setBounds tab width height) (browser.setBounds tab width height)
  clickPoint tab x y := noted (.clickPoint tab x y) (browser.clickPoint tab x y)
  close tab := noted (.close tab) (browser.close tab)
  evaluate tab expression := noted (.evaluate tab expression) (browser.evaluate tab expression)
  captureScreenshot tab := noted (.captureScreenshot tab) (browser.captureScreenshot tab)
  writeFile path content := noted (.writeFile path content) (browser.writeFile path content)

end Notes

/-- What an engine can be asked for. -/
inductive Request
  | createPage
  | exit
deriving DecidableEq

/-- The type of what a request gives. -/
def Request.Answer : Request → Type
  | .createPage => TabId
  | .exit => Unit

/-- An engine and the browser that it works with. -/
structure Held (τ : Type) where
  inner : τ
  engine : Engine

namespace Held

/-- The engine and its browser with notes beside the browser. -/
def beside (held : Held τ) (notes : List Note) : Held (τ × List Note) :=
  ⟨(held.inner, notes), held.engine⟩

/-- Runs an operation on the browser. -/
def within (op : Host Failure τ α) : Host Failure (Held τ) α := fun w =>
  match op.run ⟨w.host.inner, w.records⟩ with
  | .ok a after => .ok a ⟨{ w.host with inner := after.host }, after.records⟩
  | .error fault after => .error fault ⟨{ w.host with inner := after.host }, after.records⟩

/-- Takes the browser away from the engine. -/
def take : Host Failure (Held τ) Engine := fun w =>
  .ok w.host.engine { w with host := { w.host with engine := .exited } }

end Held

variable (browser : Browser τ)

/-- Does what a request asks for. An exit takes the browser away before anything can go wrong. -/
def fulfil : (request : Request) → Host Failure (Held τ) request.Answer
  | .createPage => do
    let engine := (← get).host.engine
    Held.within (engine.createPage browser)
  | .exit => do
    let engine ← Held.take
    Held.within (engine.exit browser)

/-- A request that has been served, with notes on the calls to the browser. -/
structure Served (τ : Type) where
  request : Request
  before : Hosted (Held τ)
  answer : Except (Fault Failure) request.Answer
  calls : List Note
  after : Hosted (Held τ)

/-- Serves a request. -/
def serve (w : Hosted (Held τ)) (request : Request) : Served τ where
  request := request
  before := w
  answer := (fulfil browser request).outcome w
  calls := ((fulfil browser.noting request).leaves ⟨w.host.beside [], w.records⟩).host.inner.2
  after := (fulfil browser request).leaves w

/-- Serves requests one after the other, whatever they are answered. -/
def history (w : Hosted (Held τ)) : List Request → List (Served τ)
  | [] => []
  | request :: rest =>
    let served := serve browser w request
    served :: history served.after rest

/-- Where requests lead. -/
def after (w : Hosted (Held τ)) (requests : List Request) : Hosted (Held τ) :=
  requests.foldl (fun w request => (serve browser w request).after) w

end Chromium

end PagePilot
