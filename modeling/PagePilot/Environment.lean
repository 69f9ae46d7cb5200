import PagePilot.Host
import PagePilot.Launch
import PagePilot.Page.Call

/-!
# The environment of a session

Everything that a session meets but does not decide: the engine and its page, and the clock.

## Main definitions

- `Environment` - what the outside answers

## Design notes

An engine, its page and the clock are not handed around as values: there is one of each, and they
are parts of the host, whose type `σ` is left open.
-/

namespace PagePilot

/-- What the outside answers to a session. -/
structure Environment (σ : Type) where
  /-- Starts the engine. -/
  launch : LaunchParams → Host Failure σ Unit
  /-- Opens the page of the engine. -/
  createPage : Host Failure σ Unit
  /-- Shuts the engine down. -/
  exit : Host Failure σ Unit
  /-- Does something on the page. -/
  call : (call : PageCall) → Host Failure σ call.Answer
  /-- The time since some fixed origin. -/
  now : σ → Duration × σ
  sleep : Duration → Host Failure σ Unit

end PagePilot
