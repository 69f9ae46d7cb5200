import PagePilot.Action.Execution
import PagePilot.Session.Chain

/-!
# What verbs are about

The calls before a verb settle what it queues. The ancestors of a scope are those that it was made
with, and its selection is the latest that has been made on it; a copy starts with the selection
that its original had at the time. All this is found by looking back over the calls, without a
scope that remembers anything.

## Main definitions

- `Past` - the calls made so far
- `Past.ancestors`, `Past.selection` - what they say about a scope
- `Past.contribution` - the actions that a verb queues after them
- `Past.actions` - the actions that a program of calls queues

## Main statements

- `Chain.call_fits` - every call leaves the scopes as the calls so far tell
- `scope_program_queues` - a program of calls queues exactly these actions
-/

namespace PagePilot

variable {σ : Type}

/-- The calls that have been made on the scopes of a session, the latest first. -/
abbrev Past (σ : Type) := List (Nat × ScopeCall σ)

/-- The call makes a scope. -/
def ScopeCall.makes : ScopeCall σ → Bool
  | .nest _ | .root | .nestRoot _ | .clone => true
  | .select _ | .tell _ => false

namespace Past

/-- How many scopes have been made. The first one is there from the beginning. -/
def made (past : Past σ) : Nat := past.countP (fun made => made.2.makes) + 1

/-- The selectors of the ancestors of a scope, the outermost first. -/
def ancestors : Past σ → Nat → List String
  | [], _ => []
  | (on, call) :: past, register =>
    if call.makes ∧ register = made past then
      match call with
      | .nest selector => ancestors past on ++ [selector]
      | .nestRoot selector => [selector]
      | .clone => ancestors past on
      | .root | .select _ | .tell _ => []
    else ancestors past register

/-- The latest selection that has been made on a scope. A copy starts with that of its original,
any other scope without one. -/
def selection : Past σ → Nat → Option String
  | [], _ => none
  | (on, call) :: past, register =>
    if call.makes ∧ register = made past then
      match call with
      | .clone => selection past on
      | .nest _ | .nestRoot _ | .root | .select _ | .tell _ => none
    else
      match call with
      -- A register that holds no scope yet keeps no selection.
      | .select selector =>
        if register = on ∧ on < made past then some selector else selection past register
      | .nest _ | .nestRoot _ | .root | .clone | .tell _ => selection past register

/-- The target of a verb: the explicit one if there is one that is not empty, or else the selection
of the scope if it is not empty. -/
def target (past : Past σ) (register : Nat) (explicit : Option String) : Option String :=
  (explicit.filter (· ≠ "")).or ((selection past register).filter (· ≠ ""))

/-- The selectors of the ancestors of a scope, each followed by a space. -/
def ancestry (past : Past σ) (register : Nat) : String :=
  String.join ((ancestors past register).map (· ++ " "))

/-- What a verb with a target queues: the action for the full selector, or a placeholder. -/
def targeted (past : Past σ) (register : Nat) (explicit : Option String) (verb : ElementVerb) :
    Action σ :=
  match target past register explicit, verb with
  | some target, .click mode => .click mode (ancestry past register ++ target)
  | some target, .setValue value => .setValue (ancestry past register ++ target) value
  | some target, .waitForSelector => .waitForSelector (ancestry past register ++ target)
  | some target, .test expected check =>
    .check ⟨expected, .element (ancestry past register ++ target) check⟩
  | none, verb => .refused (.nothingSelected verb)

/-- The actions that a verb queues. -/
def contribution (options : SessionOptions) (past : Past σ) (register : Nat) :
    Verb σ → List (Action σ)
  | .onSelection verb => [targeted past register none verb]
  | .testElement test check => [targeted past register none (.test test.expected check)]
  | .wait (.selector selector) => [targeted past register (some selector) .waitForSelector]
  | .wait (.delay duration) => [.delay duration]
  | .wait (.function source) =>
    if Text.isBlankText source then [.refused .blankFunction] else [.waitForFunction source []]
  | .viewport width height =>
    if width = 0 ∨ height = 0 then [.refused (.emptyViewport width height)]
    else [.viewport width height]
  | .navigate location => [.viewport options.width options.height, .navigate location]
  | .enqueue action => [action]
  | .eval function args receive => [.eval function args receive]
  | .screenshot path => [.screenshot path]
  | .testFunction test function args => [.check ⟨test.expected, .function function args⟩]

/-- The actions that a program of calls queues, in the order of the calls. -/
def actions (options : SessionOptions) : Past σ → List (Nat × ScopeCall σ) → List (Action σ)
  | _, [] => []
  | past, (on, .tell verb) :: program =>
    contribution options past on verb ++ actions options ((on, .tell verb) :: past) program
  | past, (on, call) :: program => actions options ((on, call) :: past) program

theorem made_cons (on : Nat) (call : ScopeCall σ) (past : Past σ) :
    made ((on, call) :: past) = if call.makes then made past + 1 else made past := by
  cases h : call.makes <;> simp [made, h]

end Past

namespace Scope

theorem nonEmpty?_eq_filter (selector : Option String) :
    nonEmpty? selector = selector.filter (· ≠ "") := by
  cases selector with
  | none => rfl
  | some selector => by_cases h : selector = "" <;> simp [nonEmpty?, h, Option.filter_some]

/-- What a scope resolves to: its ancestry before the explicit target or the selection. -/
theorem resolve_eq (scope : Scope) (explicit : Option String) :
    scope.resolve explicit
      = match (explicit.filter (· ≠ "")).or (scope.selected.filter (· ≠ "")) with
        | some target => .ok (scope.ancestry ++ target)
        | none => .error .noSelection := by
  have hfilter : nonEmpty? ((nonEmpty? explicit).or scope.selected)
      = (explicit.filter (· ≠ "")).or (scope.selected.filter (· ≠ "")) := by
    simp only [nonEmpty?_eq_filter]
    cases explicit with
    | none => rfl
    | some selector => by_cases h : selector = "" <;> simp [h, Option.filter_some]
  cases htarget : (explicit.filter (· ≠ "")).or (scope.selected.filter (· ≠ "")) with
  | none => simp only [resolve, hfilter, htarget]
  | some target => simp only [resolve, hfilter, htarget]

end Scope

namespace Chain

/-- The scopes are as the calls so far tell. -/
structure Fits (chain : Chain σ) (past : Past σ) : Prop where
  size : chain.scopes.size = past.made
  scope (register : Nat) :
    chain.scope register = ⟨past.ancestry register, past.selection register⟩

/-- A new scope goes into the next register. -/
theorem scope_push (chain : Chain σ) (new : Scope) (register : Nat) :
    ({ chain with scopes := chain.scopes.push new } : Chain σ).scope register
      = if register = chain.scopes.size then new else chain.scope register := by
  simp only [scope, Array.getD_eq_getD_getElem?, Array.getElem?_push]
  split <;> rfl

/-- Only a register that holds a scope can be given another one. -/
theorem scope_set (chain : Chain σ) (on : Nat) (new : Scope) (register : Nat) :
    ({ chain with scopes := chain.scopes.setIfInBounds on new } : Chain σ).scope register
      = if register = on ∧ on < chain.scopes.size then new else chain.scope register := by
  simp only [scope, Array.getD_eq_getD_getElem?, Array.getElem?_setIfInBounds]
  by_cases hregister : register = on
  · subst hregister
    by_cases hsize : register < chain.scopes.size
    · simp [hsize]
    · simp [hsize]
  · simp [hregister, Ne.symm hregister]

variable {chain : Chain σ} {past : Past σ}

/-- A scope that is made goes into the register that the calls so far leave for it. -/
theorem Fits.push (h : chain.Fits past) {on : Nat} {call : ScopeCall σ} (hmakes : call.makes = true)
    {new : Scope} (hancestry : new.ancestry = Past.ancestry ((on, call) :: past) past.made)
    (hselected : new.selected = Past.selection ((on, call) :: past) past.made) :
    ({ chain with scopes := chain.scopes.push new } : Chain σ).Fits ((on, call) :: past) where
  size := by rw [Array.size_push, Past.made_cons, if_pos hmakes, h.size]
  scope register := by
    rw [scope_push, h.size]
    by_cases hregister : register = past.made
    · rw [if_pos hregister, hregister, ← hancestry, ← hselected]
    · rw [if_neg hregister, h.scope]
      -- What the calls tell about the other registers does not change.
      cases call with
      | select selector => cases hmakes
      | _ => simp [Past.ancestry, Past.ancestors, Past.selection, hregister]

/-- Every call leaves the scopes as the calls so far tell. -/
theorem call_fits (h : chain.Fits past) (on : Nat) (call : ScopeCall σ) :
    (chain.call on call).Fits ((on, call) :: past) := by
  cases call with
  | nest selector =>
    refine h.push rfl ?_ ?_
    · simp [Scope.nest, h.scope, Past.ancestry, Past.ancestors, ScopeCall.makes,
        String.join_append, String.append_assoc]
    · simp [Scope.nest, Past.selection, ScopeCall.makes]
  | root =>
    refine h.push rfl ?_ ?_
    · simp [Scope.root, Past.ancestry, Past.ancestors, ScopeCall.makes]
    · simp [Scope.root, Past.selection, ScopeCall.makes]
  | nestRoot selector =>
    refine h.push rfl ?_ ?_
    · simp [Scope.nest, Scope.root, Past.ancestry, Past.ancestors, ScopeCall.makes]
    · simp [Scope.nest, Past.selection, ScopeCall.makes]
  | clone =>
    refine h.push rfl ?_ ?_
    · simp [h.scope, Past.ancestry, Past.ancestors, ScopeCall.makes]
    · simp [h.scope, Past.selection, ScopeCall.makes]
  | select selector =>
    refine ⟨?_, fun register => ?_⟩
    · rw [Past.made_cons]
      exact (Array.size_setIfInBounds).trans h.size
    · show ({ chain with scopes := chain.scopes.setIfInBounds on _ } : Chain σ).scope register = _
      rw [scope_set, h.size, h.scope on, h.scope register]
      by_cases hon : register = on ∧ on < past.made
      · obtain ⟨rfl, hon⟩ := hon
        simp [Scope.select, Past.ancestry, Past.ancestors, Past.selection, ScopeCall.makes, hon]
      · simp [Past.ancestry, Past.ancestors, Past.selection, ScopeCall.makes, hon]
  | tell verb =>
    refine ⟨?_, fun register => ?_⟩
    · rw [Past.made_cons]
      exact h.size
    · rw [show (chain.call on (.tell verb)).scope register = chain.scope register from rfl, h.scope]
      simp [Past.ancestry, Past.ancestors, Past.selection, ScopeCall.makes]

theorem Fits.targeted (h : chain.Fits past) (register : Nat) (explicit : Option String)
    (verb : ElementVerb) :
    ((chain.scope register).targeted explicit verb : Action σ)
      = past.targeted register explicit verb := by
  rw [Scope.targeted, Scope.resolve_eq, h.scope, Past.targeted.eq_def, Past.target]
  cases (explicit.filter (· ≠ "")).or ((past.selection register).filter (· ≠ "")) with
  | none => rfl
  | some target => cases verb <;> rfl

/-- A verb queues the actions that the calls so far tell. -/
theorem Fits.actions (h : chain.Fits past) (options : SessionOptions) (register : Nat)
    (verb : Verb σ) :
    (chain.scope register).actions options verb = past.contribution options register verb := by
  cases verb with
  | onSelection verb => exact congrArg (fun action => [action]) (h.targeted register none verb)
  | testElement test check =>
    exact congrArg (fun action => [action]) (h.targeted register none (.test test.expected check))
  | viewport width height =>
    by_cases hempty : width = 0 ∨ height = 0 <;>
      simp [Scope.actions, Scope.viewport, Past.contribution, hempty]
  | wait target =>
    cases target with
    | delay duration => rfl
    | selector selector =>
      exact congrArg (fun action => [action])
        (h.targeted register (some selector) .waitForSelector)
    | function source =>
      cases hblank : Text.isBlankText source <;>
        simp [Scope.actions, Scope.wait, Past.contribution, hblank]
  | _ => rfl

/-- From scopes that are as some calls tell, further calls queue what they are to queue. -/
theorem Fits.session_calls (h : chain.Fits past) (program : List (Nat × ScopeCall σ)) :
    (chain.calls program).session = { chain.session with
      queue := chain.session.queue.append (past.actions chain.session.options program) } := by
  -- A call makes the past longer at its front and the queue at its end.
  induction program generalizing chain past with
  | nil => simp [calls, Past.actions, Queue.append]
  | cons first program ih =>
    obtain ⟨on, call⟩ := first
    have hrest := ih (chain.call_fits h on call)
    cases call with
    | tell verb =>
      refine Eq.trans hrest ?_
      simp [call, Past.actions, Queue.append, h.actions]
    | _ => exact hrest

end Chain

/-- A placeholder fails when its turn comes, and does nothing else. -/
theorem Setting.run_execute_refused (s : Setting σ) (refusal : Refusal) (w : World σ) :
    (s.execute (.refused refusal)).run w = .error (.failed refusal.failure) w := by
  rw [execute, Action.execute, Run.run_fail]

/-- Whatever calls are made on the scopes of a session, whose first scope is a root, they add to its
queue the actions that the calls before each verb tell, in the order of the calls, and do nothing
else to the session. Among these actions are placeholders; wherever such a one is executed, it fails
for the reason for which the verb was refused, and does nothing else. -/
theorem scope_program_queues (session : Session σ) (program : List (Nat × ScopeCall σ)) :
    ((Chain.mk #[.root] session).calls program).session = { session with
      queue := session.queue.append (Past.actions session.options [] program) } ∧
    ∀ (s : Setting σ) (w : World σ),
      (∀ verb, (s.execute (.refused (.nothingSelected verb))).run w
        = .error (.failed .noSelection) w) ∧
      (∀ width height, (s.execute (.refused (.emptyViewport width height))).run w
        = .error (.failed (.invalidArgument ("viewport must not be empty, got "
            ++ toString width ++ "x" ++ toString height))) w) ∧
      (s.execute (.refused .blankFunction)).run w
        = .error (.failed
            (.invalidArgument "wait accepts a duration, a selector or a script")) w := by
  have hstart : (Chain.mk #[.root] session).Fits [] := by
    refine ⟨rfl, fun register => ?_⟩
    cases register <;> rfl
  refine ⟨hstart.session_calls program, fun s w => ⟨fun verb => ?_, fun width height => ?_, ?_⟩⟩
  · exact s.run_execute_refused (.nothingSelected verb) w
  · exact s.run_execute_refused (.emptyViewport width height) w
  · exact s.run_execute_refused .blankFunction w

example (options : SessionOptions) :
    Past.actions options []
      [(0, .nest "form"), (1, .select "input"), (1, .clone), (1, .select "button"),
        (2, .tell (.onSelection (.click .dispatch))), (0, .tell (.onSelection (.click .mouse)))]
    = [(.click .dispatch "form input" : Action σ), .refused (.nothingSelected (.click .mouse))] :=
  rfl

end PagePilot
