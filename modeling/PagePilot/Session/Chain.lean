import PagePilot.Session.Basic
import PagePilot.Session.Scope

/-!
# Chains

Programs of calls on the scopes of one session. The scopes are kept in registers: making one fills
the next register, and every call says on which register it is made.

## Main definitions

- `ScopeCall` - what can be done with a scope
- `Chain` - the scopes and the session
- `Chain.call` - one call
-/

namespace PagePilot

/-- What can be done with a scope. -/
inductive ScopeCall (σ : Type)
  /-- Make a scope under this one. -/
  | nest (selector : String)
  /-- Make a scope without ancestors. -/
  | root
  /-- Make a scope under the root. -/
  | nestRoot (selector : String)
  /-- Make a copy of this one. -/
  | clone
  | select (selector : String)
  | tell (verb : Verb σ)

/-- The scopes of a program and the session that they are about. -/
structure Chain (σ : Type) where
  scopes : Array Scope := #[.root]
  session : Session σ

namespace Chain

variable {σ : Type}

/-- The scope in a register; a register that has not been filled holds the root. -/
def scope (chain : Chain σ) (register : Nat) : Scope := chain.scopes.getD register .root

/-- Makes a call on the scope in a register. -/
def call (chain : Chain σ) (register : Nat) : ScopeCall σ → Chain σ
  | .nest selector =>
    { chain with scopes := chain.scopes.push ((chain.scope register).nest selector) }
  | .root => { chain with scopes := chain.scopes.push .root }
  | .nestRoot selector => { chain with scopes := chain.scopes.push (Scope.root.nest selector) }
  | .clone => { chain with scopes := chain.scopes.push (chain.scope register) }
  | .select selector =>
    { chain with
      scopes := chain.scopes.setIfInBounds register ((chain.scope register).select selector) }
  | .tell verb =>
    let actions := (chain.scope register).actions chain.session.options verb
    { chain with session :=
        { chain.session with queue := chain.session.queue.append actions } }

/-- Makes calls in order. -/
def calls (chain : Chain σ) (program : List (Nat × ScopeCall σ)) : Chain σ :=
  program.foldl (fun chain (register, call) => chain.call register call) chain

end Chain

end PagePilot
