import PagePilot.Proofs.Journal

/-!
# Executing a queue

How the execution of a list of actions goes: some are executed one after the other, all of them
with success but perhaps the last, and the others are skipped.

## Main definitions

- `Setting.Executes` - the course of an execution
- `Setting.Opens` - the ways in which a navigation goes
- `World.mains` - the queued actions that have been begun, as the journal tells

## Main statements

- `Setting.executeAll_executes`, `Setting.Executes.run` - every execution takes such a course, and
  there is no other one
- `Setting.Executes.mains` - the journal tells the executed actions in their order
-/

namespace PagePilot

variable {σ : Type}

/-- The world after an action that has not succeeded: a failure is logged. -/
def Setting.afterStop (s : Setting σ) (action : Action σ) (skipped : Nat) (stop : Stop)
    (w : World σ) : World σ :=
  match stop with
  | .failed failure =>
    w.logLine s.options.debug action fun line => failureLine line skipped failure
  | .clockOverflow | .exhausted => w

/-- From a world, actions are executed one after the other. All succeed but perhaps the last, whose
stop is then the answer and because of which the others are skipped. -/
inductive Setting.Executes (s : Setting σ) :
    World σ → (executed skipped : List (Action σ)) → Except Stop Unit → World σ → Prop
  | done {w : World σ} : Executes s w [] [] (.ok ()) w
  | next {w w₁ w₂ : World σ} {action : Action σ} {executed skipped : List (Action σ)}
      {answer : Except Stop Unit}
      (succeeds : (s.execute action).run (w.begin s.options.debug .main action) = .ok () w₁)
      (rest : Executes s w₁ executed skipped answer w₂) :
      Executes s w (action :: executed) skipped answer w₂
  | stopped {w w₁ : World σ} {action : Action σ} {skipped : List (Action σ)} {stop : Stop}
      (stops : (s.execute action).run (w.begin s.options.debug .main action) = .error stop w₁) :
      Executes s w [action] skipped (.error stop) (s.afterStop action skipped.length stop w₁)

namespace Setting

variable (s : Setting σ)

/-- After an action that does not succeed comes nothing. -/
theorem executeAll_cons_of_stop {action : Action σ} {rest : List (Action σ)} {w w₁ : World σ}
    {stop : Stop}
    (h : (s.execute action).run (w.begin s.options.debug .main action) = .error stop w₁) :
    (s.executeAll (action :: rest)).run w
      = .error stop (s.afterStop action rest.length stop w₁) := by
  cases stop with
  | failed failure => exact s.executeAll_cons_of_failed h
  | clockOverflow =>
    rw [executeAll, Run.run_bind_of_ok (s.run_trace .main action w), executeMain,
      Run.run_bind_of_error (Run.run_onFailure_of_stop h (by simp))]
    rfl
  | exhausted =>
    rw [executeAll, Run.run_bind_of_ok (s.run_trace .main action w), executeMain,
      Run.run_bind_of_error (Run.run_onFailure_of_stop h (by simp))]
    rfl

theorem executeAll_executes (actions : List (Action σ)) (w : World σ) :
    ∃ executed skipped answer w', actions = executed ++ skipped ∧
      (s.executeAll actions).run w = Run.ending answer w' ∧
      s.Executes w executed skipped answer w' := by
  induction actions generalizing w with
  | nil => exact ⟨[], [], .ok (), w, rfl, rfl, .done⟩
  | cons action rest ih =>
    cases h : (s.execute action).run (w.begin s.options.debug .main action) with
    | ok a w₁ =>
      obtain ⟨executed, skipped, answer, w', rfl, hrun, hexecutes⟩ := ih w₁
      exact ⟨action :: executed, skipped, answer, w', rfl,
        (s.executeAll_cons_of_ok h).trans hrun, .next h hexecutes⟩
    | error stop w₁ =>
      exact ⟨[action], rest, .error stop, _, rfl, s.executeAll_cons_of_stop h, .stopped h⟩

/-- What takes such a course is what the execution comes to. -/
theorem Executes.run {s : Setting σ} {executed skipped : List (Action σ)}
    {answer : Except Stop Unit} {w w' : World σ} (h : s.Executes w executed skipped answer w') :
    (s.executeAll (executed ++ skipped)).run w = Run.ending answer w' := by
  induction h with
  | done => rfl
  | next succeeds rest ih => exact (s.executeAll_cons_of_ok succeeds).trans ih
  | stopped stops => exact s.executeAll_cons_of_stop stops

/-- Without a round no location is opened. -/
theorem execute_navigate_of_zero {s : Setting σ} (h : s.budget = 0) (location : String)
    (w : World σ) :
    (s.execute (.navigate location)).run w = .error .exhausted w := by
  rw [execute, Action.execute, h]
  rfl

theorem execute_navigate_of_succ {s : Setting σ} {rounds : Nat} (h : s.budget = rounds + 1)
    (location : String) :
    s.execute (.navigate location) = (do
      s.env.doCall (.navigate (joinUrl s.options.baseUrl location))
      s.followUp (fun action => action.execute s (s.navigate rounds)) s.afterOpen) := by
  rw [execute, Action.execute, h]
  rfl

/-- The ways in which the execution of a navigation goes: no round is left for it, the page does not
get there, or it does and the registered actions follow. -/
inductive Opens (s : Setting σ) (location : String) (w : World σ) :
    Except Stop Unit → World σ → Prop
  | exhausted (hbudget : s.budget = 0) : Opens s location w (.error .exhausted) w
  | unreached {stop : Stop} {w₁ : World σ}
      (stops : (s.env.doCall (.navigate (joinUrl s.options.baseUrl location))).run w
        = .error stop w₁) : Opens s location w (.error stop) w₁
  | reached {rounds : Nat} {answer : Except Stop Unit} {w₁ w₂ : World σ}
      (visits : (s.env.doCall (.navigate (joinUrl s.options.baseUrl location))).run w
        = .ok () w₁)
      (follows : (s.followUp (fun action => action.execute s (s.navigate rounds))
        s.afterOpen).run w₁ = Run.ending answer w₂) : Opens s location w answer w₂

theorem opens_of_run {s : Setting σ} {location : String} {w w₁ : World σ}
    {answer : Except Stop Unit}
    (hrun : (s.execute (.navigate location)).run w = Run.ending answer w₁) :
    s.Opens location w answer w₁ := by
  cases hbudget : s.budget with
  | zero =>
    have hnone : (s.execute (.navigate location)).run w = Run.ending (.error .exhausted) w :=
      execute_navigate_of_zero hbudget location w
    obtain ⟨rfl, rfl⟩ := Run.ending_inj (hrun.symm.trans hnone)
    exact .exhausted hbudget
  | succ rounds =>
    have hexecute := congrArg (EStateM.run · w) (execute_navigate_of_succ hbudget location)
    cases hvisit : (s.env.doCall (.navigate (joinUrl s.options.baseUrl location))).run w with
    | error stop w₂ =>
      have hstop : (s.execute (.navigate location)).run w = Run.ending (.error stop) w₂ :=
        hexecute.trans (Run.run_bind_of_error hvisit)
      obtain ⟨rfl, rfl⟩ := Run.ending_inj (hrun.symm.trans hstop)
      exact .unreached hvisit
    | ok _ w₂ =>
      exact .reached hvisit ((hexecute.trans (Run.run_bind_of_ok hvisit)).symm.trans hrun)

end Setting

/-- The queued action that an entry says has been begun. -/
def Entry.main? : Entry σ → Option (Action σ)
  | .began .main action => some action
  | _ => none

/-- The queued actions that have been begun, in their order. -/
def World.mains (w : World σ) : List (Action σ) := w.told Entry.main?

theorem Entry.IsWork.main?_eq_none {entry : Entry σ} (h : entry.IsWork) : entry.main? = none := by
  cases entry with
  | began role action => cases h; rfl
  | _ => rfl

namespace Setting

variable {s : Setting σ}

theorem told_afterStop {tell : Entry σ → Option β}
    (hlogged : ∀ record, tell (.logged record) = none) (action : Action σ) (skipped : Nat)
    (stop : Stop) (w : World σ) :
    (s.afterStop action skipped stop w).told tell = w.told tell := by
  cases stop with
  | failed failure => exact World.told_logLine hlogged _ _ _ w
  | clockOverflow => rfl
  | exhausted => rfl

/-- Only the line about a failure may change the outside. -/
theorem host_afterStop (action : Action σ) (skipped : Nat) (stop : Stop) (w : World σ) :
    (s.afterStop action skipped stop w).host = match stop with
      | .failed _ => World.lineHost s.options.debug action w.host
      | .clockOverflow | .exhausted => w.host := by
  cases stop with
  | failed failure => rw [afterStop, World.logLine_eq]
  | clockOverflow => rfl
  | exhausted => rfl

theorem host_afterStop_eq_self {action : Action σ} (hline : ∀ host, action.afterLine host = host)
    (skipped : Nat) (stop : Stop) (w : World σ) :
    (s.afterStop action skipped stop w).host = w.host := by
  rw [host_afterStop]
  cases stop with
  | failed failure => exact World.lineHost_eq_self hline s.options.debug w.host
  | clockOverflow => rfl
  | exhausted => rfl

/-- What an execution tells if it is of interest which queued action is begun and nothing that an
action does then. -/
theorem Executes.told {tell : Entry σ → Option (Action σ)}
    (hmain : ∀ action, tell (.began .main action) = some action)
    (hlogged : ∀ record, tell (.logged record) = none)
    (hexecute : ∀ (action : Action σ) {w w' : World σ} {answer : Except Stop Unit},
      (s.execute action).run w = Run.ending answer w' → w'.told tell = w.told tell)
    {w w' : World σ} {executed skipped : List (Action σ)} {answer : Except Stop Unit}
    (h : s.Executes w executed skipped answer w') : w'.told tell = w.told tell ++ executed := by
  have hbegin (action : Action σ) (w : World σ) :
      (w.begin s.options.debug .main action).told tell = w.told tell ++ [action] := by
    rw [World.told_begin hlogged, hmain]
    rfl
  induction h with
  | done => exact (List.append_nil _).symm
  | @next w w₁ w₂ action executed skipped answer succeeds rest ih =>
    have hfirst := hexecute action (show _ = Run.ending (.ok ()) w₁ from succeeds)
    rw [ih, hfirst, hbegin, List.append_assoc, List.singleton_append]
  | @stopped w w₁ action skipped stop stops =>
    have hfirst := hexecute action (show _ = Run.ending (.error stop) w₁ from stops)
    rw [told_afterStop hlogged, hfirst, hbegin]

/-- The journal tells the executed actions in their order: none of them begins another queued
action. -/
theorem Executes.mains {w w' : World σ} {executed skipped : List (Action σ)}
    {answer : Except Stop Unit} (h : s.Executes w executed skipped answer w') :
    w'.mains = w.mains ++ executed :=
  h.told (fun _ => rfl) (fun _ => rfl) fun _ _ _ _ hrun =>
    told_execute Entry.isWork_admits (fun _ _ => rfl) (fun _ hentry => hentry.main?_eq_none) hrun

end Setting

end PagePilot
