import Mathlib.Data.List.DropRight
import Mathlib.Data.List.Perm.Basic
import PagePilot.Proofs.Operation

/-!
# What becomes of queued actions

Every action that is queued over a history of a session is either executed once, by the first run
that empties the queue after it has been queued, or dropped, by that run because of a failure before
it or by an exit, or it is still waiting at the end. Runs execute actions in the order in which they
were queued.

## Main definitions

- `Step.enqueued`, `Step.executed`, `Step.dropped` - what a step does with queued actions
- `backlog` - the actions that wait for the next run, as a history tells
- `Step.ExecutesBatch` - what a run that gets engine and page ready does with the actions it finds
-/

namespace PagePilot

variable {σ : Type}

namespace Step

/-- The actions that a step queues. -/
def enqueued (step : Step σ) : List (Action σ) :=
  match step.operation with
  | .enqueue action => [action]
  | .tell scope verb => scope.actions step.before.session.options verb
  | .afterOpen _ | .run _ | .exit | .meanwhile _ => []

/-- The queued actions that a step has executed, as the journal tells. -/
def executed (step : Step σ) : List (Action σ) :=
  step.after.world.mains.drop step.before.world.mains.length

variable (env : Environment σ)

/-- The step empties the queue: it is an exit, or a run that gets engine and page ready. -/
def empties (step : Step σ) : Bool :=
  match step.operation with
  | .exit => true
  | .run _ =>
    match (Scene.prepare env).run step.before with
    | .ok _ _ => true
    | .error _ _ => false
  | .enqueue _ | .afterOpen _ | .tell _ _ | .meanwhile _ => false

/-- The actions that a step takes from the queue without executing them. -/
def dropped (step : Step σ) : List (Action σ) :=
  if step.empties env then step.before.session.queue.toList.drop step.executed.length else []

/-- A run that gets engine and page ready executes the actions of a batch in their order up to the
first that does not succeed, whose stop it answers with, and drops the others. -/
structure ExecutesBatch (step : Step σ) (budget : Nat) (ready : Scene σ)
    (batch : List (Action σ)) : Prop where
  batch_eq : batch = step.executed ++ step.dropped env
  executes : (Scene.setting env ready.session budget).Executes ready.world step.executed
    (step.dropped env) step.answer step.after.world
  pending : step.after.session.pending = 0

/-- What a step does with queued actions: nothing is lost, doubled or brought out of order. -/
structure Accounts (step : Step σ) : Prop where
  mains : step.after.world.mains = step.before.world.mains ++ step.executed
  balance : step.before.session.queue.toList ++ step.enqueued
    = step.executed ++ step.dropped env ++ step.after.session.queue.toList
  emptied : step.empties env = true → step.after.session.queue.toList = []
  kept : step.empties env = false → step.executed = [] ∧ step.dropped env = []

end Step

/-- The actions that have been queued since a step has emptied the queue. -/
def backlog (env : Environment σ) (history : List (Step σ)) : List (Action σ) :=
  (history.rtakeWhile fun step => !step.empties env).flatMap Step.enqueued

namespace Scene

variable {env : Environment σ}

/-- Getting engine and page ready executes nothing. -/
theorem Prepares.mains {scene scene' : Scene σ} {answer : Except Stop Unit}
    (h : scene.Prepares env answer scene') : scene'.world.mains = scene.world.mains :=
  h.told (fun _ => rfl) (fun _ _ => rfl) fun _ => rfl

theorem Exits.mains {scene scene' : Scene σ} {answer : Except Stop Unit}
    (h : scene.Exits env answer scene') : scene'.world.mains = scene.world.mains := by
  cases h with
  | engine _ calls => exact (World.told_ask (fun _ => rfl) calls).trans (List.append_nil _)
  | no_engine _ => rfl

end Scene

namespace Step

variable {env : Environment σ} {step : Step σ}

theorem executed_eq {actions : List (Action σ)}
    (h : step.after.world.mains = step.before.world.mains ++ actions) :
    step.executed = actions := by
  rw [executed, h, List.drop_left]

theorem executed_eq_nil (h : step.after.world.mains = step.before.world.mains) :
    step.executed = [] :=
  executed_eq (by rw [h, List.append_nil])

/-- A step that executes nothing and only adds to the queue. -/
theorem accounts_of_queued (hmains : step.after.world.mains = step.before.world.mains)
    (hempties : step.empties env = false)
    (hqueue : step.after.session.queue.toList
      = step.before.session.queue.toList ++ step.enqueued) : step.Accounts env := by
  have hexecuted : step.executed = [] := executed_eq_nil hmains
  have hdropped : step.dropped env = [] := by simp [dropped, hempties]
  refine ⟨?_, ?_, fun h => absurd h (by simp [hempties]), fun _ => ⟨hexecuted, hdropped⟩⟩
  · rw [hexecuted, List.append_nil, hmains]
  · rw [hexecuted, hdropped, hqueue]
    rfl

/-- A step that empties the queue, of which it executes the first actions. -/
theorem accounts_of_emptied {actions skipped : List (Action σ)}
    (hmains : step.after.world.mains = step.before.world.mains ++ actions)
    (hempties : step.empties env = true) (henqueued : step.enqueued = [])
    (hbefore : step.before.session.queue.toList = actions ++ skipped)
    (hafter : step.after.session.queue.toList = []) :
    step.executed = actions ∧ step.dropped env = skipped ∧ step.Accounts env := by
  have hexecuted : step.executed = actions := executed_eq hmains
  have hdropped : step.dropped env = skipped := by
    rw [dropped, if_pos hempties, hexecuted, hbefore, List.drop_left]
  refine ⟨hexecuted, hdropped, ?_, ?_, fun _ => hafter, fun h => absurd h (by simp [hempties])⟩
  · rw [hexecuted, hmains]
  · rw [hexecuted, hdropped, henqueued, hbefore, hafter]

theorem empties_of_prepared {scene ready after : Scene σ} {budget : Nat}
    {answer : Except Stop Unit} (h : (Scene.prepare env).run scene = .ok () ready) :
    (⟨.run budget, scene, answer, after⟩ : Step σ).empties env = true := by
  simp only [empties, h]

theorem empties_of_unprepared {scene scene' after : Scene σ} {budget : Nat} {stop : Stop}
    {answer : Except Stop Unit} (h : (Scene.prepare env).run scene = .error stop scene') :
    (⟨.run budget, scene, answer, after⟩ : Step σ).empties env = false := by
  simp only [empties, h]

/-- A run that gets engine and page ready executes the first of the queued actions and drops the
others. -/
theorem accounts_of_prepared {scene ready : Scene σ} {budget : Nat}
    {actions skipped : List (Action σ)} {answer : Except Stop Unit} {w : World σ}
    (prepares : scene.Prepares env (.ok ()) ready)
    (queued : ready.session.queue.toList = actions ++ skipped)
    (executes : (Scene.setting env ready.session budget).Executes ready.world actions skipped
      answer w) :
    let step : Step σ :=
      ⟨.run budget, scene, answer, ⟨{ ready.session with queue := {} }, w⟩⟩
    step.executed = actions ∧ step.dropped env = skipped ∧ step.Accounts env := by
  refine accounts_of_emptied ?_ (empties_of_prepared (Scene.run_prepare env prepares)) rfl ?_ rfl
  · exact executes.mains.trans (by rw [prepares.mains])
  · rw [← queued, prepares.queue_eq]

/-- Every operation accounts for the queued actions. -/
theorem accounts_of_goes (h : Scene.Goes env step) : step.Accounts env := by
  cases h with
  | enqueue scene action => exact accounts_of_queued rfl rfl rfl
  | afterOpen scene action => exact accounts_of_queued rfl rfl (List.append_nil _).symm
  | tell scene scope verb => exact accounts_of_queued rfl rfl rfl
  | run scene budget runs =>
    cases runs with
    | unprepared prepares =>
      refine accounts_of_queued prepares.mains
        (empties_of_unprepared (Scene.run_prepare env prepares)) ?_
      exact (congrArg Queue.toList prepares.queue_eq).trans (List.append_nil _).symm
    | prepared prepares queued executes =>
      exact (accounts_of_prepared prepares queued executes).2.2
  | exit scene exits =>
    have hmains := exits.mains
    obtain ⟨w, rfl⟩ := exits.exists_world
    exact (accounts_of_emptied (hmains.trans (List.append_nil _).symm) rfl rfl rfl rfl).2.2
  | meanwhile scene change => exact accounts_of_queued rfl rfl (List.append_nil _).symm

end Step

namespace Scene

variable (env : Environment σ) (scene : Scene σ)

/-- Over a history, what was queued at its beginning and what has been queued since is, in this
order, what each step has executed and dropped, and what is queued at its end. -/
theorem history_balance (operations : List (Operation σ)) :
    scene.session.queue.toList ++ (scene.history env operations).flatMap Step.enqueued
      = (scene.history env operations).flatMap (fun step => step.executed ++ step.dropped env)
        ++ (scene.after env operations).session.queue.toList := by
  induction operations generalizing scene with
  | nil => exact List.append_nil _
  | cons operation rest ih =>
    let step := scene.perform env operation
    have hstep := (Step.accounts_of_goes (scene.perform_goes env operation)).balance
    rw [before_perform] at hstep
    calc scene.session.queue.toList
          ++ (step :: step.after.history env rest).flatMap Step.enqueued
        = (scene.session.queue.toList ++ step.enqueued)
          ++ (step.after.history env rest).flatMap Step.enqueued := by
            rw [List.flatMap_cons, List.append_assoc]
      _ = (step.executed ++ step.dropped env) ++ (step.after.session.queue.toList
          ++ (step.after.history env rest).flatMap Step.enqueued) := by
            rw [hstep, List.append_assoc]
      _ = _ := by
            rw [ih, history_cons, after_cons, List.flatMap_cons]
            simp only [step, List.append_assoc]

/-- Over a history, the journal tells of the queued actions that its steps have executed. -/
theorem history_mains (operations : List (Operation σ)) :
    (scene.after env operations).world.mains
      = scene.world.mains ++ (scene.history env operations).flatMap Step.executed := by
  induction operations generalizing scene with
  | nil => exact (List.append_nil _).symm
  | cons operation rest ih =>
    have hstep := (Step.accounts_of_goes (scene.perform_goes env operation)).mains
    rw [before_perform] at hstep
    calc (scene.after env (operation :: rest)).world.mains
        = (scene.perform env operation).after.world.mains
          ++ ((scene.perform env operation).after.history env rest).flatMap Step.executed := ih _
      _ = _ := by rw [hstep, List.append_assoc, history_cons, List.flatMap_cons]

/-- The queue holds what has been queued since a step has emptied it. -/
theorem queue_eq_backlog (options : SessionOptions) (host : σ) (operations : List (Operation σ)) :
    ((start options host).after env operations).session.queue.toList
      = backlog env ((start options host).history env operations) := by
  -- The last step decides whether anything of what has been queued before is still in the queue.
  induction operations using List.reverseRecOn with
  | nil => rfl
  | append_singleton operations operation ih =>
    let scene := (start options host).after env operations
    let step := scene.perform env operation
    have accounts : step.Accounts env := Step.accounts_of_goes (scene.perform_goes env operation)
    have hhistory : (start options host).history env (operations ++ [operation])
        = (start options host).history env operations ++ [step] := history_append _ _ _ _
    have hafter : (start options host).after env (operations ++ [operation]) = step.after :=
      after_append _ _ _ _
    rw [hafter, hhistory, backlog]
    cases hempties : step.empties env with
    | true =>
      rw [List.rtakeWhile_concat_neg _ _ _ (by simp [hempties]), accounts.emptied hempties]
      rfl
    | false =>
      obtain ⟨hexecuted, hdropped⟩ := accounts.kept hempties
      have hbalance := accounts.balance
      rw [before_perform, hexecuted, hdropped] at hbalance
      rw [List.rtakeWhile_concat_pos _ _ _ (by simp [hempties]), List.flatMap_append,
        List.flatMap_singleton, ← backlog, ← ih]
      exact hbalance.symm

end Scene

/-- A run executes actions only if it gets engine and page ready. -/
theorem Step.run_of_executed {env : Environment σ} {step : Step σ} (h : Scene.Goes env step)
    (hexecuted : step.executed ≠ []) : ∃ budget ready, step.operation = .run budget ∧
      (Scene.prepare env).run step.before = .ok () ready := by
  have accounts := Step.accounts_of_goes h
  cases h with
  | run scene budget runs =>
    cases runs with
    | unprepared prepares =>
      exact absurd (Step.executed_eq_nil prepares.mains) hexecuted
    | prepared prepares queued executes => exact ⟨budget, _, rfl, Scene.run_prepare env prepares⟩
  | exit scene exits => exact absurd (Step.executed_eq_nil exits.mains) hexecuted
  | _ => exact absurd (Step.executed_eq_nil rfl) hexecuted

/-- A run that gets engine and page ready deals with all queued actions. -/
theorem Scene.perform_run_executesBatch {env : Environment σ} {scene ready : Scene σ}
    (budget : Nat) (h : (Scene.prepare env).run scene = .ok () ready) :
    (scene.perform env (.run budget)).ExecutesBatch env budget ready
      scene.session.queue.toList := by
  obtain ⟨answer, after, hstep, runs⟩ := scene.perform_run env budget
  rw [hstep]
  cases runs with
  | unprepared prepares =>
    rw [Scene.run_prepare env prepares] at h
    cases h
  | @prepared ready' executed skipped answer w prepares queued executes =>
    obtain rfl : ready' = ready := by
      rw [Scene.run_prepare env prepares] at h
      cases h
      rfl
    obtain ⟨hexecuted, hdropped, -⟩ := Step.accounts_of_prepared prepares queued executes
    refine ⟨?_, ?_, rfl⟩
    · rw [hexecuted, hdropped, ← queued, prepares.queue_eq]
    · rw [hexecuted, hdropped]
      exact executes

/-- No run touches the actions that follow every navigation. -/
theorem Scene.afterOpen_perform_run (env : Environment σ) (scene : Scene σ) (budget : Nat) :
    (scene.perform env (.run budget)).after.session.afterOpen = scene.session.afterOpen := by
  obtain ⟨answer, after, hstep, runs⟩ := scene.perform_run env budget
  rw [hstep]
  cases runs with
  | unprepared prepares => exact prepares.afterOpen_eq
  | prepared prepares queued executes => exact prepares.afterOpen_eq

/-- Parts of a list without repetitions, put together by steps, have nothing in common. -/
theorem nodup_flatMap_and_disjoint {α β : Type} {l : List α} {f g : α → List β} {rest : List β}
    (h : (l.flatMap (fun a => f a ++ g a) ++ rest).Nodup) :
    (l.flatMap f).Nodup ∧ ∀ a ∈ l, ∀ a' ∈ l, List.Disjoint (g a) (f a') := by
  have hparts : (l.flatMap f ++ l.flatMap g).Nodup :=
    (List.flatMap_append_perm l f g).nodup_iff.mpr (List.nodup_append.mp h).1
  refine ⟨(List.nodup_append.mp hparts).1, fun a ha a' ha' b hg hf => ?_⟩
  exact (List.nodup_append.mp hparts).2.2 b (List.mem_flatMap.mpr ⟨a', ha', hf⟩) b
    (List.mem_flatMap.mpr ⟨a, ha, hg⟩) rfl

/-- Over every history of a session, whatever its environment does:

* a run that gets engine and page ready executes, of the actions that have been queued since the
  last run of this kind or exit, the first ones in their order, up to the first that does not
  succeed; it answers as the last of them does, drops the others, and leaves an empty queue;
* no run changes the actions that follow every navigation;
* no other step executes a queued action;
* the queued actions are, in their order, what each step has executed and dropped, and what is left;
* thus, if they are all different, none is executed twice, and none that has been dropped is
  executed at all. -/
theorem history_executes_each_once (env : Environment σ) (options : SessionOptions) (host : σ)
    (operations : List (Operation σ)) :
    let history := (Scene.start options host).history env operations
    let scene := (Scene.start options host).after env operations
    (∀ budget ready, (Scene.prepare env).run scene = .ok () ready →
      (scene.perform env (.run budget)).ExecutesBatch env budget ready (backlog env history)) ∧
    (∀ budget, (scene.perform env (.run budget)).after.session.afterOpen
      = scene.session.afterOpen) ∧
    (∀ step ∈ history, step.executed ≠ [] → ∃ budget ready, step.operation = .run budget ∧
      (Scene.prepare env).run step.before = .ok () ready) ∧
    scene.world.mains = history.flatMap Step.executed ∧
    history.flatMap Step.enqueued
      = history.flatMap (fun step => step.executed ++ step.dropped env)
        ++ scene.session.queue.toList ∧
    ((history.flatMap Step.enqueued).Nodup → (history.flatMap Step.executed).Nodup ∧
      ∀ step ∈ history, ∀ other ∈ history, List.Disjoint (step.dropped env) other.executed) := by
  intro history scene
  have hbalance : history.flatMap Step.enqueued
      = history.flatMap (fun step => step.executed ++ step.dropped env)
        ++ scene.session.queue.toList := Scene.history_balance env (.start options host) operations
  refine ⟨fun budget ready hready => ?_, scene.afterOpen_perform_run env,
    fun step hstep hexecuted => ?_,
    Scene.history_mains env (.start options host) operations, hbalance, fun hnodup => ?_⟩
  · rw [← Scene.queue_eq_backlog env options host operations]
    exact Scene.perform_run_executesBatch budget hready
  · exact Step.run_of_executed (Scene.goes_of_mem_history env hstep) hexecuted
  · rw [hbalance] at hnodup
    exact nodup_flatMap_and_disjoint hnodup

end PagePilot
