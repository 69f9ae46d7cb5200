import PagePilot.Proofs.Backlog
import PagePilot.Proofs.Termination

/-!
# Runs and batches

Actions that are queued in two batches may be executed by one run or by two. If the first batch
succeeds, nothing tells the one from the other. If it does not, the second batch might as well not
have been queued: all that is seen of it is how many actions a line of the log calls skipped.

## Main definitions

- `Scene.queueing` - a session with more actions in its queue

## Main statements

- `Setting.Executes.append`, `Setting.Executes.skip` - executions of queues with more actions behind
- `run_batched` - one run of two batches and a run of each of them
-/

namespace PagePilot

variable {σ : Type}

namespace Setting

variable {s : Setting σ} {w w₁ w₂ : World σ} {executed skipped : List (Action σ)}
  {answer : Except Stop Unit} {stop : Stop}

theorem Executes.skipped_eq_nil (h : s.Executes w executed skipped (.ok ()) w₁) : skipped = [] := by
  generalize hanswer : (.ok () : Except Stop Unit) = answer at h
  induction h with
  | done => rfl
  | next succeeds rest ih => exact ih hanswer
  | stopped stops => cases hanswer

/-- Behind actions that all succeed, the others are executed as if they were alone. -/
theorem Executes.append {first skipped₁ : List (Action σ)}
    (h : s.Executes w first skipped₁ (.ok ()) w₁)
    (rest : s.Executes w₁ executed skipped answer w₂) :
    s.Executes w (first ++ executed) skipped answer w₂ := by
  generalize hok : (.ok () : Except Stop Unit) = ok at h
  induction h with
  | done => exact rest
  | next succeeds _ ih => exact .next succeeds (ih rest hok)
  | stopped stops => cases hok

/-- Behind an action that does not succeed, more actions are only counted. -/
theorem Executes.skip (h : s.Executes w executed skipped (.error stop) w₁)
    (more : List (Action σ)) : ∃ action before,
      w₁ = s.afterStop action skipped.length stop before ∧
      s.Executes w executed (skipped ++ more) (.error stop)
        (s.afterStop action (skipped ++ more).length stop before) := by
  generalize hstop : (.error stop : Except Stop Unit) = answer at h
  induction h with
  | done => cases hstop
  | next succeeds rest ih =>
    obtain ⟨action, before, hworld, more⟩ := ih hstop
    exact ⟨action, before, hworld, .next succeeds more⟩
  | stopped stops =>
    cases hstop
    exact ⟨_, _, rfl, .stopped stops⟩

end Setting

namespace Scene

variable {env : Environment σ} {scene scene' : Scene σ} {answer : Except Stop Unit}

/-- The session with more actions in its queue. -/
def queueing (scene : Scene σ) (actions : List (Action σ)) : Scene σ where
  session := { scene.session with queue := scene.session.queue.append actions }
  world := scene.world

theorem queueing_nil (scene : Scene σ) : scene.queueing [] = scene := by
  simp [queueing, Queue.append]

theorem queueing_queueing (first second : List (Action σ)) :
    (scene.queueing first).queueing second = scene.queueing (first ++ second) := by
  simp [queueing, Queue.append]

/-- Queueing one action after the other. -/
theorem after_enqueue (env : Environment σ) (scene : Scene σ) (actions : List (Action σ)) :
    scene.after env (actions.map .enqueue) = scene.queueing actions := by
  induction actions generalizing scene with
  | nil => exact scene.queueing_nil.symm
  | cons action rest ih =>
    rw [List.map_cons, after_cons, ih]
    exact queueing_queueing [action] rest

theorem Prepares.queueing (h : scene.Prepares env answer scene') (actions : List (Action σ)) :
    (scene.queueing actions).Prepares env answer (scene'.queueing actions) := by
  have hsame : scene'.queueing actions
      = scene'.replan (scene.session.queue.append actions) scene.session.afterOpen := by
    rw [Scene.queueing, h.queue_eq, ← h.afterOpen_eq]
    rfl
  rw [hsame]
  exact h.replan _ _

/-- A session that has got engine and page ready finds them ready again. -/
theorem Prepares.again (h : scene.Prepares env (.ok ()) scene') (queue : Queue σ) (w : World σ) :
    Prepares env ⟨{ scene'.session with queue := queue }, w⟩ (.ok ())
      ⟨{ scene'.session with queue := queue }, w⟩ := by
  cases h with
  | ready hopen _ _ => exact .ready hopen (.inl ⟨rfl, rfl⟩) (.inl ⟨rfl, rfl⟩)

/-- A run of a session that has had an empty queue and gets engine and page ready, by how the
actions are executed that have been queued since. -/
theorem Prepares.perform {ready : Scene σ} (prepares : scene.Prepares env (.ok ()) ready)
    (hempty : scene.session.queue.toList = []) {budget : Nat} {executed skipped : List (Action σ)}
    {w : World σ} (executes : (setting env ready.session budget).Executes ready.world executed
      skipped answer w) :
    let step := (scene.queueing (executed ++ skipped)).perform env (.run budget)
    step = ⟨.run budget, scene.queueing (executed ++ skipped), answer,
      ⟨{ ready.session with queue := {} }, w⟩⟩ ∧
    step.executed = executed ∧ step.dropped env = skipped := by
  intro step
  have hqueued : (ready.queueing (executed ++ skipped)).session.queue.toList
      = executed ++ skipped := by
    rw [Scene.queueing, prepares.queue_eq, Queue.toList_append, hempty, List.nil_append]
  have prepares := prepares.queueing (executed ++ skipped)
  have hstep : step = ⟨.run budget, scene.queueing (executed ++ skipped), answer,
      ⟨{ ready.session with queue := {} }, w⟩⟩ := by
    have executed := executes.run
    rw [← hqueued] at executed
    have hrun :=
      run_of_prepared env budget (run_prepare env prepares) prepares.hasPage executed
    exact perform_of_ending env hrun
  rw [hstep]
  obtain ⟨hexecuted, hdropped, -⟩ := Step.accounts_of_prepared prepares hqueued executes
  exact ⟨rfl, hexecuted, hdropped⟩

/-- What is executed from an empty queue on has been queued since. -/
theorem executed_sublist_enqueued (env : Environment σ) (hempty : scene.session.queue.toList = [])
    (operations : List (Operation σ)) :
    List.Sublist ((scene.history env operations).flatMap Step.executed)
      ((scene.history env operations).flatMap Step.enqueued) := by
  have hbalance := scene.history_balance env operations
  rw [hempty, List.nil_append] at hbalance
  rw [hbalance]
  refine List.Sublist.trans ?_ (List.sublist_append_left _ _)
  induction scene.history env operations with
  | nil => exact .slnil
  | cons step rest ih =>
    exact (List.sublist_append_left _ _).append ih

end Scene

/-- In a session with an empty queue that gets engine and page ready, two batches are queued.

If a run of the first one succeeds, then one run of both, and a run of each of them, answer the same
in the end, whatever the second batch comes to, and leave the same session in the same world: with
the same outside and the same journal, log included.

If a run of the first one stops, then so does one run of both, for the same reason. It leaves the
same session and, but for the number of skipped actions in the log, the same world; it executes the
same actions, all from the first batch, and drops the second batch with the rest of the first, so
that whatever is executed later has been queued later. -/
theorem run_batched (env : Environment σ) (scene ready : Scene σ) (budget : Nat)
    (hempty : scene.session.queue.toList = [])
    (hready : (Scene.prepare env).run scene = .ok () ready) (first second : List (Action σ)) :
    let queueing (actions : List (Action σ)) : List (Operation σ) := actions.map .enqueue
    let whole := (scene.after env (queueing first ++ queueing second)).perform env (.run budget)
    let tried := (scene.after env (queueing first)).perform env (.run budget)
    let split := (tried.after.after env (queueing second)).perform env (.run budget)
    (tried.answer = .ok () → split.answer = whole.answer ∧ split.after = whole.after) ∧
    ∀ stop, tried.answer = .error stop →
      whole.answer = .error stop ∧
      whole.after.session = tried.after.session ∧
      (∃ action before,
        let s := Scene.setting env scene.session budget
        tried.after.world = s.afterStop action (tried.dropped env).length stop before ∧
        whole.after.world = s.afterStop action (whole.dropped env).length stop before) ∧
      first = tried.executed ++ tried.dropped env ∧
      whole.executed = tried.executed ∧
      whole.dropped env = tried.dropped env ++ second ∧
      ∀ later : List (Operation σ),
        List.Sublist ((whole.after.history env later).flatMap Step.executed)
          ((whole.after.history env later).flatMap Step.enqueued) := by
  intro queueing whole tried split
  have prepares : scene.Prepares env (.ok ()) ready := Scene.prepares_of_run env hready
  have hwhole : whole = (scene.queueing (first ++ second)).perform env (.run budget) := by
    rw [← scene.after_enqueue env, List.map_append]
  have htried : tried = (scene.queueing first).perform env (.run budget) := by
    rw [← scene.after_enqueue env]
  have hsplit : split = (tried.after.queueing second).perform env (.run budget) := by
    rw [← tried.after.after_enqueue env]
  obtain ⟨executed, skipped, answer, w, rfl, -, executes⟩ :=
    (Scene.setting env ready.session budget).executeAll_executes first ready.world
  obtain ⟨htried', hexecuted, hdropped⟩ := prepares.perform hempty executes
  rw [← htried] at htried' hexecuted hdropped
  refine ⟨fun hanswer => ?_, fun stop hanswer => ?_⟩
  · obtain rfl : answer = .ok () := by rwa [htried'] at hanswer
    obtain rfl : skipped = [] := executes.skipped_eq_nil
    obtain ⟨executed₂, skipped₂, answer₂, w₂, rfl, -, executes₂⟩ :=
      (Scene.setting env ready.session budget).executeAll_executes second w
    obtain ⟨hwhole', -, -⟩ := prepares.perform hempty (executes.append executes₂)
    obtain ⟨hsplit', -, -⟩ := (prepares.again {} w).perform rfl executes₂
    rw [List.append_assoc, ← List.append_nil executed, ← hwhole] at hwhole'
    rw [htried'] at hsplit
    rw [hwhole', hsplit, hsplit']
    exact ⟨rfl, rfl⟩
  · obtain rfl : answer = .error stop := by rwa [htried'] at hanswer
    obtain ⟨action, before, rfl, more⟩ := executes.skip second
    obtain ⟨hwhole', hexecuted', hdropped'⟩ := prepares.perform hempty more
    rw [← List.append_assoc, ← hwhole] at hwhole' hexecuted' hdropped'
    rw [hexecuted, hdropped, hexecuted', hdropped', htried', hwhole']
    refine ⟨rfl, rfl, ⟨action, before, ?_, ?_⟩, rfl, rfl, rfl, fun later => ?_⟩
    · rw [prepares.setting_eq budget]
    · rw [prepares.setting_eq budget]
    · exact Scene.executed_sublist_enqueued env rfl later

/-- The second batch fails behind a navigation, which a registered action follows. -/
theorem run_batched_failing_second :
    let env := Environment.obliging
    let first : List (Action Duration) := [.viewport 800 600, .screenshot "before.png"]
    let second := [.navigate "/", .refused .blankFunction, .screenshot "after.png"]
    let session : Session Duration :=
      { options := { debug := true }, afterOpen := ⟨[.screenshot "open.png"]⟩ }
    let scene : Scene Duration := ⟨session, { host := .zero }⟩
    let whole := (scene.after env (first.map .enqueue ++ second.map .enqueue)).perform env (.run 1)
    let tried := (scene.after env (first.map .enqueue)).perform env (.run 1)
    let split := (tried.after.after env (second.map .enqueue)).perform env (.run 1)
    scene.session.queue.toList = [] ∧
    (∃ ready, (Scene.prepare env).run scene = .ok () ready) ∧
    tried.answer = .ok () ∧
    whole.answer = .error (.failed Refusal.blankFunction.failure) ∧
    split.after = whole.after := by
  intro env first second session scene whole tried split
  obtain ⟨ready, hready⟩ : ∃ ready, (Scene.prepare env).run scene = .ok () ready := ⟨_, rfl⟩
  have htried : tried.answer = .ok () := rfl
  have hwhole : whole.answer = .error (.failed Refusal.blankFunction.failure) := rfl
  obtain ⟨-, hafter⟩ := (run_batched env scene ready 1 rfl hready first second).1 htried
  exact ⟨rfl, ⟨ready, hready⟩, htried, hwhole, hafter⟩

end PagePilot
