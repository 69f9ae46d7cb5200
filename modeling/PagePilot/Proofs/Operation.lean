import PagePilot.Proofs.Execution
import PagePilot.Session.History

/-!
# How operations go

Each operation on a session, by the ways in which it can go. Everything that is shown of sessions
and their histories goes back to these cases and opens no operation again.

## Main definitions

- `Scene.GetsEngine`, `Scene.GetsPage` - engine and page are there, or are started with success
- `Scene.Prepares`, `Scene.Runs`, `Scene.Exits` - the ways in which getting engine and page ready, a
  run and an exit go
- `Scene.Goes` - the ways in which operations go

## Main statements

- `Scene.prepare_prepares`, `Scene.run_runs`, `Scene.exit_exits`, `Scene.perform_goes` - there are
  no other ways
-/

namespace PagePilot

variable {σ α β : Type}

namespace Scene

theorem run_inWorld_of_ok {run : Run (World σ) α} {scene : Scene σ} {a : α} {w : World σ}
    (h : run.run scene.world = .ok a w) :
    (inWorld run).run scene = .ok a { scene with world := w } := by
  simp only [inWorld, EStateM.run] at h ⊢
  rw [h]

theorem run_inWorld_of_error {run : Run (World σ) α} {scene : Scene σ} {stop : Stop}
    {w : World σ} (h : run.run scene.world = .error stop w) :
    (inWorld run).run scene = .error stop { scene with world := w } := by
  simp only [inWorld, EStateM.run] at h ⊢
  rw [h]

variable (env : Environment σ)

/-- The world in which the engine is about to be started. -/
def launching (scene : Scene σ) : World σ :=
  scene.world.logDebug scene.session.options.debug (launchLine scene.session.options.launchParams)

/-- The engine is running in a world: it has been before, or it is started with success. -/
def GetsEngine (scene : Scene σ) (w : World σ) : Prop :=
  (scene.session.hasEngine = true ∧ w = scene.world) ∨
    (scene.session.hasEngine = false ∧
      (env.doLaunch scene.session.options.launchParams).run scene.launching = .ok () w)

/-- The page is open in a world: it has been before, or it is opened with success. -/
def GetsPage (scene : Scene σ) (w w₁ : World σ) : Prop :=
  (scene.session.hasPage = true ∧ w₁ = w) ∨
    (scene.session.hasPage = false ∧ env.doCreatePage.run w = .ok () w₁)

theorem engine_or_stop (scene : Scene σ) : (∃ w, scene.GetsEngine env w) ∨
    ∃ stop w, scene.session.hasEngine = false ∧
      (env.doLaunch scene.session.options.launchParams).run scene.launching = .error stop w := by
  cases hengine : scene.session.hasEngine with
  | true => exact .inl ⟨scene.world, .inl ⟨hengine, rfl⟩⟩
  | false =>
    cases h : (env.doLaunch scene.session.options.launchParams).run scene.launching with
    | ok a w => exact .inl ⟨w, .inr ⟨hengine, h⟩⟩
    | error stop w => exact .inr ⟨stop, w, rfl, rfl⟩

theorem page_or_stop (scene : Scene σ) (w : World σ) : (∃ w₁, scene.GetsPage env w w₁) ∨
    ∃ stop w₁, scene.session.hasPage = false ∧ env.doCreatePage.run w = .error stop w₁ := by
  cases hpage : scene.session.hasPage with
  | true => exact .inl ⟨w, .inl ⟨hpage, rfl⟩⟩
  | false =>
    cases h : env.doCreatePage.run w with
    | ok a w₁ => exact .inl ⟨w₁, .inr ⟨hpage, h⟩⟩
    | error stop w₁ => exact .inr ⟨stop, w₁, rfl, rfl⟩

/-- The ways in which getting engine and page ready goes. -/
inductive Prepares (scene : Scene σ) : Except Stop Unit → Scene σ → Prop
  | closed (hclosed : scene.session.isClosed = true) :
      Prepares scene (.error (.failed .sessionClosed)) scene
  | unlaunched {stop : Stop} {w : World σ} (hopen : scene.session.isClosed = false)
      (hengine : scene.session.hasEngine = false)
      (stops : (env.doLaunch scene.session.options.launchParams).run scene.launching
        = .error stop w) :
      Prepares scene (.error stop) { scene with world := w }
  | unopened {stop : Stop} {w w₁ : World σ} (hopen : scene.session.isClosed = false)
      (engine : scene.GetsEngine env w) (hpage : scene.session.hasPage = false)
      (stops : env.doCreatePage.run w = .error stop w₁) :
      Prepares scene (.error stop) ⟨{ scene.session with hasEngine := true }, w₁⟩
  | ready {w w₁ : World σ} (hopen : scene.session.isClosed = false)
      (engine : scene.GetsEngine env w) (page : scene.GetsPage env w w₁) :
      Prepares scene (.ok ()) ⟨{ scene.session with hasEngine := true, hasPage := true }, w₁⟩

/-- Before the engine is started comes a line of the log. -/
theorem run_launchLine (scene : Scene σ) :
    (inWorld (modify (World.logDebug scene.session.options.debug
      (launchLine scene.session.options.launchParams)))).run scene
        = .ok () { scene with world := scene.launching } := rfl

theorem run_ensureEngine_of_stop {scene : Scene σ} {stop : Stop} {w : World σ}
    (hengine : scene.session.hasEngine = false)
    (stops : (env.doLaunch scene.session.options.launchParams).run scene.launching
      = .error stop w) :
    (ensureEngine env).run scene = .error stop { scene with world := w } := by
  rw [ensureEngine, EStateM.run_bind, EStateM.run_get]
  simp only [hengine, Bool.false_eq_true, if_false]
  rw [Run.run_bind_of_ok scene.run_launchLine]
  exact Run.run_bind_of_error (run_inWorld_of_error stops)

theorem run_ensureEngine {scene : Scene σ} {w : World σ} (engine : scene.GetsEngine env w) :
    (ensureEngine env).run scene = .ok () ⟨{ scene.session with hasEngine := true }, w⟩ := by
  rw [ensureEngine, EStateM.run_bind, EStateM.run_get]
  rcases engine with ⟨hengine, rfl⟩ | ⟨hengine, launched⟩
  · obtain ⟨⟨options, _, hasPage, isClosed, queue, afterOpen⟩, w⟩ := scene
    cases hengine
    rfl
  · simp only [hengine, Bool.false_eq_true, if_false]
    rw [Run.run_bind_of_ok scene.run_launchLine, Run.run_bind_of_ok (run_inWorld_of_ok launched)]
    rfl

theorem run_ensurePage_of_stop {scene : Scene σ} {stop : Stop} {w : World σ}
    (hengine : scene.session.hasEngine = true) (hpage : scene.session.hasPage = false)
    (stops : env.doCreatePage.run scene.world = .error stop w) :
    (ensurePage env).run scene = .error stop { scene with world := w } := by
  rw [ensurePage, EStateM.run_bind, EStateM.run_get]
  simp only [hengine, hpage, Bool.false_eq_true, if_false, if_true]
  exact Run.run_bind_of_error (run_inWorld_of_error stops)

theorem run_ensurePage {scene : Scene σ} {w : World σ} (hengine : scene.session.hasEngine = true)
    (page : scene.GetsPage env scene.world w) :
    (ensurePage env).run scene = .ok () ⟨{ scene.session with hasPage := true }, w⟩ := by
  rw [ensurePage, EStateM.run_bind, EStateM.run_get]
  rcases page with ⟨hpage, rfl⟩ | ⟨hpage, opened⟩
  · obtain ⟨⟨options, hasEngine, _, isClosed, queue, afterOpen⟩, w⟩ := scene
    cases hpage
    rfl
  · simp only [hengine, hpage, Bool.false_eq_true, if_false, if_true]
    rw [Run.run_bind_of_ok (run_inWorld_of_ok opened), change, EStateM.run_modify, hengine]

theorem run_prepare_of_closed {scene : Scene σ} (hclosed : scene.session.isClosed = true) :
    (prepare env).run scene = .error (.failed .sessionClosed) scene := by
  rw [prepare, EStateM.run_bind, EStateM.run_get]
  simp only [hclosed, if_true]
  rfl

theorem run_prepare_of_open {scene : Scene σ} (hopen : scene.session.isClosed = false) :
    (prepare env).run scene
      = (do ensureEngine env; ensurePage env : Run (Scene σ) Unit).run scene := by
  rw [prepare, EStateM.run_bind, EStateM.run_get]
  simp only [hopen, Bool.false_eq_true, if_false]

/-- Getting engine and page ready, by the way in which it goes. -/
theorem run_prepare {scene scene' : Scene σ} {answer : Except Stop Unit}
    (h : scene.Prepares env answer scene') :
    (prepare env).run scene = Run.ending answer scene' := by
  cases h with
  | closed hclosed => exact run_prepare_of_closed env hclosed
  | unlaunched hopen hengine stops =>
    rw [run_prepare_of_open env hopen]
    exact Run.run_bind_of_error (run_ensureEngine_of_stop env hengine stops)
  | @unopened stop w w₁ hopen engine hpage stops =>
    rw [run_prepare_of_open env hopen, Run.run_bind_of_ok (run_ensureEngine env engine)]
    let started : Scene σ := ⟨{ scene.session with hasEngine := true }, w⟩
    exact run_ensurePage_of_stop env (show started.session.hasEngine = true from rfl) hpage stops
  | @ready w w₁ hopen engine page =>
    rw [run_prepare_of_open env hopen, Run.run_bind_of_ok (run_ensureEngine env engine)]
    let started : Scene σ := ⟨{ scene.session with hasEngine := true }, w⟩
    exact run_ensurePage env (show started.session.hasEngine = true from rfl) page

/-- Engine and page are got ready in one of these ways. -/
theorem prepare_prepares (scene : Scene σ) : ∃ answer scene',
    (prepare env).run scene = Run.ending answer scene' ∧ scene.Prepares env answer scene' := by
  have hways : ∃ answer scene', scene.Prepares env answer scene' := by
    cases hclosed : scene.session.isClosed with
    | true => exact ⟨_, _, .closed hclosed⟩
    | false =>
      obtain ⟨w, engine⟩ | ⟨stop, w, hengine, stops⟩ := scene.engine_or_stop env
      · obtain ⟨w₁, page⟩ | ⟨stop, w₁, hpage, stops⟩ := scene.page_or_stop env w
        · exact ⟨_, _, .ready hclosed engine page⟩
        · exact ⟨_, _, .unopened hclosed engine hpage stops⟩
      · exact ⟨_, _, .unlaunched hclosed hengine stops⟩
  obtain ⟨answer, scene', prepares⟩ := hways
  exact ⟨answer, scene', run_prepare env prepares, prepares⟩

theorem prepares_of_run {scene scene' : Scene σ} {answer : Except Stop Unit}
    (h : (prepare env).run scene = Run.ending answer scene') :
    scene.Prepares env answer scene' := by
  obtain ⟨answer', ready, hprepare, prepares⟩ := scene.prepare_prepares env
  obtain ⟨rfl, rfl⟩ := Run.ending_inj (h.symm.trans hprepare)
  exact prepares

/-- A run that does not get engine and page ready ends there. -/
theorem run_of_unprepared {scene scene' : Scene σ} {stop : Stop} (budget : Nat)
    (h : (prepare env).run scene = .error stop scene') :
    (run env budget).run scene = .error stop scene' := by
  rw [run, Run.run_bind_of_error h]

/-- A run that gets engine and page ready empties the queue and executes what was in it. -/
theorem run_of_prepared {scene ready : Scene σ} {answer : Except Stop Unit} {w : World σ}
    (budget : Nat) (h : (prepare env).run scene = .ok () ready)
    (hpage : ready.session.hasPage = true)
    (executed : ((setting env ready.session budget).executeAll ready.session.queue.toList).run
      ready.world = Run.ending answer w) :
    (run env budget).run scene
      = Run.ending answer ⟨{ ready.session with queue := {} }, w⟩ := by
  rw [run, Run.run_bind_of_ok h, EStateM.run_bind, EStateM.run_get]
  simp only [Queue.drain]
  have hdrain : (change fun s : Session σ => { s with queue := Queue.empty }).run ready
      = .ok () ⟨{ ready.session with queue := {} }, ready.world⟩ := rfl
  rw [Run.run_bind_of_ok hdrain, if_pos hpage]
  cases answer with
  | ok a => exact run_inWorld_of_ok executed
  | error stop => exact run_inWorld_of_error executed

/-- The ways in which a run goes. -/
inductive Runs (budget : Nat) (scene : Scene σ) : Except Stop Unit → Scene σ → Prop
  /-- Engine and page cannot be got ready; nothing is executed. -/
  | unprepared {stop : Stop} {scene' : Scene σ}
      (prepares : scene.Prepares env (.error stop) scene') : Runs budget scene (.error stop) scene'
  /-- The queue is emptied, and what was in it is executed. -/
  | prepared {ready : Scene σ} {executed skipped : List (Action σ)} {answer : Except Stop Unit}
      {w : World σ} (prepares : scene.Prepares env (.ok ()) ready)
      (queued : ready.session.queue.toList = executed ++ skipped)
      (executes : (setting env ready.session budget).Executes ready.world executed skipped
        answer w) :
      Runs budget scene answer ⟨{ ready.session with queue := {} }, w⟩

theorem Prepares.hasPage {scene ready : Scene σ} (h : scene.Prepares env (.ok ()) ready) :
    ready.session.hasPage = true := by
  cases h
  rfl

theorem Prepares.hasEngine {scene ready : Scene σ} (h : scene.Prepares env (.ok ()) ready) :
    ready.session.hasEngine = true := by
  cases h
  rfl

section Frame

variable {env} {scene scene' : Scene σ} {answer : Except Stop Unit}

theorem Prepares.queue_eq (h : scene.Prepares env answer scene') :
    scene'.session.queue = scene.session.queue := by
  cases h <;> rfl

theorem Prepares.afterOpen_eq (h : scene.Prepares env answer scene') :
    scene'.session.afterOpen = scene.session.afterOpen := by
  cases h <;> rfl

theorem Prepares.setting_eq (h : scene.Prepares env answer scene') (budget : Nat) :
    setting env scene'.session budget = setting env scene.session budget := by
  cases h <;> rfl

/-- The session with other actions in its queue and other registered ones. -/
def replan (scene : Scene σ) (queue afterOpen : Queue σ) : Scene σ where
  session := { scene.session with queue := queue, afterOpen := afterOpen }
  world := scene.world

/-- Engine and page are got ready without a look at the queue and the registered actions. -/
theorem Prepares.replan (h : scene.Prepares env answer scene') (queue afterOpen : Queue σ) :
    (scene.replan queue afterOpen).Prepares env answer (scene'.replan queue afterOpen) := by
  cases h with
  | closed hclosed => exact .closed hclosed
  | unlaunched hopen hengine stops => exact .unlaunched hopen hengine stops
  | unopened hopen engine hpage stops => exact .unopened hopen engine hpage stops
  | ready hopen engine page => exact .ready hopen engine page

end Frame

section Told

variable {env} {tell : Entry σ → Option β} {scene scene' : Scene σ}

theorem host_launching (scene : Scene σ) : scene.launching.host = scene.world.host := by
  rw [launching, World.logDebug_eq]

theorem told_launching (hlogged : ∀ record, tell (.logged record) = none) :
    scene.launching.told tell = scene.world.told tell :=
  World.told_logDebug hlogged _ _ _

/-- Getting an engine tells of its launch, unless it has been running. -/
theorem GetsEngine.told (hlogged : ∀ record, tell (.logged record) = none) {w : World σ}
    (h : scene.GetsEngine env w) : w.told tell = scene.world.told tell
      ++ if scene.session.hasEngine then []
        else (tell (.launched scene.session.options.launchParams true)).toList := by
  rcases h with ⟨hengine, rfl⟩ | ⟨hengine, launched⟩
  · rw [if_pos hengine, List.append_nil]
  · have htold := World.told_ask hlogged (show _ = Run.ending (.ok ()) w from launched)
    rw [htold, told_launching hlogged, hengine]
    rfl

/-- Getting a page tells of its creation, unless it has been open. -/
theorem GetsPage.told (hlogged : ∀ record, tell (.logged record) = none) {w w₁ : World σ}
    (h : scene.GetsPage env w w₁) : w₁.told tell = w.told tell
      ++ if scene.session.hasPage then [] else (tell (.createdPage true)).toList := by
  rcases h with ⟨hpage, rfl⟩ | ⟨hpage, opened⟩
  · rw [if_pos hpage, List.append_nil]
  · rw [World.told_ask hlogged (show _ = Run.ending (.ok ()) w₁ from opened), hpage]
    rfl

/-- Getting engine and page ready tells nothing, unless the calls are of interest by which they are
got. -/
theorem Prepares.told (hlogged : ∀ record, tell (.logged record) = none)
    (hlaunched : ∀ params succeeded, tell (.launched params succeeded) = none)
    (hcreated : ∀ succeeded, tell (.createdPage succeeded) = none) {answer : Except Stop Unit}
    (h : scene.Prepares env answer scene') : scene'.world.told tell = scene.world.told tell := by
  have hengine {w : World σ} (engine : scene.GetsEngine env w) :
      w.told tell = scene.world.told tell := by
    rw [engine.told hlogged, hlaunched]
    simp
  cases h with
  | closed _ => rfl
  | @unlaunched stop w _ _ stops =>
    rw [World.told_ask hlogged (show _ = Run.ending (.error stop) w from stops), hlaunched,
      told_launching hlogged]
    exact List.append_nil _
  | @unopened stop w w₁ _ engine _ stops =>
    rw [World.told_ask hlogged (show _ = Run.ending (.error stop) w₁ from stops), hcreated,
      hengine engine]
    exact List.append_nil _
  | ready _ engine page =>
    rw [page.told hlogged, hcreated, hengine engine]
    simp

end Told

/-- A run goes in one of these ways. -/
theorem run_runs (budget : Nat) (scene : Scene σ) : ∃ answer scene',
    (run env budget).run scene = Run.ending answer scene' ∧
      scene.Runs env budget answer scene' := by
  obtain ⟨ready?, ready, hprepare, prepares⟩ := scene.prepare_prepares env
  cases ready? with
  | error stop => exact ⟨.error stop, ready, run_of_unprepared env budget hprepare,
      .unprepared prepares⟩
  | ok _ =>
    obtain ⟨executed, skipped, answer, w, hqueue, hexecute, hexecutes⟩ :=
      (setting env ready.session budget).executeAll_executes ready.session.queue.toList ready.world
    exact ⟨answer, _, run_of_prepared env budget hprepare prepares.hasPage hexecute,
      .prepared prepares hqueue hexecutes⟩

/-- An exit leaves a closed session with nothing in it; only the engine is called, if it runs. -/
def exited (scene : Scene σ) (w : World σ) : Scene σ where
  session := { scene.session with
    hasEngine := false, hasPage := false, isClosed := true, queue := {}, afterOpen := {} }
  world := w

theorem run_exit_of_engine {scene : Scene σ} {answer : Except Stop Unit} {w : World σ}
    (hengine : scene.session.hasEngine = true)
    (h : env.doExit.run scene.world = Run.ending answer w) :
    (exit env).run scene = Run.ending answer (scene.exited w) := by
  have hclose : (change fun s : Session σ => { s with
      hasEngine := false, hasPage := false, isClosed := true, queue := {}, afterOpen := {} }).run
        scene = .ok () (scene.exited scene.world) := rfl
  rw [exit, EStateM.run_bind, EStateM.run_get]
  simp only [hengine, if_true]
  rw [Run.run_bind_of_ok hclose]
  cases answer with
  | ok a => exact run_inWorld_of_ok h
  | error stop => exact run_inWorld_of_error h

theorem run_exit_of_no_engine {scene : Scene σ} (hengine : scene.session.hasEngine = false) :
    (exit env).run scene = .ok () (scene.exited scene.world) := by
  have hclose : (change fun s : Session σ => { s with
      hasEngine := false, hasPage := false, isClosed := true, queue := {}, afterOpen := {} }).run
        scene = .ok () (scene.exited scene.world) := rfl
  rw [exit, EStateM.run_bind, EStateM.run_get]
  simp only [hengine, Bool.false_eq_true, if_false]
  rw [Run.run_bind_of_ok hclose, EStateM.run_pure]

/-- The ways in which an exit goes: the engine is called if it runs. -/
inductive Exits (scene : Scene σ) : Except Stop Unit → Scene σ → Prop
  | engine {answer : Except Stop Unit} {w : World σ} (hengine : scene.session.hasEngine = true)
      (calls : env.doExit.run scene.world = Run.ending answer w) :
      Exits scene answer (scene.exited w)
  | no_engine (hengine : scene.session.hasEngine = false) :
      Exits scene (.ok ()) (scene.exited scene.world)

theorem Exits.exists_world {scene scene' : Scene σ} {answer : Except Stop Unit}
    (h : scene.Exits env answer scene') : ∃ w, scene' = scene.exited w := by
  cases h with
  | engine _ _ => exact ⟨_, rfl⟩
  | no_engine _ => exact ⟨_, rfl⟩

/-- An exit goes in one of these ways. -/
theorem exit_exits (scene : Scene σ) : ∃ answer scene',
    (exit env).run scene = Run.ending answer scene' ∧ scene.Exits env answer scene' := by
  cases hengine : scene.session.hasEngine with
  | true =>
    obtain ⟨answer, w, h⟩ := env.doExit.exists_ending scene.world
    exact ⟨answer, _, run_exit_of_engine env hengine h, .engine hengine h⟩
  | false => exact ⟨.ok (), _, run_exit_of_no_engine env hengine, .no_engine hengine⟩

theorem perform_of_ending {scene after : Scene σ} {operation : Operation σ}
    {answer : Except Stop Unit} (h : (operation.toRun env).run scene = Run.ending answer after) :
    scene.perform env operation = ⟨operation, scene, answer, after⟩ := by
  cases answer <;> simp only [perform, h, Run.ending]

/-- A run that is performed goes in one of these ways. -/
theorem perform_run (scene : Scene σ) (budget : Nat) : ∃ answer after,
    scene.perform env (.run budget) = ⟨.run budget, scene, answer, after⟩ ∧
      scene.Runs env budget answer after := by
  obtain ⟨answer, after, hrun, runs⟩ := run_runs env budget scene
  exact ⟨answer, after, perform_of_ending env hrun, runs⟩

/-- The ways in which operations go. -/
inductive Goes : Step σ → Prop
  | enqueue (scene : Scene σ) (action : Action σ) : Goes ⟨.enqueue action, scene, .ok (),
      ⟨{ scene.session with queue := scene.session.queue.append [action] }, scene.world⟩⟩
  | afterOpen (scene : Scene σ) (action : Action σ) : Goes ⟨.afterOpen action, scene, .ok (),
      ⟨{ scene.session with afterOpen := scene.session.afterOpen.push action }, scene.world⟩⟩
  | tell (scene : Scene σ) (scope : Scope) (verb : Verb σ) : Goes ⟨.tell scope verb, scene, .ok (),
      ⟨{ scene.session with
          queue := scene.session.queue.append (scope.actions scene.session.options verb) },
        scene.world⟩⟩
  | run (scene : Scene σ) (budget : Nat) {answer : Except Stop Unit} {after : Scene σ}
      (runs : scene.Runs env budget answer after) : Goes ⟨.run budget, scene, answer, after⟩
  | exit (scene : Scene σ) {answer : Except Stop Unit} {after : Scene σ}
      (exits : scene.Exits env answer after) : Goes ⟨.exit, scene, answer, after⟩
  | meanwhile (scene : Scene σ) (change : σ → σ) : Goes ⟨.meanwhile change, scene, .ok (),
      ⟨scene.session, { scene.world with host := change scene.world.host }⟩⟩

/-- Every operation goes in one of these ways. -/
theorem perform_goes (scene : Scene σ) (operation : Operation σ) :
    Goes env (scene.perform env operation) := by
  cases operation with
  | enqueue action => exact .enqueue scene action
  | afterOpen action => exact .afterOpen scene action
  | tell scope verb => exact .tell scene scope verb
  | run budget =>
    obtain ⟨answer, after, hstep, runs⟩ := scene.perform_run env budget
    rw [hstep]
    exact .run scene budget runs
  | exit =>
    obtain ⟨answer, after, hexit, exits⟩ := exit_exits env scene
    rw [show scene.perform env .exit = _ from perform_of_ending env hexit]
    exact .exit scene exits
  | meanwhile change => exact .meanwhile scene change

/-- So does every step of a history. -/
theorem goes_of_mem_history {scene : Scene σ} {operations : List (Operation σ)} {step : Step σ}
    (h : step ∈ scene.history env operations) : Goes env step := by
  induction operations generalizing scene with
  | nil => cases h
  | cons operation rest ih =>
    rcases List.mem_cons.mp h with rfl | hrest
    · exact scene.perform_goes env operation
    · exact ih hrest

end Scene

end PagePilot
