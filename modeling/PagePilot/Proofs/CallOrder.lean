import Mathlib.Data.List.Induction
import PagePilot.Proofs.Operation

/-!
# The order of calls

A session calls its launcher until the engine has started, then the engine until there is a page,
then the page, and at the end it may shut the engine down. An engine and a page are started at most
once each, and after an exit nothing is called any more.

## Main definitions

- `CallOrder` - the order in which they come
- `Scene.InOrder` - what a session knows of its engine and page fits the calls it has made
- `Scene.StopOrigin` - where what a run stops with comes from
-/

namespace PagePilot

variable {σ : Type}

namespace CallOrder

/-- Some launches that have failed. -/
def BeforeEngine (calls : List (Entry σ)) : Prop :=
  ∀ entry ∈ calls, ∃ params, entry = .launched params false

/-- After failed launches one that has succeeded, then some pages that could not be created. -/
def BeforePage (calls : List (Entry σ)) : Prop :=
  ∃ launches params pages, calls = launches ++ .launched params true :: pages ∧
    BeforeEngine launches ∧ ∀ entry ∈ pages, entry = .createdPage false

/-- After that a page that has been created, then some calls to the page. -/
def WithPage (calls : List (Entry σ)) : Prop :=
  ∃ start made, calls = start ++ .createdPage true :: made ∧ BeforePage start ∧
    ∀ entry ∈ made, ∃ call succeeded, entry = .called call succeeded

/-- The engine has been launched, and at last it has been shut down. -/
def AfterExit (calls : List (Entry σ)) : Prop :=
  ∃ start succeeded, calls = start ++ [.exited succeeded] ∧ (BeforePage start ∨ WithPage start)

end CallOrder

/-- The calls come in the right order. -/
def CallOrder (calls : List (Entry σ)) : Prop :=
  CallOrder.BeforeEngine calls ∨ CallOrder.BeforePage calls ∨ CallOrder.WithPage calls ∨
    CallOrder.AfterExit calls

/-- What a session knows of its engine and page fits the calls that have been made. -/
inductive Scene.InOrder (scene : Scene σ) : Prop
  | fresh (hengine : scene.session.hasEngine = false) (hpage : scene.session.hasPage = false)
      (hclosed : scene.session.isClosed = false) (calls : CallOrder.BeforeEngine scene.world.calls)
  | launched (hengine : scene.session.hasEngine = true) (hpage : scene.session.hasPage = false)
      (hclosed : scene.session.isClosed = false) (calls : CallOrder.BeforePage scene.world.calls)
  | ready (hengine : scene.session.hasEngine = true) (hpage : scene.session.hasPage = true)
      (hclosed : scene.session.isClosed = false) (calls : CallOrder.WithPage scene.world.calls)
  | closed (hengine : scene.session.hasEngine = false) (hpage : scene.session.hasPage = false)
      (hclosed : scene.session.isClosed = true)
      (calls : CallOrder.BeforeEngine scene.world.calls ∨ CallOrder.AfterExit scene.world.calls)

namespace CallOrder

variable {calls : List (Entry σ)}

theorem BeforeEngine.launch_failed (h : BeforeEngine calls) (params : LaunchParams) :
    BeforeEngine (calls ++ [.launched params false]) := by
  intro entry hentry
  rcases List.mem_append.mp hentry with hold | hnew
  · exact h entry hold
  · exact ⟨params, List.mem_singleton.mp hnew⟩

theorem BeforeEngine.launched (h : BeforeEngine calls) (params : LaunchParams) :
    BeforePage (calls ++ [.launched params true]) :=
  ⟨calls, params, [], rfl, h, by simp⟩

theorem BeforePage.page_failed (h : BeforePage calls) :
    BeforePage (calls ++ [.createdPage false]) := by
  obtain ⟨launches, params, pages, rfl, hlaunches, hpages⟩ := h
  refine ⟨launches, params, pages ++ [.createdPage false], by simp, hlaunches, ?_⟩
  intro entry hentry
  rcases List.mem_append.mp hentry with hold | hnew
  · exact hpages entry hold
  · exact List.mem_singleton.mp hnew

theorem BeforePage.page_created (h : BeforePage calls) :
    WithPage (calls ++ [.createdPage true]) :=
  ⟨calls, [], rfl, h, by simp⟩

theorem WithPage.called (h : WithPage calls) {made : List (Entry σ)}
    (hmade : ∀ entry ∈ made, ∃ call succeeded, entry = .called call succeeded) :
    WithPage (calls ++ made) := by
  obtain ⟨start, before, rfl, hstart, hbefore⟩ := h
  refine ⟨start, before ++ made, by simp, hstart, ?_⟩
  intro entry hentry
  rcases List.mem_append.mp hentry with hold | hnew
  · exact hbefore entry hold
  · exact hmade entry hnew

end CallOrder

theorem Entry.IsWork.called_of_call? {entry call : Entry σ} (h : entry.IsWork)
    (hcall : entry.call? = some call) : ∃ request succeeded, call = .called request succeeded := by
  cases entry with
  | called request succeeded =>
    cases hcall
    exact ⟨request, succeeded, rfl⟩
  | launched _ _ => exact h.elim
  | createdPage _ => exact h.elim
  | exited _ => exact h.elim
  | _ => cases hcall

namespace Setting

variable {s : Setting σ}

/-- The calls of an action are calls to the page. -/
theorem calls_execute {action : Action σ} {w w' : World σ} {answer : Except Stop Unit}
    (h : (s.execute action).run w = Run.ending answer w') : ∃ made, w'.calls = w.calls ++ made ∧
      ∀ entry ∈ made, ∃ call succeeded, entry = .called call succeeded := by
  obtain ⟨added, hadded, hjournal⟩ :=
    (s.execute_appends Entry.isWork_admits (fun _ _ => rfl) action).exists_added h
  refine ⟨added.toList.filterMap Entry.call?, by simp [World.calls, World.told, hjournal], ?_⟩
  intro call hmade
  obtain ⟨entry, hentry, hcall⟩ := List.mem_filterMap.mp hmade
  exact (hadded entry (by simpa using hentry)).called_of_call? hcall

/-- The calls of an execution are calls to the page. -/
theorem Executes.calls {w w' : World σ} {executed skipped : List (Action σ)}
    {answer : Except Stop Unit} (h : s.Executes w executed skipped answer w')
    (hpage : CallOrder.WithPage w.calls) : CallOrder.WithPage w'.calls := by
  induction h with
  | done => exact hpage
  | @next w w₁ w₂ action executed skipped answer succeeds rest ih =>
    obtain ⟨made, hcalls, hmade⟩ := calls_execute (show _ = Run.ending (.ok ()) w₁ from succeeds)
    rw [World.calls_begin] at hcalls
    exact ih (hcalls ▸ hpage.called hmade)
  | @stopped w w₁ action skipped stop stops =>
    obtain ⟨made, hcalls, hmade⟩ := calls_execute (show _ = Run.ending (.error stop) w₁ from stops)
    rw [World.calls_begin] at hcalls
    rw [World.calls, told_afterStop fun _ => rfl, ← World.calls, hcalls]
    exact hpage.called hmade

end Setting

namespace Scene

variable {env : Environment σ} {scene scene' : Scene σ} {answer : Except Stop Unit}

theorem calls_launching : scene.launching.calls = scene.world.calls :=
  World.told_logDebug (fun _ => rfl) _ _ _

namespace InOrder

theorem beforeEngine (h : scene.InOrder) (hengine : scene.session.hasEngine = false)
    (hopen : scene.session.isClosed = false) :
    scene.session.hasPage = false ∧ CallOrder.BeforeEngine scene.world.calls := by
  cases h with
  | fresh _ hpage _ calls => exact ⟨hpage, calls⟩
  | _ => simp_all

theorem beforePage (h : scene.InOrder) (hengine : scene.session.hasEngine = true)
    (hpage : scene.session.hasPage = false) : CallOrder.BeforePage scene.world.calls := by
  cases h with
  | launched _ _ _ calls => exact calls
  | _ => simp_all

theorem withPage (h : scene.InOrder) (hpage : scene.session.hasPage = true) :
    scene.session.hasEngine = true ∧ CallOrder.WithPage scene.world.calls := by
  cases h with
  | ready hengine _ _ calls => exact ⟨hengine, calls⟩
  | _ => simp_all

/-- A closed session knows of no engine and no page. -/
theorem of_closed (h : scene.InOrder) (hclosed : scene.session.isClosed = true) :
    scene.session.hasEngine = false ∧ scene.session.hasPage = false := by
  cases h with
  | closed hengine hpage _ _ => exact ⟨hengine, hpage⟩
  | _ => simp_all

/-- A scene with the same calls in which the session knows the same of engine and page. -/
theorem congr (h : scene.InOrder) (hcalls : scene'.world.calls = scene.world.calls)
    (hengine : scene'.session.hasEngine = scene.session.hasEngine)
    (hpage : scene'.session.hasPage = scene.session.hasPage)
    (hclosed : scene'.session.isClosed = scene.session.isClosed) : scene'.InOrder := by
  cases h with
  | fresh e p c calls =>
    exact .fresh (hengine.trans e) (hpage.trans p) (hclosed.trans c) (hcalls ▸ calls)
  | launched e p c calls =>
    exact .launched (hengine.trans e) (hpage.trans p) (hclosed.trans c) (hcalls ▸ calls)
  | ready e p c calls =>
    exact .ready (hengine.trans e) (hpage.trans p) (hclosed.trans c) (hcalls ▸ calls)
  | closed e p c calls =>
    exact .closed (hengine.trans e) (hpage.trans p) (hclosed.trans c) (hcalls ▸ calls)

theorem callOrder (h : scene.InOrder) : CallOrder scene.world.calls := by
  cases h with
  | fresh _ _ _ calls => exact .inl calls
  | launched _ _ _ calls => exact .inr (.inl calls)
  | ready _ _ _ calls => exact .inr (.inr (.inl calls))
  | closed _ _ _ calls =>
    rcases calls with calls | calls
    · exact .inl calls
    · exact .inr (.inr (.inr calls))

/-- With the engine got in a session that has no page, no page has been created. -/
theorem getsEngine (h : scene.InOrder) (hopen : scene.session.isClosed = false)
    (hpage : scene.session.hasPage = false) {w : World σ} (engine : scene.GetsEngine env w) :
    CallOrder.BeforePage w.calls := by
  rcases engine with ⟨hengine, rfl⟩ | ⟨hengine, launched⟩
  · exact h.beforePage hengine hpage
  · have hcalls := World.calls_ask (fun _ => rfl) (show _ = Run.ending (.ok ()) w from launched)
    rw [calls_launching] at hcalls
    exact hcalls ▸ (h.beforeEngine hengine hopen).2.launched _

/-- Getting engine and page ready keeps the order of calls. -/
theorem prepares (h : scene.InOrder) (prepares : scene.Prepares env answer scene') :
    scene'.InOrder := by
  cases prepares with
  | closed _ => exact h
  | @unlaunched stop w hopen hengine stops =>
    have hcalls := World.calls_ask (fun _ => rfl) (show _ = Run.ending (.error stop) w from stops)
    rw [calls_launching] at hcalls
    obtain ⟨hpage, calls⟩ := h.beforeEngine hengine hopen
    exact .fresh hengine hpage hopen (hcalls ▸ calls.launch_failed _)
  | @unopened stop w w₁ hopen engine hpage stops =>
    have hcalls := World.calls_ask (fun _ => rfl) (show _ = Run.ending (.error stop) w₁ from stops)
    exact .launched rfl hpage hopen (hcalls ▸ (h.getsEngine hopen hpage engine).page_failed)
  | @ready w w₁ hopen engine page =>
    refine .ready rfl rfl hopen ?_
    rcases page with ⟨hpage, rfl⟩ | ⟨hpage, opened⟩
    -- An open page had an engine before, so that nothing has been called at all.
    · obtain ⟨hengine, calls⟩ := h.withPage hpage
      rcases engine with ⟨-, rfl⟩ | ⟨habsent, -⟩
      · exact calls
      · exact absurd hengine (by simp [habsent])
    · have hcalls := World.calls_ask (fun _ => rfl) (show _ = Run.ending (.ok ()) w₁ from opened)
      exact hcalls ▸ (h.getsEngine hopen hpage engine).page_created

theorem runs {budget : Nat} (h : scene.InOrder) (runs : scene.Runs env budget answer scene') :
    scene'.InOrder := by
  cases runs with
  | unprepared hprepares => exact h.prepares hprepares
  | @prepared ready executed skipped answer w hprepares queued executes =>
    have hready := h.prepares hprepares
    obtain ⟨hengine, calls⟩ := hready.withPage (hprepares.hasPage)
    have hopen : ready.session.isClosed = false := by
      cases hprepares with
      | ready hopen _ _ => exact hopen
    exact .ready hengine hprepares.hasPage hopen (executes.calls calls)

theorem exits (h : scene.InOrder) (exits : scene.Exits env answer scene') : scene'.InOrder := by
  cases exits with
  | @engine answer w hengine calls =>
    have hcalls := World.calls_ask (fun _ => rfl) calls
    refine .closed rfl rfl rfl (.inr ⟨_, _, hcalls, ?_⟩)
    cases hpage : scene.session.hasPage with
    | true => exact .inr (h.withPage hpage).2
    | false => exact .inl (h.beforePage hengine hpage)
  | no_engine hengine =>
    refine .closed rfl rfl rfl ?_
    cases hclosed : scene.session.isClosed with
    | false => exact .inl (h.beforeEngine hengine hclosed).2
    | true =>
      cases h with
      | closed _ _ _ calls => exact calls
      | _ => simp_all

/-- Every operation keeps the order of calls. -/
theorem goes {step : Step σ} (h : step.before.InOrder) (goes : Goes env step) :
    step.after.InOrder := by
  cases goes with
  | run scene budget runs => exact h.runs runs
  | exit scene exits => exact h.exits exits
  | enqueue scene action => exact h.congr rfl rfl rfl rfl
  | afterOpen scene action => exact h.congr rfl rfl rfl rfl
  | tell scene scope verb => exact h.congr rfl rfl rfl rfl
  | meanwhile scene change => exact h.congr rfl rfl rfl rfl

end InOrder

/-- Every history keeps the order of calls. -/
theorem after_inOrder (env : Environment σ) (options : SessionOptions) (host : σ)
    (operations : List (Operation σ)) : ((start options host).after env operations).InOrder := by
  induction operations using List.reverseRecOn with
  | nil =>
    refine .fresh rfl rfl rfl fun entry hentry => ?_
    exact absurd hentry List.not_mem_nil
  | append_singleton operations operation ih =>
    rw [after_append]
    refine InOrder.goes ?_ (perform_goes env _ operation)
    rw [before_perform]
    exact ih

/-- A session is closed by an exit and by nothing else. -/
theorem isClosed_of_goes {step : Step σ} (h : Goes env step) :
    step.after.session.isClosed = true ↔
      step.before.session.isClosed = true ∨ step.operation = .exit := by
  cases h with
  | run scene budget runs =>
    cases runs with
    | unprepared prepares => cases prepares <;> simp
    | prepared prepares queued executes => cases prepares; simp
  | exit scene exits =>
    obtain ⟨w, rfl⟩ := exits.exists_world
    simp [exited]
  | _ => simp

theorem isClosed_after_iff (env : Environment σ) (options : SessionOptions) (host : σ)
    (operations : List (Operation σ)) :
    ((start options host).after env operations).session.isClosed = true ↔ .exit ∈ operations := by
  induction operations using List.reverseRecOn with
  | nil => simp [after, start]
  | append_singleton operations operation ih =>
    rw [after_append, List.mem_append, List.mem_singleton, ← ih]
    have hstep := isClosed_of_goes (perform_goes env ((start options host).after env operations)
      operation)
    rw [before_perform, operation_perform] at hstep
    exact hstep.trans (or_congr_right eq_comm)

/-- A run of a closed session changes nothing. -/
theorem perform_run_of_closed (env : Environment σ) (hclosed : scene.session.isClosed = true)
    (budget : Nat) : scene.perform env (.run budget)
      = ⟨.run budget, scene, .error (.failed .sessionClosed), scene⟩ :=
  perform_of_ending env (run_of_unprepared env budget (run_prepare_of_closed env hclosed))

/-- An exit of a closed session calls nothing. -/
theorem perform_exit_of_closed (env : Environment σ) (h : scene.InOrder)
    (hclosed : scene.session.isClosed = true) :
    scene.perform env .exit = ⟨.exit, scene, .ok (), scene.exited scene.world⟩ :=
  perform_of_ending env (run_exit_of_no_engine env (h.of_closed hclosed).1)

/-- Nothing is called in a closed session. -/
theorem calls_after_of_closed (env : Environment σ) (h : scene.InOrder)
    (hclosed : scene.session.isClosed = true) (operations : List (Operation σ)) :
    (scene.after env operations).world.calls = scene.world.calls := by
  induction operations generalizing scene with
  | nil => rfl
  | cons operation rest ih =>
    have hgoes := scene.perform_goes env operation
    have hcalls : (scene.perform env operation).after.world.calls = scene.world.calls := by
      cases operation with
      | run budget => rw [perform_run_of_closed env hclosed]
      | exit => rw [perform_exit_of_closed env h hclosed]; rfl
      | _ => rfl
    have hinOrder : (scene.perform env operation).after.InOrder :=
      InOrder.goes (by rw [before_perform]; exact h) hgoes
    have hstays : (scene.perform env operation).after.session.isClosed = true :=
      (isClosed_of_goes hgoes).mpr (.inl (by rw [before_perform]; exact hclosed))
    rw [after_cons, ih hinOrder hstays, hcalls]

/-- Where what a run stops with comes from: the session is closed, or the launcher, the engine or an
action that the run has taken from the queue stops with it. A run has no failure of its own
besides. -/
inductive StopOrigin (env : Environment σ) (budget : Nat) (scene : Scene σ) (stop : Stop) : Prop
  | closed (hclosed : scene.session.isClosed = true) (hstop : stop = .failed .sessionClosed)
  | launcher {w : World σ} (hengine : scene.session.hasEngine = false)
      (stops : (env.doLaunch scene.session.options.launchParams).run scene.launching
        = .error stop w)
  | engine {w w₁ : World σ} (engine : scene.GetsEngine env w)
      (hpage : scene.session.hasPage = false) (stops : env.doCreatePage.run w = .error stop w₁)
  | action {ready : Scene σ} {executed skipped : List (Action σ)} {w : World σ}
      (hready : (prepare env).run scene = .ok () ready)
      (queued : scene.session.queue.toList = executed ++ skipped)
      (executes : (setting env ready.session budget).Executes ready.world executed skipped
        (.error stop) w)

theorem stopOrigin_of_run (env : Environment σ) (scene : Scene σ) (budget : Nat) {stop : Stop}
    (h : (scene.perform env (.run budget)).answer = .error stop) :
    StopOrigin env budget scene stop := by
  obtain ⟨answer, after, hstep, runs⟩ := scene.perform_run env budget
  rw [hstep] at h
  obtain rfl : answer = .error stop := h
  cases runs with
  | unprepared prepares =>
    cases prepares with
    | closed hclosed => exact .closed hclosed rfl
    | unlaunched _ hengine stops => exact .launcher hengine stops
    | unopened _ engine hpage stops => exact .engine engine hpage stops
  | prepared prepares queued executes =>
    rw [prepares.queue_eq] at queued
    exact .action (run_prepare env prepares) queued executes

end Scene

/-- After every history of a session, whatever its environment has answered:

* the calls to launcher, engine and page have come in the right order;
* the session knows of a page only where it knows of an engine, and of neither when it is closed,
  which it is after an exit and not before;
* in a closed session a run fails with that and changes nothing, another exit succeeds without a
  call, and whatever else is done, nothing is called any more;
* what a run stops with comes from the launcher, the engine or a queued action, unless the session
  is closed: a run never finds the engine or the page missing where it needs them. -/
theorem calls_in_order (env : Environment σ) (options : SessionOptions) (host : σ)
    (operations : List (Operation σ)) :
    let scene := (Scene.start options host).after env operations
    CallOrder scene.world.calls ∧
    (scene.session.hasPage = true → scene.session.hasEngine = true) ∧
    (scene.session.isClosed = true →
      scene.session.hasEngine = false ∧ scene.session.hasPage = false) ∧
    (scene.session.isClosed = true ↔ .exit ∈ operations) ∧
    (.exit ∈ operations →
      (∀ budget, scene.perform env (.run budget)
        = ⟨.run budget, scene, .error (.failed .sessionClosed), scene⟩) ∧
      (scene.perform env .exit).answer = .ok () ∧
      (scene.perform env .exit).after.world = scene.world ∧
      ∀ rest, (scene.after env rest).world.calls = scene.world.calls) ∧
    ∀ budget stop, (scene.perform env (.run budget)).answer = .error stop →
      Scene.StopOrigin env budget scene stop := by
  intro scene
  have hinOrder : scene.InOrder := Scene.after_inOrder env options host operations
  have hiff := Scene.isClosed_after_iff env options host operations
  refine ⟨hinOrder.callOrder, fun hpage => (hinOrder.withPage hpage).1, hinOrder.of_closed, hiff,
    fun hexit => ?_, fun budget stop => Scene.stopOrigin_of_run env scene budget⟩
  have hclosed : scene.session.isClosed = true := hiff.mpr hexit
  refine ⟨Scene.perform_run_of_closed env hclosed, ?_, ?_,
    Scene.calls_after_of_closed env hinOrder hclosed⟩
  · rw [Scene.perform_exit_of_closed env hinOrder hclosed]
  · rw [Scene.perform_exit_of_closed env hinOrder hclosed]
    rfl

end PagePilot
