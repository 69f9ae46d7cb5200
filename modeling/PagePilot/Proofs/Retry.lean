import PagePilot.Proofs.Backlog
import PagePilot.Proofs.Resemblance
import PagePilot.Proofs.Splice
import PagePilot.Proofs.Waiting

/-!
# Runs that do not get started

A run whose engine is not launched or opens no page does nothing but say so. The session can be
told more, and run again: the first run that gets started does what the first run of a session would
have done that was told the same things and got started at once.

## Main definitions

- `Scene.FailsToStart` - the engine is not launched, or opens no page
- `Environment.Conceals` - neither page nor clock nor actions notice what is launched in vain
- `Step.Retries` - work for a later run, or a run that does not get started
- `Scene.Lags` - a session that tried to start, and its twin that has not tried yet

## Main statements

- `failed_starts_are_retried` - what runs do that do not get started, and the first one that does
-/

namespace PagePilot

variable {σ : Type}

/-- A run does not get started: a call fails by which the engine is launched or the page is opened.
The session is not closed. -/
inductive Scene.FailsToStart (env : Environment σ) (scene : Scene σ) : Fault Failure → Prop
  | launch {fault : Fault Failure} {hosted : Hosted σ} (hopen : scene.session.isClosed = false)
      (hengine : scene.session.hasEngine = false)
      (hlaunch : (env.launch scene.session.options.launchParams).run { host := scene.world.host }
        = .error fault hosted) : FailsToStart env scene fault
  | page {fault : Fault Failure} {w : World σ} {hosted : Hosted σ}
      (hopen : scene.session.isClosed = false) (engine : scene.GetsEngine env w)
      (hpage : scene.session.hasPage = false)
      (hcreate : env.createPage.run { host := w.host } = .error fault hosted) :
      FailsToStart env scene fault

/-- Page, clock and actions do not notice what has been launched in vain. What is launched with
success is the same to them, however often it has been tried before. -/
structure Environment.Conceals (env : Environment σ) (same : σ → σ → Prop) : Prop where
  keeps : env.Keeps same
  equivalence : Equivalence same
  launch_failed (params : LaunchParams) (host : σ) {fault : Fault Failure} {hosted : Hosted σ} :
    (env.launch params).run { host := host } = .error fault hosted → same host hosted.host
  launch_ok (params : LaunchParams) {host host' : σ} {hosted hosted' : Hosted σ} :
    same host host' → (env.launch params).run { host := host } = .ok () hosted →
      (env.launch params).run { host := host' } = .ok () hosted' → same hosted.host hosted'.host
  createPage_failed (host : σ) {fault : Fault Failure} {hosted : Hosted σ} :
    env.createPage.run { host := host } = .error fault hosted → same host hosted.host
  createPage_ok {host host' : σ} {hosted hosted' : Hosted σ} :
    same host host' → env.createPage.run { host := host } = .ok () hosted →
      env.createPage.run { host := host' } = .ok () hosted' → same hosted.host hosted'.host

/-- Whether an engine has been launched, if the entry is about that. -/
def Entry.launch? : Entry σ → Option Bool
  | .launched _ succeeded => some succeeded
  | _ => none

/-- The attempts to launch an engine, in their order. -/
def World.launches (w : World σ) : List Bool := w.told Entry.launch?

/-- What has been tried to get from one state of the engine to another: nothing if it has been
running, else some attempts in vain, and a last one with success if it is running then. -/
def Attempts (before after : Bool) (tried : List Bool) : Prop :=
  if before then after = true ∧ tried = []
  else ∃ failed, tried = List.replicate failed false ++ if after then [true] else []

namespace Attempts

variable {before middle after : Bool} {tried more : List Bool}

theorem refl (engine : Bool) : Attempts engine engine [] := by
  cases engine with
  | true => exact ⟨rfl, rfl⟩
  | false => exact ⟨0, rfl⟩

theorem trans (hfirst : Attempts before middle tried) (hsecond : Attempts middle after more) :
    Attempts before after (tried ++ more) := by
  cases before with
  | true =>
    obtain ⟨rfl, rfl⟩ := hfirst
    exact hsecond
  | false =>
    obtain ⟨failed, rfl⟩ := hfirst
    cases middle with
    | true =>
      obtain ⟨rfl, rfl⟩ := hsecond
      exact ⟨failed, List.append_nil _⟩
    | false =>
      obtain ⟨again, rfl⟩ := hsecond
      refine ⟨failed + again, ?_⟩
      simp only [Bool.false_eq_true, if_false, List.append_nil, ← List.append_assoc,
        List.replicate_append_replicate]

end Attempts

theorem World.run_ask_of_fault {α : Type} {call : Host Failure σ α} {entry : Bool → Entry σ}
    {w : World σ} {fault : Fault Failure} {hosted : Hosted σ}
    (h : call.run { host := w.host } = .error fault hosted) :
    (World.ask call entry).run w
      = .error (.ofFault fault) (World.afterCall w.journal hosted (entry false)) := by
  obtain ⟨host, journal⟩ := w
  simp only [World.ask, EStateM.run] at h ⊢
  rw [h]

namespace Setting.Executes

/-- No action launches an engine. -/
theorem launches {s : Setting σ} {w w' : World σ} {executed skipped : List (Action σ)}
    {answer : Except Stop Unit} (h : s.Executes w executed skipped answer w') :
    w'.launches = w.launches := by
  have hexecute (action : Action σ) {w w' : World σ} {answer : Except Stop Unit}
      (hrun : (s.execute action).run w = Run.ending answer w') : w'.launches = w.launches := by
    refine told_execute Entry.isWork_admits (fun _ _ => rfl) (fun entry hentry => ?_) hrun
    cases entry with
    | launched params succeeded => exact hentry.elim
    | _ => rfl
  have hbegin (action : Action σ) (w : World σ) :
      (w.begin s.options.debug .main action).launches = w.launches :=
    (World.told_begin (fun _ => rfl) _ _ _ w).trans (List.append_nil _)
  induction h with
  | done => rfl
  | @next w w₁ w₂ action executed skipped answer succeeds rest ih =>
    rw [ih, hexecute action (show _ = Run.ending (.ok ()) w₁ from succeeds), hbegin]
  | @stopped w w₁ action skipped stop stops =>
    refine (told_afterStop (fun _ => rfl) _ _ _ w₁).trans ?_
    exact (hexecute action (show _ = Run.ending (.error stop) w₁ from stops)).trans (hbegin _ _)

end Setting.Executes

namespace Scene

variable {env : Environment σ} {same : σ → σ → Prop} {scene scene' twin : Scene σ}

theorem Prepares.begun {answer : Except Stop Unit} (h : scene.Prepares env answer scene') :
    scene'.world.begun = scene.world.begun :=
  h.told (fun _ => rfl) (fun _ _ => rfl) fun _ => rfl

theorem GetsEngine.launches {w : World σ} (h : scene.GetsEngine env w) :
    ∃ tried, w.launches = scene.world.launches ++ tried ∧
      Attempts scene.session.hasEngine true tried := by
  refine ⟨_, h.told fun _ => rfl, ?_⟩
  cases scene.session.hasEngine with
  | true => exact .refl true
  | false => exact ⟨0, rfl⟩

theorem Prepares.launches {answer : Except Stop Unit} (h : scene.Prepares env answer scene') :
    ∃ tried, scene'.world.launches = scene.world.launches ++ tried ∧
      Attempts scene.session.hasEngine scene'.session.hasEngine tried := by
  cases h with
  | closed _ => exact ⟨[], (List.append_nil _).symm, .refl _⟩
  | @unlaunched stop w _ hengine stops =>
    have hlogged : ∀ record, (Entry.logged record : Entry σ).launch? = none := fun _ => rfl
    have htold := World.told_ask hlogged (show _ = Run.ending (.error stop) w from stops)
    rw [told_launching fun _ => rfl] at htold
    refine ⟨_, htold, ?_⟩
    simp only [hengine]
    exact ⟨1, rfl⟩
  | @unopened stop w w₁ _ engine _ stops =>
    have htold : w₁.launches = w.launches ++ [] :=
      World.told_ask (fun _ => rfl) (show _ = Run.ending (.error stop) w₁ from stops)
    obtain ⟨tried, hlaunches, attempts⟩ := engine.launches
    exact ⟨tried, htold.trans ((List.append_nil _).trans hlaunches), attempts⟩
  | @ready w w₁ _ engine page =>
    obtain ⟨tried, hlaunches, attempts⟩ := engine.launches
    refine ⟨tried, ?_, attempts⟩
    rw [← hlaunches]
    refine (page.told fun _ => rfl).trans ?_
    cases scene.session.hasPage <;> exact List.append_nil _

/-- A session that does not get started may have an engine then, but is the same otherwise. What
has gone wrong is what it answers. -/
theorem FailsToStart.prepares {fault : Fault Failure} (h : scene.FailsToStart env fault) :
    ∃ scene', scene.Prepares env (.error (.ofFault fault)) scene' ∧
      scene'.session = { scene.session with hasEngine := scene'.session.hasEngine } := by
  cases h with
  | launch hopen hengine hlaunch =>
    rw [← host_launching] at hlaunch
    exact ⟨_, .unlaunched hopen hengine (World.run_ask_of_fault hlaunch), rfl⟩
  | page hopen engine hpage hcreate =>
    exact ⟨_, .unopened hopen engine hpage (World.run_ask_of_fault hcreate), rfl⟩

/-- A session that has tried to start, and its twin that has been told the same but has not tried
yet. The outside looks the same to them, if need be after a launch that the twin still has to
make. -/
inductive Lags (env : Environment σ) (same : σ → σ → Prop) : Scene σ → Scene σ → Prop
  | level {session : Session σ} {w w' : World σ} (hsame : same w.host w'.host) :
      Lags env same ⟨session, w⟩ ⟨session, w'⟩
  | ahead {session : Session σ} {w w' : World σ} (hengine : session.hasEngine = false)
      (hsame : ∀ hosted, (env.launch session.options.launchParams).run { host := w'.host }
        = .ok () hosted → same w.host hosted.host) :
      Lags env same ⟨{ session with hasEngine := true }, w⟩ ⟨session, w'⟩

theorem GetsEngine.exists_launch {session : Session σ} {w w₁ : World σ}
    (hengine : session.hasEngine = false) (h : GetsEngine env ⟨session, w⟩ w₁) :
    ∃ hosted, (env.launch session.options.launchParams).run { host := w.host } = .ok () hosted ∧
      w₁.host = hosted.host := by
  rcases h with ⟨habsurd, -⟩ | ⟨-, launched⟩
  · exact absurd (hengine.symm.trans habsurd) Bool.false_ne_true
  · have hasked := World.run_ask_of_ok launched
    rwa [host_launching] at hasked

theorem GetsEngine.eq_of_hasEngine {w : World σ} (hengine : scene.session.hasEngine = true)
    (h : scene.GetsEngine env w) : w = scene.world := by
  rcases h with ⟨-, rfl⟩ | ⟨habsurd, -⟩
  · rfl
  · exact absurd (habsurd.symm.trans hengine) Bool.false_ne_true

theorem GetsPage.keeps {scene scene' : Scene σ} (henv : env.Conceals same)
    (hpages : scene'.session.hasPage = scene.session.hasPage) {w w' w₁ w₁' : World σ}
    (hsame : same w.host w'.host) (h : scene.GetsPage env w w₁)
    (h' : scene'.GetsPage env w' w₁') : same w₁.host w₁'.host := by
  rcases h with ⟨hpage, rfl⟩ | ⟨hpage, opened⟩
  · rcases h' with ⟨-, rfl⟩ | ⟨habsurd, -⟩
    · exact hsame
    · exact absurd (habsurd.symm.trans (hpages.trans hpage)) Bool.false_ne_true
  · rcases h' with ⟨habsurd, -⟩ | ⟨-, opened'⟩
    · exact absurd (hpage.symm.trans (hpages.symm.trans habsurd)) Bool.false_ne_true
    · obtain ⟨hosted, hcreate, hhost⟩ := World.run_ask_of_ok opened
      obtain ⟨hosted', hcreate', hhost'⟩ := World.run_ask_of_ok opened'
      rw [hhost, hhost']
      exact henv.createPage_ok hsame hcreate hcreate'

namespace Lags

variable (henv : env.Conceals same) {stop : Stop}

include henv

/-- A run in vain leaves the twin where it is. -/
theorem fails (h : scene.Lags env same twin) (hopen : scene.session.isClosed = false)
    (prepares : scene.Prepares env (.error stop) scene') : scene'.Lags env same twin := by
  have htrans {a b c : σ} (hfirst : same a b) (hsecond : same a c) : same b c :=
    henv.equivalence.trans (henv.equivalence.symm hfirst) hsecond
  cases prepares with
  | closed hclosed => exact absurd (hopen.symm.trans hclosed) Bool.false_ne_true
  | unlaunched _ hengine stops =>
    cases h with
    | ahead _ _ => cases hengine
    | @level session w w' hsame =>
      obtain ⟨fault, hosted, hlaunch, -, hhost⟩ := World.run_ask_of_error stops
      rw [host_launching] at hlaunch
      refine .level (htrans ?_ hsame)
      rw [hhost]
      exact henv.launch_failed _ _ hlaunch
  | @unopened _ w₁ w₂ _ engine _ stops =>
    obtain ⟨fault, hosted, hcreate, -, hhost⟩ := World.run_ask_of_error stops
    have hpage : same w₁.host w₂.host := by
      rw [hhost]
      exact henv.createPage_failed _ hcreate
    cases h with
    | @ahead session w w' hengine hsame =>
      obtain rfl := engine.eq_of_hasEngine rfl
      exact .ahead hengine fun hosted hlaunch => htrans hpage (hsame hosted hlaunch)
    | @level session w w' hsame =>
      cases hengine : session.hasEngine with
      | true =>
        obtain rfl := engine.eq_of_hasEngine hengine
        have hsession : { session with hasEngine := true } = session := by
          rw [← hengine]
        rw [hsession]
        exact .level (htrans hpage hsame)
      | false =>
        -- the engine has been launched by this run, and the twin has still to launch it
        obtain ⟨launched, hlaunch, hhost₁⟩ := engine.exists_launch hengine
        refine .ahead hengine fun launched' hlaunch' => htrans hpage ?_
        rw [hhost₁]
        exact henv.launch_ok _ hsame hlaunch hlaunch'

/-- When both get started, they are the same session, and the outside looks the same to them. -/
theorem ready {ready ready' : Scene σ} (h : scene.Lags env same twin)
    (prepares : scene.Prepares env (.ok ()) ready) (prepares' : twin.Prepares env (.ok ()) ready') :
    ready'.session = ready.session ∧ same ready.world.host ready'.world.host := by
  cases prepares with
  | ready _ engine page =>
    cases prepares' with
    | ready _ engine' page' =>
      cases h with
      | @ahead session w w' hengine hsame =>
        obtain rfl := engine.eq_of_hasEngine rfl
        obtain ⟨launched', hlaunch', hhost'⟩ := engine'.exists_launch hengine
        refine ⟨rfl, page.keeps henv rfl ?_ page'⟩
        rw [hhost']
        exact hsame launched' hlaunch'
      | @level session w w' hsame =>
        refine ⟨rfl, page.keeps henv rfl ?_ page'⟩
        cases hengine : session.hasEngine with
        | true =>
          obtain rfl := engine.eq_of_hasEngine hengine
          obtain rfl := engine'.eq_of_hasEngine hengine
          exact hsame
        | false =>
          obtain ⟨launched, hlaunch, hhost⟩ := engine.exists_launch hengine
          obtain ⟨launched', hlaunch', hhost'⟩ := engine'.exists_launch hengine
          rw [hhost, hhost']
          exact henv.launch_ok _ hsame hlaunch hlaunch'

end Lags

end Scene

/-- Whether an operation is a run. -/
def Operation.isRun : Operation σ → Bool
  | .run _ => true
  | .enqueue _ | .afterOpen _ | .tell _ _ | .exit | .meanwhile _ => false

/-- The step is work for a later run, of a kind to which hosts that look the same are the same, or a
run that does not get started. -/
def Step.Retries (env : Environment σ) (same : σ → σ → Prop) (step : Step σ) : Prop :=
  match step.operation with
  | .enqueue action | .afterOpen action => action.Keeps same
  | .tell scope verb =>
    ∀ action ∈ scope.actions step.before.session.options verb, action.Keeps same
  | .run _ => ∃ fault, step.before.FailsToStart env fault
  | .exit | .meanwhile _ => False

/-- To everything that is queued or registered, hosts that look the same are the same. -/
structure Session.Keeps (session : Session σ) (same : σ → σ → Prop) : Prop where
  queue : ∀ action ∈ session.queue.toList, action.Keeps same
  afterOpen : ∀ action ∈ session.afterOpen.toList, action.Keeps same

namespace Scene

variable {env : Environment σ} {same : σ → σ → Prop} {scene twin : Scene σ}

theorem FailsToStart.isOpen {fault : Fault Failure} (h : scene.FailsToStart env fault) :
    scene.session.isClosed = false := by
  cases h with
  | launch hopen _ _ => exact hopen
  | page hopen _ _ _ => exact hopen

/-- A run that does not get started, as it is performed. -/
theorem FailsToStart.perform {fault : Fault Failure} (h : scene.FailsToStart env fault)
    (budget : Nat) : ∃ scene', scene.Prepares env (.error (.ofFault fault)) scene' ∧
      scene'.session = { scene.session with hasEngine := scene'.session.hasEngine } ∧
      scene.perform env (.run budget)
        = ⟨.run budget, scene, .error (.ofFault fault), scene'⟩ := by
  obtain ⟨scene', prepares, hsession⟩ := h.prepares
  refine ⟨scene', prepares, hsession, perform_of_ending env ?_⟩
  exact run_of_unprepared env budget (run_prepare env prepares)

/-- What one operation does to a session that tries to start, and to its twin. -/
structure Advances (env : Environment σ) (same : σ → σ → Prop) (scene after : Scene σ)
    (enqueued : List (Action σ)) : Prop where
  keeps : after.session.Keeps same
  queue : after.session.queue.toList = scene.session.queue.toList ++ enqueued
  mains : after.world.mains = scene.world.mains
  launches : ∃ tried, after.world.launches = scene.world.launches ++ tried ∧
    Attempts scene.session.hasEngine after.session.hasEngine tried

theorem Advances.of_told {after : Scene σ} {enqueued : List (Action σ)}
    (keeps : after.session.Keeps same)
    (queue : after.session.queue.toList = scene.session.queue.toList ++ enqueued)
    (hworld : after.world = scene.world)
    (hengine : after.session.hasEngine = scene.session.hasEngine) :
    Advances env same scene after enqueued := by
  refine ⟨keeps, queue, by rw [hworld], [], ?_, ?_⟩
  · rw [hworld, List.append_nil]
  · rw [hengine]
    exact .refl _

theorem advances_of_retries {operation : Operation σ} (keeps : scene.session.Keeps same)
    (h : (scene.perform env operation).Retries env same) :
    Advances env same scene (scene.perform env operation).after
      (scene.perform env operation).enqueued := by
  cases operation with
  | enqueue action =>
    refine .of_told ⟨fun other hmem => ?_, keeps.afterOpen⟩ rfl rfl rfl
    rcases List.mem_append.mp hmem with hold | hnew
    · exact keeps.queue other hold
    · obtain rfl := List.mem_singleton.mp hnew
      exact h
  | afterOpen action =>
    refine .of_told ⟨keeps.queue, fun other hmem => ?_⟩ (List.append_nil _).symm rfl rfl
    rcases List.mem_append.mp hmem with hold | hnew
    · exact keeps.afterOpen other hold
    · obtain rfl := List.mem_singleton.mp hnew
      exact h
  | tell scope verb =>
    refine .of_told ⟨fun other hmem => ?_, keeps.afterOpen⟩ rfl rfl rfl
    rcases List.mem_append.mp hmem with hold | hnew
    · exact keeps.queue other hold
    · exact h other hnew
  | run budget =>
    rw [Step.Retries, operation_perform, before_perform] at h
    obtain ⟨fault, hfails⟩ := h
    obtain ⟨scene', prepares, hsession, hstep⟩ := hfails.perform budget
    rw [hstep]
    refine ⟨?_, ?_, prepares.mains, prepares.launches⟩
    · rw [hsession]
      exact ⟨keeps.queue, keeps.afterOpen⟩
    · rw [hsession]
      exact (List.append_nil _).symm
  | exit =>
    rw [Step.Retries, operation_perform] at h
    exact h.elim
  | meanwhile change =>
    rw [Step.Retries, operation_perform] at h
    exact h.elim

/-- A change of both sessions that has nothing to do with the engine. -/
theorem Lags.change (h : scene.Lags env same twin) (f : Session σ → Session σ)
    (hlaunched : ∀ s : Session σ, f { s with hasEngine := true } = { f s with hasEngine := true })
    (hengine : ∀ s, (f s).hasEngine = s.hasEngine) (hoptions : ∀ s, (f s).options = s.options) :
    Lags env same ⟨f scene.session, scene.world⟩ ⟨f twin.session, twin.world⟩ := by
  cases h with
  | level hsame => exact .level hsame
  | @ahead session w w' habsent hsame =>
    simp only [hlaunched]
    refine .ahead ((hengine session).trans habsent) ?_
    rw [hoptions]
    exact hsame

/-- New work is the same to both, and a run in vain leaves the twin where it is. -/
theorem Lags.perform (h : scene.Lags env same twin) (henv : env.Conceals same)
    {operation : Operation σ} (hretries : (scene.perform env operation).Retries env same) :
    (scene.perform env operation).after.Lags env same
      (twin.after env ([operation].filter fun operation => !operation.isRun)) := by
  cases operation with
  | enqueue action =>
    exact h.change (fun s => { s with queue := s.queue.append [action] }) (fun _ => rfl)
      (fun _ => rfl) fun _ => rfl
  | afterOpen action =>
    exact h.change (fun s => { s with afterOpen := s.afterOpen.push action }) (fun _ => rfl)
      (fun _ => rfl) fun _ => rfl
  | tell scope verb =>
    exact h.change (fun s => { s with queue := s.queue.append (scope.actions s.options verb) })
      (fun _ => rfl) (fun _ => rfl) fun _ => rfl
  | run budget =>
    rw [Step.Retries, operation_perform, before_perform] at hretries
    obtain ⟨fault, hfails⟩ := hretries
    obtain ⟨scene', prepares, -, hstep⟩ := hfails.perform budget
    rw [hstep]
    exact h.fails henv hfails.isOpen prepares
  | exit =>
    rw [Step.Retries, operation_perform] at hretries
    exact hretries.elim
  | meanwhile change =>
    rw [Step.Retries, operation_perform] at hretries
    exact hretries.elim

theorem Advances.trans {middle after : Scene σ} {first second : List (Action σ)}
    (hfirst : Advances env same scene middle first)
    (hsecond : Advances env same middle after second) :
    Advances env same scene after (first ++ second) := by
  obtain ⟨tried, hlaunches, attempts⟩ := hfirst.launches
  obtain ⟨more, hlaunches', attempts'⟩ := hsecond.launches
  refine ⟨hsecond.keeps, ?_, hsecond.mains.trans hfirst.mains, tried ++ more, ?_,
    attempts.trans attempts'⟩
  · rw [hsecond.queue, hfirst.queue, List.append_assoc]
  · rw [hlaunches', hlaunches, List.append_assoc]

/-- Any number of runs in vain, with new work between them. -/
theorem lags_after (henv : env.Conceals same) {operations : List (Operation σ)}
    (hlags : scene.Lags env same twin) (keeps : scene.session.Keeps same)
    (hretries : ∀ step ∈ scene.history env operations, step.Retries env same) :
    (scene.after env operations).Lags env same
        (twin.after env (operations.filter fun operation => !operation.isRun)) ∧
      Advances env same scene (scene.after env operations)
        ((scene.history env operations).flatMap Step.enqueued) := by
  induction operations generalizing scene twin with
  | nil => exact ⟨hlags, .of_told keeps (List.append_nil _).symm rfl rfl⟩
  | cons operation rest ih =>
    rw [history_cons] at hretries
    obtain ⟨hfirst, hrest⟩ := List.forall_mem_cons.mp hretries
    have hadvances := advances_of_retries keeps hfirst
    obtain ⟨hlagsRest, hadvancesRest⟩ := ih (hlags.perform henv hfirst) hadvances.keeps hrest
    rw [← after_append, ← List.filter_append] at hlagsRest
    exact ⟨hlagsRest, hadvances.trans hadvancesRest⟩

end Scene

/-- A run of a session whose engine is not launched, or opens no page, answers with just this fault,
executes nothing and leaves the session as it was, except that it may have an engine now.

After any number of such runs, and whatever has been queued and registered before, between and
after them, the first run that gets started ends as the first run of a twin does that has been told
the same and gets started at once, provided that page, clock and actions do not notice what has been
launched in vain: both answer the same, leave the same session, note the same and leave hosts that
look the same. What the run executes are the first of all actions that have been queued. After the
engine has been launched once with success it is not launched again. -/
theorem failed_starts_are_retried (env : Environment σ) :
    (∀ (scene : Scene σ) (fault : Fault Failure) (budget : Nat), scene.FailsToStart env fault →
      let step := scene.perform env (.run budget)
      step.answer = .error (.ofFault fault) ∧
      step.after.session = { scene.session with hasEngine := step.after.session.hasEngine } ∧
      step.after.world.begun = scene.world.begun) ∧
    ∀ (same : σ → σ → Prop), env.Conceals same →
    ∀ (session : Session σ) (w w' : World σ) (operations : List (Operation σ)) (budget : Nat),
      session.Keeps same → same w.host w'.host →
      let scene : Scene σ := ⟨session, w⟩
      let history := scene.history env operations
      let retried := scene.after env operations
      let twin := (⟨session, w'⟩ : Scene σ).after env
        (operations.filter fun operation => !operation.isRun)
      (∀ step ∈ history, step.Retries env same) →
      ∀ ready ready', (Scene.prepare env).run retried = .ok () ready →
        (Scene.prepare env).run twin = .ok () ready' →
        let step := retried.perform env (.run budget)
        let other := twin.perform env (.run budget)
        other.answer = step.answer ∧
        other.after.session = step.after.session ∧
        same step.after.world.host other.after.world.host ∧
        (∃ added, step.after.world.journal = ready.world.journal ++ added ∧
          other.after.world.journal = ready'.world.journal ++ added) ∧
        (∃ executed skipped,
          session.queue.toList ++ history.flatMap Step.enqueued = executed ++ skipped ∧
          step.after.world.mains = w.mains ++ executed ∧
          (Scene.setting env ready.session budget).Executes ready.world executed skipped
            step.answer step.after.world) ∧
        ∃ tried, step.after.world.launches = w.launches ++ tried ∧
          Attempts session.hasEngine true tried := by
  constructor
  · intro scene fault budget hfails step
    obtain ⟨scene', prepares, hsession, hstep⟩ := hfails.perform budget
    have hstep : step = ⟨.run budget, scene, .error (.ofFault fault), scene'⟩ := hstep
    rw [hstep]
    exact ⟨rfl, hsession, prepares.begun⟩
  · intro same henv session w w' operations budget keeps hsame scene history retried twin hretries
      ready ready' hready hready' step other
    obtain ⟨hlags, hadvances⟩ := Scene.lags_after henv (.level hsame) keeps hretries
    have prepares : retried.Prepares env (.ok ()) ready := Scene.prepares_of_run env hready
    have prepares' : twin.Prepares env (.ok ()) ready' := Scene.prepares_of_run env hready'
    obtain ⟨hsession, hhosts⟩ := hlags.ready henv prepares prepares'
    have hkeeps : ready.session.Keeps same :=
      ⟨prepares.queue_eq ▸ hadvances.keeps.queue, prepares.afterOpen_eq ▸ hadvances.keeps.afterOpen⟩
    -- both runs execute the same actions in the same setting
    have hexecute : ((Scene.setting env ready.session budget).executeAll
        ready.session.queue.toList).Keeps same :=
      Setting.executeAll_keeps henv.keeps hkeeps.afterOpen hkeeps.queue
    obtain ⟨answer, after, after', added, hafter, hends, hends'⟩ := hexecute _ _ hhosts
    have hrun := hends ready.world.journal
    have hrun' := hends' ready'.world.journal
    have hstep : step = ⟨.run budget, retried, answer,
        ⟨{ ready.session with queue := {} }, after, ready.world.journal ++ added⟩⟩ :=
      Scene.perform_of_ending env (Scene.run_of_prepared env budget hready prepares.hasPage hrun)
    rw [← hsession] at hrun'
    have hother : other = ⟨.run budget, twin, answer,
        ⟨{ ready'.session with queue := {} }, after', ready'.world.journal ++ added⟩⟩ :=
      Scene.perform_of_ending env (Scene.run_of_prepared env budget hready' prepares'.hasPage hrun')
    obtain ⟨executed, skipped, answer', last, hqueue, hlast, executes⟩ :=
      (Scene.setting env ready.session budget).executeAll_executes ready.session.queue.toList
        ready.world
    obtain ⟨rfl, rfl⟩ := Run.ending_inj (hrun.symm.trans hlast)
    rw [hstep, hother]
    refine ⟨rfl, by rw [hsession], hafter, ⟨added, rfl, rfl⟩,
      ⟨executed, skipped, ?_, ?_, executes⟩, ?_⟩
    · exact hadvances.queue.symm.trans ((congrArg Queue.toList prepares.queue_eq).symm.trans hqueue)
    · refine executes.mains.trans ?_
      rw [prepares.mains, hadvances.mains]
    · obtain ⟨tried, hlaunches, attempts⟩ := hadvances.launches
      obtain ⟨more, hlaunches', attempts'⟩ := prepares.launches
      rw [prepares.hasEngine] at attempts'
      refine ⟨tried ++ more, executes.launches.trans ?_, attempts.trans attempts'⟩
      rw [hlaunches', hlaunches, List.append_assoc]

/-- An environment that counts down the failures ahead of it, of which the last is one of the page,
and counts up the calls to its page. -/
def balky : Environment (Nat × Nat) where
  launch _ := fun ⟨(failures, calls), records⟩ =>
    if failures > 1 then .error (.failed (.launchFailed "busy")) ⟨(failures - 1, calls), records⟩
    else .ok () ⟨(failures, calls), records⟩
  createPage := fun ⟨(failures, calls), records⟩ =>
    if failures > 0 then .error (.failed (.engine "no tab")) ⟨(failures - 1, calls), records⟩
    else .ok () ⟨(0, calls), records⟩
  exit := pure ()
  call call := fun ⟨(failures, calls), records⟩ =>
    match call with
    | .evaluate _ _ => .ok Json.null ⟨(failures, calls + 1), records⟩
    | .navigate _ | .setViewport _ _ | .render _ | .clickAt _ _ =>
      .ok () ⟨(failures, calls + 1), records⟩
  now host := (.zero, host)
  sleep _ := pure ()

/-- Nobody notices how many failures are ahead. -/
theorem balky_conceals : balky.Conceals fun host host' => host.2 = host'.2 where
  keeps := by
    refine ⟨fun call => ?_, fun _ _ h => ⟨rfl, h⟩, fun _ _ _ h => .ok () [] h⟩
    rintro ⟨failures, calls⟩ ⟨failures', calls'⟩ h
    obtain rfl : calls = calls' := h
    cases call <;> exact .ok _ [] rfl
  equivalence := ⟨fun _ => rfl, Eq.symm, Eq.trans⟩
  launch_failed := by
    rintro params ⟨failures, calls⟩ fault hosted h
    simp only [balky, EStateM.run] at h
    split at h
    · cases h
      rfl
    · cases h
  launch_ok := by
    rintro params ⟨failures, calls⟩ ⟨failures', calls'⟩ hosted hosted' h hlaunch hlaunch'
    simp only [balky, EStateM.run] at hlaunch hlaunch'
    split at hlaunch
    · cases hlaunch
    · split at hlaunch'
      · cases hlaunch'
      · cases hlaunch
        cases hlaunch'
        exact h
  createPage_failed := by
    rintro ⟨failures, calls⟩ fault hosted h
    simp only [balky, EStateM.run] at h
    split at h
    · cases h
      rfl
    · cases h
  createPage_ok := by
    rintro ⟨failures, calls⟩ ⟨failures', calls'⟩ hosted hosted' h hcreate hcreate'
    simp only [balky, EStateM.run] at hcreate hcreate'
    split at hcreate
    · cases hcreate
    · split at hcreate'
      · cases hcreate'
      · cases hcreate
        cases hcreate'
        exact h

/-- The engine is launched in vain once, then it opens no page, and the third run gets started. -/
theorem failed_starts_are_retried_third :
    let session : Session (Nat × Nat) := { options := {} }
    let scene : Scene (Nat × Nat) := ⟨session, { host := (2, 0) }⟩
    let operations : List (Operation (Nat × Nat)) :=
      [.enqueue (.viewport 800 600), .run 1, .afterOpen (.screenshot "a.png"), .run 1,
        .enqueue (.navigate "/")]
    let retried := scene.after balky operations
    scene.FailsToStart balky (.failed (.launchFailed "busy")) ∧
    (∀ step ∈ scene.history balky operations,
      step.Retries balky fun host host' => host.2 = host'.2) ∧
    (retried.perform balky (.run 1)).answer = .ok () ∧
    (retried.perform balky (.run 1)).after.world.host.2 = 3 ∧
    ∃ tried, (retried.perform balky (.run 1)).after.world.launches = tried ∧
      Attempts false true tried := by
  intro session scene operations retried
  have hfails : scene.FailsToStart balky (.failed (.launchFailed "busy")) := .launch rfl rfl rfl
  have hretries : ∀ step ∈ scene.history balky operations,
      step.Retries balky fun host host' => host.2 = host'.2 := by
    intro step hmem
    simp only [operations, Scene.history, List.mem_cons, List.not_mem_nil, or_false] at hmem
    rcases hmem with rfl | rfl | rfl | rfl | rfl
    · trivial
    · exact ⟨_, .launch rfl rfl rfl⟩
    · trivial
    · exact ⟨_, .page rfl (.inr ⟨rfl, rfl⟩) rfl rfl⟩
    · trivial
  obtain ⟨hatomic, hretried⟩ := failed_starts_are_retried balky
  obtain ⟨-, hsession, -⟩ := hatomic scene _ 1 hfails
  have hkeeps : session.Keeps fun host host' => host.2 = host'.2 :=
    ⟨fun _ hmem => absurd hmem List.not_mem_nil, fun _ hmem => absurd hmem List.not_mem_nil⟩
  obtain ⟨hanswer, -, hhost, -, -, tried, hlaunches, attempts⟩ := hretried _ balky_conceals session
    { host := (2, 0) } { host := (0, 0) } operations 1 hkeeps rfl hretries _ _ rfl rfl
  exact ⟨hfails, hretries, hanswer.symm, hhost, tried, hlaunches, attempts⟩

end PagePilot
