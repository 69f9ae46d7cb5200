import PagePilot.Chromium.Engine
import PagePilot.Proofs.CallOrder
import PagePilot.Proofs.Evaluation
import PagePilot.Proofs.Launching
import PagePilot.Proofs.Provenance
import PagePilot.Proofs.Resemblance
import PagePilot.Proofs.Restraint
import PagePilot.Proofs.Retry

/-!
# Failures of sessions in Chromium

Over the whole life of a session in Chromium the failure of a run tells where it comes from: the
session has been exited, the browser has not been started or has opened no tab, or the last action
that has been begun has failed, in one of its own ways.

## Main definitions

- `Chromium.IsBuiltin`, `Chromium.IsPlain` - actions and operations that bring no steps of their own
- `Chromium.Whole` - a session whose engine runs a browser
- `Chromium.StartFailed` - what keeps a run from getting engine and page ready

## Main statements

- `Chromium.environment_failsInKind` - calls to a page in Chromium fail in their own ways only
- `Chromium.run_failure_origin` - where the failure of a run comes from
-/

namespace PagePilot

variable {σ τ α β : Type}

/-- The call keeps a property of the outside, whether it succeeds or not. -/
structure Host.Preserves (I : σ → Prop) (call : Host Failure σ α) : Prop where
  ok {w w₁ : Hosted σ} {a : α} : I w.host → call.run w = .ok a w₁ → I w₁.host
  error {w w₁ : Hosted σ} {fault : Fault Failure} :
    I w.host → call.run w = .error fault w₁ → I w₁.host

/-- To a call that keeps a property, hosts that have it look the same as themselves. -/
theorem Host.Preserves.keeps {I : σ → Prop} {call : Host Failure σ α} (h : Host.Preserves I call) :
    Host.Keeps (Having I) call := by
  rintro _ host ⟨rfl, hI⟩
  cases hcall : call.run { host := host } with
  | ok a w₁ => exact .ok a w₁.records ⟨rfl, h.ok hI hcall⟩
  | error fault w₁ => exact .error fault w₁.records ⟨rfl, h.error hI hcall⟩

theorem Host.Preserves.bind {I : σ → Prop} {call : Host Failure σ α}
    {next : α → Host Failure σ β} (h : Host.Preserves I call)
    (hnext : ∀ a, Host.Preserves I (next a)) : Host.Preserves I (call >>= next) := by
  constructor
  · intro w w₁ b hI hrun
    rw [EStateM.run_bind] at hrun
    cases hcall : call.run w with
    | ok a w' =>
      rw [hcall] at hrun
      exact (hnext a).ok (h.ok hI hcall) hrun
    | error fault w' =>
      rw [hcall] at hrun
      cases hrun
  · intro w w₁ fault hI hrun
    rw [EStateM.run_bind] at hrun
    cases hcall : call.run w with
    | ok a w' =>
      rw [hcall] at hrun
      exact (hnext a).error (h.ok hI hcall) hrun
    | error fault w' =>
      rw [hcall] at hrun
      cases hrun
      exact h.error hI hcall

theorem Host.run_bind_eq_ok {call : Host Failure σ α} {next : α → Host Failure σ β}
    {w w₁ : Hosted σ} {b : β} (h : (call >>= next).run w = .ok b w₁) :
    ∃ a w', call.run w = .ok a w' ∧ (next a).run w' = .ok b w₁ := by
  rw [EStateM.run_bind] at h
  cases hcall : call.run w with
  | ok a w' =>
    rw [hcall] at h
    exact ⟨a, w', rfl, h⟩
  | error fault w' =>
    rw [hcall] at h
    cases h

/-- A call that stops with a fault, if nothing behind it does. -/
theorem Host.run_bind_eq_error {call : Host Failure σ α} {next : α → Host Failure σ β}
    {w w₁ : Hosted σ} {fault : Fault Failure} (h : (call >>= next).run w = .error fault w₁)
    (hnext : ∀ a w', (next a).run w' ≠ .error fault w₁) : call.run w = .error fault w₁ := by
  rw [EStateM.run_bind] at h
  cases hcall : call.run w with
  | ok a w' =>
    rw [hcall] at h
    exact absurd h (hnext a w')
  | error fault' w' =>
    rw [hcall] at h
    cases h
    rfl

namespace Chromium

section Calls

variable {P : Failure → Prop}

theorem throws_lift {ε : Type} {tell : ε → Failure} {op : EStateM (Fault ε) τ α}
    (h : ∀ cause, P (tell cause)) : Throws (Fault.Of P) (Host.lift tell op) := by
  rintro ⟨host, records⟩ fault w₁ hrun
  simp only [Host.lift, EStateM.run] at hrun
  split at hrun
  · cases hrun
  · next cause _ _ =>
    cases hrun
    cases cause with
    | failed cause => exact h cause
    | clockOverflow => trivial

/-- The failure of an operation tells the cause. -/
theorem failed_of_lift {ε : Type} {tell : ε → Failure} {op : EStateM (Fault ε) τ α}
    {w w' : Hosted τ} {failure : Failure}
    (h : (Host.lift tell op).run w = .error (.failed failure) w') :
    ∃ cause, failure = tell cause ∧ op.run w.host = .error (.failed cause) w'.host := by
  simp only [Host.lift, EStateM.run] at h ⊢
  split at h
  · cases h
  · next fault host' hop =>
    cases fault with
    | failed cause =>
      cases h
      exact ⟨cause, rfl, hop⟩
    | clockOverflow => cases h

theorem error_of_onInner {op : Host Failure τ α} {w w' : Hosted (Machine τ)}
    {fault : Fault Failure} (h : (onInner op).run w = .error fault w') :
    ∃ after, op.run ⟨w.host.inner, w.records⟩ = .error fault after ∧
      w'.host.inner = after.host := by
  simp only [onInner, EStateM.run] at h ⊢
  split at h
  · cases h
  · next hop =>
    cases h
    exact ⟨_, hop, rfl⟩

theorem throws_onInner {op : Host Failure τ α} (h : Throws (Fault.Of P) op) :
    Throws (Fault.Of P) (onInner op) := by
  intro w fault w₁ hrun
  simp only [onInner, EStateM.run] at hrun
  split at hrun
  · cases hrun
  · next hop =>
    cases hrun
    exact h _ _ _ hop

theorem preserves_onInner (op : Host Failure τ α) (engine : Option Engine) :
    Host.Preserves (fun m : Machine τ => m.engine = engine) (onInner op) := by
  constructor
  · intro w w₁ a hengine hrun
    simp only [onInner, EStateM.run] at hrun
    split at hrun
    · cases hrun
      exact hengine
    · cases hrun
  · intro w w₁ fault hengine hrun
    simp only [onInner, EStateM.run] at hrun
    split at hrun
    · cases hrun
    · cases hrun
      exact hengine

theorem preserves_change (engine : Option Engine) (f : Machine τ → Machine τ)
    (h : ∀ m, (f m).engine = m.engine) :
    Host.Preserves (fun m : Machine τ => m.engine = engine) (change f) := by
  constructor
  · intro w w₁ _ hengine hrun
    cases hrun
    exact (h w.host).trans hengine
  · intro w w₁ fault _ hrun
    cases hrun

variable (browser : Browser τ) (options : Options) (now : τ → Duration × τ)
  (sleep : Duration → Op τ Unit)

theorem perform_throws (tab : TabId) (call : PageCall) :
    Throws (Fault.Of call.MayFailWith) (perform browser tab call) := by
  cases call with
  | navigate url =>
    exact (throws_lift fun _ => trivial).bind fun _ => throws_lift fun _ => trivial
  | evaluate function args =>
    refine (throws_lift fun _ => trivial).bind fun answer => ?_
    cases hdecoded : decodeAnswer answer with
    | ok value => exact .pure value
    | error failure =>
      obtain ⟨detail, rfl⟩ := engine_of_decodeAnswer hdecoded
      exact .throw trivial
  | setViewport width height => exact throws_lift fun _ => trivial
  | render path =>
    exact (throws_lift fun _ => trivial).bind fun _ => throws_lift fun _ => trivial
  | clickAt x y => exact throws_lift fun _ => trivial

/-- Calls to a page in Chromium fail in their own ways only. -/
theorem environment_failsInKind : (environment browser options now sleep).FailsInKind where
  call call := by
    intro w fault w₁ hrun
    rw [run_call] at hrun
    split at hrun
    · cases hrun
      cases call <;> trivial
    · next tab _ => exact throws_onInner (perform_throws browser tab call) w fault w₁ hrun
  sleep d := throws_onInner (throws_lift fun cause => ⟨cause, rfl⟩)

/-- Page and clock leave the engine alone. -/
theorem environment_keeps (engine : Option Engine) :
    (environment browser options now sleep).Keeps (Having fun m => m.engine = engine) where
  call call := by
    refine Host.Preserves.keeps ⟨?_, ?_⟩
    · intro w w₁ a hengine hrun
      rw [run_call] at hrun
      split at hrun
      · cases hrun
      · exact (preserves_onInner _ engine).ok hengine hrun
    · intro w w₁ fault hengine hrun
      rw [run_call] at hrun
      split at hrun
      · cases hrun
        exact hengine
      · exact (preserves_onInner _ engine).error hengine hrun
  now := by
    rintro _ m ⟨rfl, hengine⟩
    exact ⟨rfl, rfl, hengine⟩
  sleep d := (preserves_onInner _ engine).keeps

end Calls

section Life

variable (browser : Browser τ) (options : Options) (now : τ → Duration × τ)
  (sleep : Duration → Op τ Unit)

/-- What keeps a run from getting engine and page ready: the browser, which is not running yet, is
not started, or the browser that the run has got opens no tab. The failure tells the cause, and the
outside stays as it has been left by then. -/
inductive StartFailed (scene : Scene (Machine τ)) : Failure → Scene (Machine τ) → Prop
  | start {scene' : Scene (Machine τ)} {cause : String} (absent : scene.session.hasEngine = false)
      (stops : (browser.start (options.settings scene.session.options.launchParams)).run
        scene.world.host.inner = .error (.failed cause) scene'.world.host.inner) :
      StartFailed scene (.launchFailed cause) scene'
  | tab {scene' : Scene (Machine τ)} {w : World (Machine τ)} {id : BrowserId} {cause : String}
      (engine : scene.GetsEngine (environment browser options now sleep) w)
      (running : w.host.engine = some ⟨some id⟩) (absent : scene.session.hasPage = false)
      (stops : (browser.newTab id).run w.host.inner
        = .error (.failed cause) scene'.world.host.inner) :
      StartFailed scene (.launchFailed ("Failed to create tab: " ++ cause)) scene'

/-- A browser that is not started leaves the cause to be told. -/
theorem start_of_launch {params : LaunchParams} {w w' : Hosted τ} {failure : Failure}
    (h : (launch browser options params).run w = .error (.failed failure) w') :
    ∃ cause, failure = .launchFailed cause ∧
      (browser.start (options.settings params)).run w.host = .error (.failed cause) w'.host := by
  rw [launch, warnUnsupported, EStateM.run_bind, run_forM_warn] at h
  obtain ⟨cause, hfailure, hstart⟩ := failed_of_lift
    (Host.run_bind_eq_error h fun id w' hreturn => by cases hreturn)
  exact ⟨cause, hfailure, hstart⟩

theorem running_of_launch {params : LaunchParams} {w w₁ : Hosted τ} {engine : Engine}
    (h : (launch browser options params).run w = .ok engine w₁) : ∃ id, engine = ⟨some id⟩ := by
  obtain ⟨_, w', -, hstart⟩ := Host.run_bind_eq_ok h
  obtain ⟨id, w'', -, hreturn⟩ := Host.run_bind_eq_ok hstart
  cases hreturn
  exact ⟨id, rfl⟩

variable {browser options now sleep}

/-- An engine that has been launched has a browser. -/
theorem engine_of_doLaunch {params : LaunchParams} {w w₁ : World (Machine τ)}
    (h : ((environment browser options now sleep).doLaunch params).run w = .ok () w₁) :
    ∃ id, w₁.host.engine = some ⟨some id⟩ := by
  obtain ⟨hosted, hlaunch, hhost⟩ := World.run_ask_of_ok h
  obtain ⟨engine, w', hinner, hchange⟩ := Host.run_bind_eq_ok hlaunch
  simp only [onInner, EStateM.run] at hinner
  split at hinner
  · next hlaunched =>
    cases hinner
    cases hchange
    obtain ⟨id, rfl⟩ := running_of_launch browser options hlaunched
    exact ⟨id, hhost ▸ rfl⟩
  · cases hinner

/-- A page is opened as a tab of the browser that the engine has. -/
theorem run_createPage {engine : Engine} {w : Hosted (Machine τ)}
    (hengine : w.host.engine = some engine) :
    (environment browser options now sleep).createPage.run w
      = (do let tab ← onInner (engine.createPage browser)
            change fun m => { m with page := some tab } : Host Failure (Machine τ) Unit).run w := by
  simp only [environment]
  rw [EStateM.run_bind, EStateM.run_get]
  simp only [hengine]

/-- An engine is launched unless the browser is not started. -/
theorem start_of_doLaunch {params : LaunchParams} {w w₁ : World (Machine τ)} {failure : Failure}
    (h : ((environment browser options now sleep).doLaunch params).run w
      = .error (.failed failure) w₁) :
    ∃ cause, failure = .launchFailed cause ∧
      (browser.start (options.settings params)).run w.host.inner
        = .error (.failed cause) w₁.host.inner := by
  obtain ⟨fault, hosted, hlaunch, hfault, hhost⟩ := World.run_ask_of_error h
  obtain rfl : fault = .failed failure := by cases fault <;> cases hfault; rfl
  obtain ⟨after, hinner, hafter⟩ :=
    error_of_onInner (Host.run_bind_eq_error hlaunch fun engine w' hchange => by cases hchange)
  rw [hhost, hafter]
  exact start_of_launch browser options hinner

/-- A running browser makes a page unless it opens no tab. -/
theorem newTab_of_doCreatePage {id : BrowserId} {w w₁ : World (Machine τ)} {failure : Failure}
    (hengine : w.host.engine = some ⟨some id⟩)
    (h : (environment browser options now sleep).doCreatePage.run w
      = .error (.failed failure) w₁) :
    ∃ cause, failure = .launchFailed ("Failed to create tab: " ++ cause) ∧
      (browser.newTab id).run w.host.inner = .error (.failed cause) w₁.host.inner := by
  obtain ⟨fault, hosted, hcreate, hfault, hhost⟩ := World.run_ask_of_error h
  obtain rfl : fault = .failed failure := by cases fault <;> cases hfault; rfl
  rw [run_createPage hengine] at hcreate
  obtain ⟨after, hinner, hafter⟩ :=
    error_of_onInner (Host.run_bind_eq_error hcreate fun tab w' hchange => by cases hchange)
  rw [hhost, hafter]
  exact failed_of_lift hinner

theorem doCreatePage_keeps (engine : Engine) :
    (environment browser options now sleep).doCreatePage.Keeps
      (Having fun m => m.engine = some engine) := by
  have hopens := (preserves_onInner (engine.createPage browser) (some engine)).bind fun tab =>
    preserves_change (some engine) (fun m => { m with page := some tab }) fun _ => rfl
  refine .ask (Host.Preserves.keeps ⟨?_, ?_⟩) _
  · intro w w₁ _ hengine hrun
    rw [run_createPage hengine] at hrun
    exact hopens.ok hengine hrun
  · intro w w₁ fault hengine hrun
    rw [run_createPage hengine] at hrun
    exact hopens.error hengine hrun

/-- The action has nothing of its creator's in it that could do anything; what receives the value of
a function leaves the engine alone. -/
def IsBuiltin : Action (Machine τ) → Prop
  | .custom _ _ _ => False
  | .eval _ _ (some receive) => ∀ answer m,
    ((receive answer).run { host := m }).2.host.engine = m.engine
  | .click _ _ | .setValue _ _ | .navigate _ | .viewport _ _ | .screenshot _ | .delay _
  | .waitForSelector _ | .waitForFunction _ _ | .eval _ _ none | .check _ | .refused _ => True

theorem IsBuiltin.ne_custom {action : Action (Machine τ)} (h : IsBuiltin action) :
    ∀ name line body, action ≠ .custom name line body := by
  rintro name line body rfl
  exact h

theorem IsBuiltin.keeps {action : Action (Machine τ)} (h : IsBuiltin action)
    (engine : Option Engine) : action.Keeps (Having fun m => m.engine = engine) := by
  cases action with
  | custom name line body => exact h.elim
  | eval function args receive =>
    cases receive with
    | none => trivial
    | some receive =>
      exact fun answer => Aside.keeps_having fun m hengine => (h answer m).trans hengine
  | _ => trivial

/-- The operation queues and registers built-in actions only. Whatever else happens to the outside,
its engine stays. -/
def IsPlain (options : SessionOptions) : Operation (Machine τ) → Prop
  | .enqueue action | .afterOpen action => IsBuiltin action
  | .tell scope verb => ∀ action ∈ scope.actions options verb, IsBuiltin action
  | .meanwhile change => ∀ m, (change m).engine = m.engine
  | .run _ | .exit => True

/-- A session whose engine runs a browser and that has built-in actions only. -/
structure Whole (scene : Scene (Machine τ)) : Prop where
  running : scene.session.hasEngine = true → ∃ id, scene.world.host.engine = some ⟨some id⟩
  queue : ∀ action ∈ scene.session.queue.toList, IsBuiltin action
  afterOpen : ∀ action ∈ scene.session.afterOpen.toList, IsBuiltin action

namespace Whole

variable {scene scene' : Scene (Machine τ)} (h : Whole scene)

include h

theorem of_getsEngine {w : World (Machine τ)}
    (engine : scene.GetsEngine (environment browser options now sleep) w) :
    ∃ id, w.host.engine = some ⟨some id⟩ := by
  rcases engine with ⟨hengine, rfl⟩ | ⟨-, launched⟩
  · exact h.running hengine
  · exact engine_of_doLaunch launched

theorem prepares {answer : Except Stop Unit}
    (prepares : scene.Prepares (environment browser options now sleep) answer scene') :
    Whole scene' := by
  refine ⟨fun hengine => ?_, prepares.queue_eq ▸ h.queue, prepares.afterOpen_eq ▸ h.afterOpen⟩
  cases prepares with
  | closed _ => exact h.running hengine
  | unlaunched _ habsent _ => exact absurd (habsent.symm.trans hengine) Bool.false_ne_true
  | @unopened stop w w₁ _ engine _ stops =>
    obtain ⟨id, hrunning⟩ := h.of_getsEngine engine
    exact ⟨id, (doCreatePage_keeps _).invariant hrunning
      (show _ = Run.ending (.error stop) w₁ from stops)⟩
  | @ready w w₁ _ engine page =>
    obtain ⟨id, hrunning⟩ := h.of_getsEngine engine
    rcases page with ⟨-, rfl⟩ | ⟨-, opened⟩
    · exact ⟨id, hrunning⟩
    · exact ⟨id, (doCreatePage_keeps _).invariant hrunning
        (show _ = Run.ending (.ok ()) w₁ from opened)⟩

theorem runs {budget : Nat} {answer : Except Stop Unit}
    (runs : scene.Runs (environment browser options now sleep) budget answer scene') :
    Whole scene' := by
  cases runs with
  | unprepared prepares => exact h.prepares prepares
  | @prepared ready executed skipped answer w prepares queued executes =>
    have hready := h.prepares prepares
    refine ⟨fun hengine => ?_, fun _ hmem => absurd hmem List.not_mem_nil, hready.afterOpen⟩
    obtain ⟨id, hrunning⟩ := hready.running hengine
    refine ⟨id, executes.invariant (environment_keeps browser options now sleep _)
      (fun action hmem => (hready.afterOpen action hmem).keeps _) (fun action hmem => ?_) hrunning⟩
    exact (hready.queue action (queued ▸ List.mem_append_left skipped hmem)).keeps _

end Whole

/-- Plain operations keep a session whole. -/
theorem Whole.goes {step : Step (Machine τ)} (h : Whole step.before)
    (goes : Scene.Goes (environment browser options now sleep) step)
    (hplain : IsPlain step.before.session.options step.operation) : Whole step.after := by
  cases goes with
  | enqueue scene action =>
    exact ⟨h.running, List.forall_mem_append.mpr ⟨h.queue, List.forall_mem_singleton.mpr hplain⟩,
      h.afterOpen⟩
  | afterOpen scene action =>
    exact ⟨h.running, h.queue,
      List.forall_mem_append.mpr ⟨h.afterOpen, List.forall_mem_singleton.mpr hplain⟩⟩
  | tell scene scope verb =>
    exact ⟨h.running, List.forall_mem_append.mpr ⟨h.queue, hplain⟩, h.afterOpen⟩
  | run scene budget runs => exact h.runs runs
  | exit scene exits =>
    obtain ⟨w, rfl⟩ := exits.exists_world
    exact ⟨fun habsurd => absurd habsurd Bool.false_ne_true,
      fun _ hmem => absurd hmem List.not_mem_nil, fun _ hmem => absurd hmem List.not_mem_nil⟩
  | meanwhile scene change =>
    refine ⟨fun hengine => ?_, h.queue, h.afterOpen⟩
    obtain ⟨id, hrunning⟩ := h.running hengine
    exact ⟨id, (hplain scene.world.host).trans hrunning⟩

variable (browser options now sleep)

/-- A new session is whole, and plain operations keep it so. -/
theorem after_whole (sessionOptions : SessionOptions) (inner : τ)
    {operations : List (Operation (Machine τ))}
    (hplain : ∀ operation ∈ operations, IsPlain sessionOptions operation) :
    Whole ((Scene.start sessionOptions { inner := inner }).after
        (environment browser options now sleep) operations) ∧
      ((Scene.start sessionOptions { inner := inner }).after
        (environment browser options now sleep) operations).session.options = sessionOptions := by
  -- from the end, since the last operation meets the session that the others have left
  induction operations using List.reverseRecOn with
  | nil =>
    exact ⟨⟨fun habsurd => absurd habsurd Bool.false_ne_true,
      fun _ hmem => absurd hmem List.not_mem_nil, fun _ hmem => absurd hmem List.not_mem_nil⟩, rfl⟩
  | append_singleton operations operation ih =>
    obtain ⟨hbefore, hlast⟩ := List.forall_mem_append.mp hplain
    obtain ⟨hwhole, hoptions⟩ := ih hbefore
    rw [Scene.after_append]
    generalize (Scene.start sessionOptions { inner := inner }).after _ operations = scene at *
    have hgoes := scene.perform_goes (environment browser options now sleep) operation
    have hfrom := scene.before_perform (environment browser options now sleep) operation
    refine ⟨Whole.goes (by rw [hfrom]; exact hwhole) hgoes ?_,
      (Scene.options_of_goes hgoes).trans ((congrArg (·.session.options) hfrom).trans hoptions)⟩
    rw [hfrom, hoptions, Scene.operation_perform]
    exact hlast operation (List.mem_singleton_self operation)

/-- Where the failure of a run of an open session comes from. -/
theorem Whole.failure_origin {scene scene' : Scene (Machine τ)} (h : Whole scene)
    (hopen : scene.session.isClosed = false) {budget : Nat} {failure : Failure}
    (runs : scene.Runs (environment browser options now sleep) budget (.error (.failed failure))
      scene') :
    (StartFailed browser options now sleep scene failure scene' ∧
        scene'.world.begun = scene.world.begun) ∨
      ∃ earlier last, scene'.world.begun = scene.world.begun ++ earlier ++ [last] ∧
        (∀ action ∈ earlier ++ [last], action ∈ scene.session.queue.toList ∨
          action ∈ scene.session.afterOpen.toList) ∧
        failure.MayComeFrom last := by
  cases runs with
  | unprepared prepares =>
    refine .inl ⟨?_, prepares.begun⟩
    cases prepares with
    | closed hclosed => exact absurd (hopen.symm.trans hclosed) Bool.false_ne_true
    | unlaunched _ habsent stops =>
      obtain ⟨cause, rfl, hstart⟩ := start_of_doLaunch stops
      rw [Scene.host_launching] at hstart
      exact .start habsent hstart
    | unopened _ engine habsent stops =>
      obtain ⟨id, hrunning⟩ := h.of_getsEngine engine
      obtain ⟨cause, rfl, htab⟩ := newTab_of_doCreatePage hrunning stops
      exact .tab engine hrunning habsent htab
  | @prepared ready executed skipped answer w prepares queued executes =>
    have hready := h.prepares prepares
    have hexecuted : ∀ action ∈ executed, action ∈ ready.session.queue.toList := fun action hmem =>
      queued ▸ List.mem_append_left skipped hmem
    obtain ⟨begun, hbegun, hmem, hblame⟩ := executes.blames
      (environment_failsInKind browser options now sleep)
      (fun action hmem => (hready.afterOpen action hmem).ne_custom)
      fun action hmem => (hready.queue action (hexecuted action hmem)).ne_custom
    obtain ⟨earlier, last, rfl, hlast⟩ := hblame failure rfl
    rw [prepares.begun] at hbegun
    rw [prepares.queue_eq] at hexecuted
    refine .inr ⟨earlier, last, hbegun.trans (List.append_assoc _ _ _).symm, fun action hin => ?_,
      hlast⟩
    exact (hmem action hin).imp (hexecuted action) fun hhook => prepares.afterOpen_eq ▸ hhook

/-- What a run fails with, in a session of built-in actions in Chromium: the session has been exited
before the run, and nothing happens; or the browser is not started or opens no tab, and no action is
begun; or the last of the actions that the run has begun, each of which has been queued or
registered, has failed in a way in which actions of its kind do. -/
theorem run_failure_origin (sessionOptions : SessionOptions) (inner : τ)
    (operations : List (Operation (Machine τ)))
    (hplain : ∀ operation ∈ operations, IsPlain sessionOptions operation) (budget : Nat) :
    let env := environment browser options now sleep
    let scene := (Scene.start sessionOptions { inner := inner }).after env operations
    let step := scene.perform env (.run budget)
    (step.answer = .error (.failed .sessionClosed) ↔ .exit ∈ operations) ∧
    ∀ failure, step.answer = .error (.failed failure) →
      (failure = .sessionClosed ∧ step.after = scene) ∨
      (StartFailed browser options now sleep scene failure step.after ∧
        step.after.world.begun = scene.world.begun) ∨
      ∃ earlier last, step.after.world.begun = scene.world.begun ++ earlier ++ [last] ∧
        (∀ action ∈ earlier ++ [last], action ∈ scene.session.queue.toList ∨
          action ∈ scene.session.afterOpen.toList) ∧
        failure.MayComeFrom last := by
  intro env scene step
  have hiff := Scene.isClosed_after_iff env sessionOptions { inner := inner } operations
  have hwhole := (after_whole browser options now sleep sessionOptions inner hplain).1
  cases hclosed : scene.session.isClosed with
  | true =>
    have hstep : step = ⟨.run budget, scene, .error (.failed .sessionClosed), scene⟩ :=
      Scene.perform_run_of_closed env hclosed budget
    rw [hstep]
    refine ⟨iff_of_true rfl (hiff.mp hclosed), fun failure hfailure => .inl ?_⟩
    cases hfailure
    exact ⟨rfl, rfl⟩
  | false =>
    obtain ⟨answer, after, hstep, runs⟩ := scene.perform_run env budget
    have hstep : step = ⟨.run budget, scene, answer, after⟩ := hstep
    rw [hstep]
    have horigin (failure : Failure) (hfailure : answer = .error (.failed failure)) :=
      hwhole.failure_origin browser options now sleep hclosed (hfailure ▸ runs)
    refine ⟨iff_of_false (fun habsurd => ?_) fun hexit => ?_, fun failure hfailure =>
      .inr (horigin failure hfailure)⟩
    · -- neither a start nor an action fails as a closed session does
      rcases horigin .sessionClosed habsurd with ⟨hstart, -⟩ | ⟨_, _, -, -, hcome⟩
      · cases hstart
      · exact hcome
    · exact absurd (hclosed.symm.trans (hiff.mpr hexit)) Bool.false_ne_true

/-- A picture that is registered to follow every navigation and cannot be written. -/
theorem run_failure_origin_picture :
    let operations : List (Operation (Machine Unit)) :=
      [.afterOpen (.screenshot "page.png"), .tell Scope.root (.navigate "/"),
        .enqueue (.delay .zero)]
    let browser := { Browser.answering none with
      writeFile := fun _ _ => throw (.failed "disk full") }
    let env := environment browser {} (fun inner => (.zero, inner)) fun _ => pure ()
    let scene := (Scene.start {} { inner := () }).after env operations
    let step := scene.perform env (.run 1)
    (∀ operation ∈ operations, IsPlain {} operation) ∧
    step.answer = .error (.failed (.io "Failed to write page.png: disk full")) ∧
      ∃ earlier path, step.after.world.begun
        = scene.world.begun ++ earlier ++ [.screenshot path] := by
  intro operations browser env scene step
  have hplain : ∀ operation ∈ operations, IsPlain {} operation := by
    simp [operations, IsPlain, IsBuiltin, Scope.actions]
  have hanswer : step.answer = .error (.failed (.io "Failed to write page.png: disk full")) := rfl
  obtain ⟨-, horigin⟩ := run_failure_origin browser {} (fun inner => (.zero, inner))
    (fun _ => pure ()) {} () operations hplain 1
  rcases horigin _ hanswer with ⟨habsurd, -⟩ | ⟨hstart, -⟩ | ⟨earlier, last, hbegun, -, hcome⟩
  · cases habsurd
  · cases hstart
  · obtain ⟨path, rfl⟩ := hcome
    exact ⟨hplain, hanswer, earlier, path, hbegun⟩

end Life

end Chromium

end PagePilot
