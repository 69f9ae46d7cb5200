import Mathlib.Data.List.Induction
import PagePilot.Proofs.Operation

/-!
# What a session never calls

If nothing that is queued or registered ever does more than a licence allows, the session never
calls its page in a way that the licence forbids, whatever is done with it and whatever it is
answered.

## Main definitions

- `Operation.Within` - the operation asks for nothing that a licence forbids
- `Licence.Lenient` - what can be asked of a page as it is, is allowed
- `Entry.Licensed` - the entry tells of no forbidden call
- `Scene.Licensed` - nothing forbidden has been called, and nothing in the session would do it

## Main statements

- `Scope.actions_within_of_lenient` - what scopes make of their verbs
- `Scene.Licensed.goes` - every operation within the licence keeps a session licensed
- `Scene.after_licensed` - and so does every history of such operations
-/

namespace PagePilot

variable {σ : Type} {L : Licence}

/-- The operation asks for nothing that the licence forbids, in a session with certain options. -/
def Operation.Within (L : Licence) (options : SessionOptions) : Operation σ → Prop
  | .enqueue action | .afterOpen action => action.Within L
  | .tell scope verb => ∀ action ∈ scope.actions options verb, action.Within L
  | .run _ | .exit | .meanwhile _ => True

/-- The licence allows whatever can be asked of a page that is neither left nor given a size, and
any line of the log. -/
structure Licence.Lenient (L : Licence) : Prop where
  evaluate (function : String) (args : List Json) : L.calls (.evaluate function args)
  render (path : String) : L.calls (.render path)
  clickAt (x y : Float) : L.calls (.clickAt x y)
  logs (record : LogRecord) : L.logs record

namespace Scope

theorem targeted_within_of_lenient (h : L.Lenient) (scope : Scope) (explicit : Option String)
    (verb : ElementVerb) : (scope.targeted explicit verb : Action σ).Within L := by
  rw [targeted]
  cases scope.resolve explicit with
  | error failure => trivial
  | ok selector =>
    cases verb with
    | click mode =>
      cases mode with
      | dispatch => exact h.evaluate _ _
      | mouse => exact ⟨h.evaluate _ _, h.clickAt⟩
    | setValue value => exact h.evaluate _ _
    | waitForSelector => exact h.evaluate _ _
    | test expected check => exact h.evaluate _ _

theorem wait_within_of_lenient (h : L.Lenient) (scope : Scope) (target : WaitTarget) :
    (scope.wait target : Action σ).Within L := by
  cases target with
  | delay duration => trivial
  | selector selector => exact scope.targeted_within_of_lenient h _ _
  | function source =>
    rw [wait]
    split
    · trivial
    · exact h.evaluate _ _

theorem viewport_within (width height : UInt32)
    (hsize : width ≠ 0 → height ≠ 0 → L.calls (.setViewport width height)) :
    (viewport width height : Action σ).Within L := by
  rw [viewport]
  by_cases hempty : width = 0 ∨ height = 0
  · rw [if_pos hempty]
    trivial
  · rw [if_neg hempty]
    obtain ⟨hwidth, hheight⟩ := not_or.mp hempty
    exact hsize hwidth hheight

/-- What a scope makes of a verb, if neither a navigation nor an action made by hand is asked for,
is within every lenient licence that allows the size that is asked for. -/
theorem actions_within_of_lenient (h : L.Lenient) (scope : Scope) (options : SessionOptions)
    {verb : Verb σ} (hnavigate : ∀ location, verb ≠ .navigate location)
    (henqueue : ∀ action, verb ≠ .enqueue action)
    (hsize : ∀ width height, verb = .viewport width height → width ≠ 0 → height ≠ 0 →
      L.calls (.setViewport width height)) :
    ∀ action ∈ scope.actions options verb, action.Within L := by
  cases verb with
  | enqueue action => exact absurd rfl (henqueue action)
  | navigate location => exact absurd rfl (hnavigate location)
  | viewport width height =>
    exact List.forall_mem_singleton.mpr (viewport_within width height (hsize width height rfl))
  | onSelection verb =>
    exact List.forall_mem_singleton.mpr (scope.targeted_within_of_lenient h none verb)
  | testElement test check =>
    exact List.forall_mem_singleton.mpr (scope.targeted_within_of_lenient h none _)
  | wait target => exact List.forall_mem_singleton.mpr (scope.wait_within_of_lenient h target)
  | eval function args receive =>
    exact List.forall_mem_singleton.mpr
      ⟨h.evaluate function args, fun _ _ _ _ record _ => h.logs record⟩
  | screenshot path => exact List.forall_mem_singleton.mpr (h.render path)
  | testFunction test function args =>
    exact List.forall_mem_singleton.mpr (h.evaluate function args)

end Scope

/-- The entry tells of no call to the page that the licence forbids. -/
def Entry.Licensed (L : Licence) : Entry σ → Prop
  | .called call _ => L.calls call
  | _ => True

theorem Entry.licensed_admits (L : Licence) : Entry.Admits (Entry.Licensed (σ := σ) L) L where
  called _ _ hcall := hcall
  slept _ _ := trivial
  logged _ := trivial

/-- The journal tells of no call to the page that the licence forbids. -/
def World.Licensed (L : Licence) (w : World σ) : Prop := ∀ entry ∈ w.journal, entry.Licensed L

namespace World.Licensed

variable {w w' : World σ}

theorem run {run : Run (World σ) α} {answer : Except Stop α} (h : w.Licensed L)
    (happends : run.Appends (Entry.Licensed L)) (hrun : run.run w = Run.ending answer w') :
    w'.Licensed L := by
  obtain ⟨added, hadded, hjournal⟩ := happends.exists_added hrun
  intro entry hentry
  rw [hjournal] at hentry
  rcases Array.mem_append.mp hentry with hold | hnew
  · exact h entry hold
  · exact hadded entry hnew

/-- No line of the log is a call. -/
theorem of_logged {added : Array (Entry σ)} (h : w.Licensed L)
    (hjournal : w'.journal = w.journal ++ added)
    (hadded : ∀ entry ∈ added, ∃ record, entry = .logged record) : w'.Licensed L := by
  intro entry hentry
  rw [hjournal] at hentry
  rcases Array.mem_append.mp hentry with hold | hnew
  · exact h entry hold
  · obtain ⟨record, rfl⟩ := hadded entry hnew
    trivial

theorem logDebug (h : w.Licensed L) (on : Bool) (text : String) : (w.logDebug on text).Licensed L :=
  h.of_logged (congrArg World.journal (World.logDebug_eq on text w)) fun _ hmem =>
    ⟨_, World.mem_debugEntries hmem⟩

theorem logLine (h : w.Licensed L) (on : Bool) (action : Action σ) (text : String → String) :
    (w.logLine on action text).Licensed L :=
  h.of_logged (congrArg World.journal (World.logLine_eq on action text w)) fun _ hmem =>
    (World.mem_lineEntries hmem).imp fun _ hrecord => hrecord.1

theorem begin (h : w.Licensed L) (debug : Bool) (role : Role) (action : Action σ) :
    (w.begin debug role action).Licensed L := by
  refine logLine (fun entry hentry => ?_) debug action id
  rcases Array.mem_push.mp hentry with hold | rfl
  · exact h entry hold
  · trivial

theorem ask {call : Host Failure σ α} {entry : Bool → Entry σ} {answer : Except Stop α}
    (h : w.Licensed L) (hrun : (World.ask call entry).run w = Run.ending answer w')
    (hentry : ∀ succeeded, (entry succeeded).Licensed L) : w'.Licensed L :=
  h.run (World.ask_appends (fun _ => trivial) hentry) hrun

end World.Licensed

/-- Nothing forbidden has been called, and nothing that is queued or registered would do it. -/
structure Scene.Licensed (L : Licence) (scene : Scene σ) : Prop where
  queue : ∀ action ∈ scene.session.queue.toList, action.Within L
  afterOpen : ∀ action ∈ scene.session.afterOpen.toList, action.Within L
  world : scene.world.Licensed L

namespace Setting

/-- A setting in which every location may be opened that an action may ask for, and in which the
registered actions are within the licence. -/
structure Licensed (L : Licence) (s : Setting σ) : Prop where
  visit (location : String) :
    L.opens location → L.calls (.navigate (joinUrl s.options.baseUrl location))
  afterOpen : ∀ action ∈ s.afterOpen, action.Within L

variable {s : Setting σ}

theorem Licensed.execute (h : s.Licensed L) {action : Action σ} (within : action.Within L)
    {w w' : World σ} {answer : Except Stop Unit} (hw : w.Licensed L)
    (hrun : (s.execute action).run w = Run.ending answer w') : w'.Licensed L :=
  hw.run (s.execute_appends_of_within (Entry.licensed_admits L) h.visit
    (fun action hmem => ⟨trivial, h.afterOpen action hmem⟩) within) hrun

theorem Licensed.executes (h : s.Licensed L) {w w' : World σ} {executed skipped : List (Action σ)}
    {answer : Except Stop Unit} (executes : s.Executes w executed skipped answer w')
    (within : ∀ action ∈ executed, action.Within L) (hw : w.Licensed L) : w'.Licensed L := by
  induction executes with
  | done => exact hw
  | @next w w₁ w₂ action executed skipped answer succeeds rest ih =>
    obtain ⟨hfirst, hrest⟩ := List.forall_mem_cons.mp within
    have hworld := h.execute hfirst (hw.begin s.options.debug .main action)
      (show _ = Run.ending (.ok ()) w₁ from succeeds)
    exact ih hrest hworld
  | @stopped w w₁ action skipped stop stops =>
    have hworld := h.execute (within action List.mem_cons_self)
      (hw.begin s.options.debug .main action) (show _ = Run.ending (.error stop) w₁ from stops)
    cases stop with
    | failed failure => exact hworld.logLine _ _ _
    | clockOverflow => exact hworld
    | exhausted => exact hworld

end Setting

namespace Scene

variable {env : Environment σ} {scene scene' : Scene σ} {answer : Except Stop Unit}

/-- Nothing that a session is asked to do changes its options. -/
theorem options_of_goes {step : Step σ} (h : Goes env step) :
    step.after.session.options = step.before.session.options := by
  cases h with
  | run scene budget runs =>
    cases runs with
    | unprepared prepares => cases prepares <;> rfl
    | prepared prepares queued executes => cases prepares; rfl
  | exit scene exits =>
    obtain ⟨w, rfl⟩ := exits.exists_world
    rfl
  | _ => rfl

namespace Licensed

theorem getsEngine {w : World σ} (h : scene.Licensed L) (engine : scene.GetsEngine env w) :
    w.Licensed L := by
  rcases engine with ⟨-, rfl⟩ | ⟨-, launched⟩
  · exact h.world
  · have called := show _ = Run.ending (.ok ()) w from launched
    exact (h.world.logDebug _ _).ask called fun _ => trivial

theorem prepares (h : scene.Licensed L) (prepares : scene.Prepares env answer scene') :
    scene'.Licensed L := by
  refine ⟨prepares.queue_eq ▸ h.queue, prepares.afterOpen_eq ▸ h.afterOpen, ?_⟩
  cases prepares with
  | closed _ => exact h.world
  | @unlaunched stop w _ _ stops =>
    have called := show _ = Run.ending (.error stop) w from stops
    exact (h.world.logDebug _ _).ask called fun _ => trivial
  | @unopened stop w w₁ _ engine _ stops =>
    have called := show _ = Run.ending (.error stop) w₁ from stops
    exact (h.getsEngine engine).ask called fun _ => trivial
  | @ready w w₁ _ engine page =>
    rcases page with ⟨-, rfl⟩ | ⟨-, opened⟩
    · exact h.getsEngine engine
    · have called := show _ = Run.ending (.ok ()) w₁ from opened
      exact (h.getsEngine engine).ask called fun _ => trivial

/-- Every operation within the licence keeps a session licensed. -/
theorem goes {step : Step σ} (h : step.before.Licensed L) (goes : Goes env step)
    (hvisit : ∀ location, L.opens location →
      L.calls (.navigate (joinUrl step.before.session.options.baseUrl location)))
    (within : step.operation.Within L step.before.session.options) : step.after.Licensed L := by
  cases goes with
  | enqueue scene action =>
    refine ⟨fun queued hmem => ?_, h.afterOpen, h.world⟩
    rcases List.mem_append.mp hmem with hold | hnew
    · exact h.queue queued hold
    · obtain rfl := List.mem_singleton.mp hnew
      exact within
  | afterOpen scene action =>
    refine ⟨h.queue, fun registered hmem => ?_, h.world⟩
    rcases List.mem_append.mp hmem with hold | hnew
    · exact h.afterOpen registered hold
    · obtain rfl := List.mem_singleton.mp hnew
      exact within
  | tell scene scope verb =>
    refine ⟨fun queued hmem => ?_, h.afterOpen, h.world⟩
    rcases List.mem_append.mp hmem with hold | hnew
    · exact h.queue queued hold
    · exact within queued hnew
  | run scene budget runs =>
    cases runs with
    | unprepared prepares => exact h.prepares prepares
    | @prepared ready executed skipped answer w prepares queued executes =>
      have hready := h.prepares prepares
      -- getting ready changes neither the options nor the registered actions
      have hsetting : (setting env ready.session budget).Licensed L := by
        rw [prepares.setting_eq budget]
        exact ⟨hvisit, h.afterOpen⟩
      refine ⟨fun _ hmem => absurd hmem List.not_mem_nil, hready.afterOpen, ?_⟩
      refine hsetting.executes executes (fun action hmem => ?_) hready.world
      exact hready.queue action (queued ▸ List.mem_append_left skipped hmem)
  | exit scene exits =>
    refine ⟨?_, ?_, ?_⟩
    · obtain ⟨w, rfl⟩ := exits.exists_world
      exact fun _ hmem => absurd hmem List.not_mem_nil
    · obtain ⟨w, rfl⟩ := exits.exists_world
      exact fun _ hmem => absurd hmem List.not_mem_nil
    · cases exits with
      | engine _ calls => exact h.world.ask calls fun _ => trivial
      | no_engine _ => exact h.world
  | meanwhile scene change => exact ⟨h.queue, h.afterOpen, h.world⟩

end Licensed

/-- A history of operations within a licence leaves a session licensed, with its options. -/
theorem after_licensed (env : Environment σ) (options : SessionOptions) (host : σ)
    (hvisit : ∀ location, L.opens location → L.calls (.navigate (joinUrl options.baseUrl location)))
    {operations : List (Operation σ)} (within : ∀ operation ∈ operations,
      operation.Within L options) :
    ((start options host).after env operations).Licensed L ∧
      ((start options host).after env operations).session.options = options := by
  -- from the end, since the last operation meets the session that the others have left
  induction operations using List.reverseRecOn with
  | nil =>
    refine ⟨⟨fun _ hmem => absurd hmem List.not_mem_nil,
      fun _ hmem => absurd hmem List.not_mem_nil, fun entry hentry => ?_⟩, rfl⟩
    exact absurd hentry (by simp [after, start])
  | append_singleton operations operation ih =>
    obtain ⟨hbefore, hlast⟩ := List.forall_mem_append.mp within
    obtain ⟨hlicensed, hoptions⟩ := ih hbefore
    have hgoes := perform_goes env ((start options host).after env operations) operation
    have hfrom := before_perform env ((start options host).after env operations) operation
    rw [after_append]
    refine ⟨Licensed.goes (by rw [hfrom]; exact hlicensed) hgoes ?_ ?_, ?_⟩
    · rw [hfrom, hoptions]
      exact hvisit
    · rw [hfrom, hoptions, operation_perform]
      exact hlast operation (List.mem_singleton_self operation)
    · exact (options_of_goes hgoes).trans ((congrArg (·.session.options) hfrom).trans hoptions)

end Scene

end PagePilot
