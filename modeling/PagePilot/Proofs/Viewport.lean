import PagePilot.Proofs.Backlog
import PagePilot.Proofs.Restraint
import PagePilot.Proofs.Selection

/-!
# The size of the page

A scope refuses to make the page empty: in place of the change of size stands an action that fails
at its turn. The default size of the options is not looked at in this way, so that a navigation
gives the page any size that the options hold.

## Main definitions

- `Licence.sized` - the page may be given sizes that are not empty, and the default one
- `Operation.IsScoped` - the operation brings in no action made by hand

## Main statements

- `Scope.within_sized` - the actions of a scope keep to that
- `viewport_calls` - and so do all histories of scopes, runs and exits
-/

namespace PagePilot

variable {σ : Type}

/-- The page may be given any size that is not empty, and the default one of the options. -/
def Licence.sized (options : SessionOptions) : Licence where
  calls
    | .setViewport width height =>
      (width ≠ 0 ∧ height ≠ 0) ∨ (width = options.width ∧ height = options.height)
    | _ => True

/-- The operation brings in no action made by hand. -/
def Operation.IsScoped : Operation σ → Prop
  | .enqueue _ | .afterOpen _ | .tell _ (.enqueue _) => False
  | .tell _ _ | .run _ | .exit | .meanwhile _ => True

theorem Licence.sized_lenient (options : SessionOptions) : (Licence.sized options).Lenient where
  evaluate _ _ := trivial
  render _ := trivial
  clickAt _ _ := trivial
  logs _ := trivial

/-- What a scope makes of a verb gives the page no empty size but the default one. -/
theorem Scope.within_sized (options : SessionOptions) (scope : Scope) {verb : Verb σ}
    (hverb : ∀ action, verb ≠ .enqueue action) :
    ∀ action ∈ scope.actions options verb, action.Within (.sized options) := by
  by_cases h : ∃ location, verb = .navigate location
  · obtain ⟨location, rfl⟩ := h
    -- the default size goes first and is not looked at
    exact List.forall_mem_cons.mpr ⟨.inr ⟨rfl, rfl⟩, List.forall_mem_singleton.mpr trivial⟩
  · refine scope.actions_within_of_lenient (Licence.sized_lenient options) options
      (fun location hnavigate => h ⟨location, hnavigate⟩) hverb fun _ _ _ hwidth hheight => ?_
    exact .inl ⟨hwidth, hheight⟩

theorem Operation.IsScoped.within_sized {operation : Operation σ} (h : operation.IsScoped)
    (options : SessionOptions) : operation.Within (.sized options) options := by
  cases operation with
  | enqueue action => exact h.elim
  | afterOpen action => exact h.elim
  | tell scope verb =>
    refine Scope.within_sized options scope fun action hverb => ?_
    subst hverb
    exact h
  | run budget => trivial
  | exit => trivial
  | meanwhile change => trivial

/-- A refused action that is executed is the last one, and its failure is the answer. -/
theorem Setting.Executes.of_refused {s : Setting σ} {w w' : World σ}
    {executed skipped : List (Action σ)} {answer : Except Stop Unit} {refusal : Refusal}
    (h : s.Executes w executed skipped answer w') (hmem : .refused refusal ∈ executed) :
    answer = .error (.failed refusal.failure) ∧ executed.getLast? = some (.refused refusal) := by
  induction h with
  | done => exact absurd hmem List.not_mem_nil
  | @next w w₁ w₂ action executed skipped answer succeeds rest ih =>
    rcases List.mem_cons.mp hmem with rfl | hrest
    · rw [s.run_execute_refused] at succeeds
      cases succeeds
    · obtain ⟨hanswer, hlast⟩ := ih hrest
      exact ⟨hanswer, by rw [List.getLast?_cons, hlast]; rfl⟩
  | @stopped w w₁ action skipped stop stops =>
    obtain rfl := List.mem_singleton.mp hmem
    rw [s.run_execute_refused] at stops
    cases stops
    exact ⟨rfl, rfl⟩

/-- A step that has executed a refused action has executed it last and answers with its failure. -/
theorem Scene.Goes.of_refused {env : Environment σ} {step : Step σ} {refusal : Refusal}
    (h : Goes env step) (hmem : .refused refusal ∈ step.executed) :
    step.answer = .error (.failed refusal.failure) ∧
      step.executed.getLast? = some (.refused refusal) := by
  have hexecuted := List.ne_nil_of_mem hmem
  -- only a run that got everything ready executes anything
  cases h with
  | run scene budget runs =>
    cases runs with
    | unprepared prepares => exact absurd (Step.executed_eq_nil prepares.mains) hexecuted
    | @prepared ready executed skipped answer w prepares queued executes =>
      have hexecuted := (Step.accounts_of_prepared prepares queued executes).1
      rw [hexecuted] at hmem ⊢
      exact executes.of_refused hmem
  | exit scene exits => exact absurd (Step.executed_eq_nil exits.mains) hexecuted
  | _ => exact absurd (Step.executed_eq_nil rfl) hexecuted

/-- Over every history in which a session is told what to do by scopes alone,

* every size that the page is given, whether the page takes it or not, is not empty or is the
  default size of the options;
* a scope that is told to make the page empty queues an action that is refused, and a run that comes
  to this action ends with it, for the reason that the argument is not valid.

So the page is never made empty if the default size is not empty. -/
theorem viewport_calls (env : Environment σ) (options : SessionOptions) (host : σ)
    (operations : List (Operation σ)) (hscoped : ∀ operation ∈ operations, operation.IsScoped) :
    (∀ width height succeeded, .called (.setViewport width height) succeeded ∈
        ((Scene.start options host).after env operations).world.calls →
      (width ≠ 0 ∧ height ≠ 0) ∨ (width = options.width ∧ height = options.height)) ∧
    ∀ width height, width = 0 ∨ height = 0 →
      (∀ scope : Scope, (scope.actions options (.viewport width height) : List (Action σ))
        = [.refused (.emptyViewport width height)]) ∧
      ∀ step ∈ (Scene.start options host).history env operations,
        .refused (.emptyViewport width height) ∈ step.executed →
          step.answer = .error (.failed (.invalidArgument ("viewport must not be empty, got "
            ++ toString width ++ "x" ++ toString height))) ∧
          step.executed.getLast? = some (.refused (.emptyViewport width height)) := by
  refine ⟨fun width height succeeded hcall => ?_, fun width height hempty => ⟨fun scope => ?_,
    fun step hstep hmem => ?_⟩⟩
  · have hlicensed := (Scene.after_licensed env options host
      (show ∀ location, (Licence.sized options).opens location → _ from fun _ _ => trivial)
      fun operation hmem => (hscoped operation hmem).within_sized options).1
    obtain ⟨entry, hentry, hcalled⟩ := List.mem_filterMap.mp hcall
    have hlicence := hlicensed.world entry (by simpa using hentry)
    cases entry with
    | called call succeeded =>
      cases hcalled
      exact hlicence
    | _ => cases hcalled
  · rw [Scope.actions, Scope.viewport, if_pos hempty]
  · exact (Scene.goes_of_mem_history env hstep).of_refused hmem

/-- An outside that does whatever it is asked to do. -/
def Environment.granting : Environment Unit where
  launch _ := pure ()
  createPage := pure ()
  exit := pure ()
  call
    | .evaluate _ _ => pure Json.null
    | .navigate _ | .setViewport _ _ | .render _ | .clickAt _ _ => pure ()
  now host := (.zero, host)
  sleep _ := pure ()

/-- The sizes of a page that is told one and then goes to a location. -/
theorem viewport_calls_default :
    let operations : List (Operation Unit) :=
      [.tell .root (.viewport 800 600), .tell .root (.navigate "/"), .run 1]
    let scene := (Scene.start {} ()).after .granting operations
    (∀ operation ∈ operations, operation.IsScoped) ∧
    scene.world.calls = [.launched ({} : SessionOptions).launchParams true, .createdPage true,
      .called (.setViewport 800 600) true, .called (.setViewport 1920 1080) true,
      .called (.navigate "/") true] ∧
    ∀ width height succeeded, .called (.setViewport width height) succeeded ∈ scene.world.calls →
      width ≠ 0 ∧ height ≠ 0 := by
  intro operations scene
  have hscoped : ∀ operation ∈ operations, operation.IsScoped := by
    intro operation hmem
    simp only [operations, List.mem_cons, List.not_mem_nil, or_false] at hmem
    rcases hmem with rfl | rfl | rfl
    · trivial
    · trivial
    · trivial
  refine ⟨hscoped, rfl, fun width height succeeded hcall => ?_⟩
  rcases (viewport_calls .granting {} () operations hscoped).1 width height succeeded hcall
    with hsized | ⟨rfl, rfl⟩
  · exact hsized
  · decide

/-- The builder takes an empty default size, and the run of a navigation gives it to the page and
succeeds. -/
theorem viewport_calls_empty_default :
    let options := ({} : SessionOptions).withViewport 0 600
    let told := ((Scene.start options ()).perform .granting (.tell .root (.navigate "/"))).after
    let step := told.perform .granting (.run 1)
    step.answer = .ok () ∧
    step.after.world.calls = [.launched options.launchParams true, .createdPage true,
      .called (.setViewport 0 600) true, .called (.navigate "/") true] :=
  ⟨rfl, rfl⟩

end PagePilot
