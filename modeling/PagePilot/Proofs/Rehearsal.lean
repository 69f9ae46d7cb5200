import PagePilot.Proofs.Assertion
import PagePilot.Proofs.Batch
import PagePilot.Proofs.Display

/-!
# Rehearsals

What a session does with a page that answers from a document in memory, told without any of the
answers: values are set and assertions are made on lists of elements, and each of these deeds comes
to a verdict and leaves a document to the next one.

## Main definitions

- `ElementCheck.truth` - whether a check is true of elements
- `Deed`, `Deed.verdict`, `Deed.effect` - what is done to a document, and what it comes to
- `Deed.performAll`, `Deed.performBatches` - deeds one after the other
- `Deed.Asked` - an operation asks for a deed, by its action or through a scope

## Main statements

- `Setting.run_execute_deed` - what one deed comes to on such a page
- `run_rehearsed` - and what the runs of a session come to
-/

namespace PagePilot

open Simulation (Element Document)

variable {σ : Type}

/-- What a deed comes to. -/
inductive Verdict
  | passed
  | elementNotFound
  | notAnInput
  /-- An assertion is not met. -/
  | unmet
deriving DecidableEq, Repr

/-- Whether a check is true of the elements that match a selector. Some elements settle the verdict
before anything can be true of them. -/
def ElementCheck.truth (seen : List Element) (check : ElementCheck) : Except Verdict Bool :=
  match check, seen with
  | .count number, _ => .ok (seen.length == number)
  | _, [] => .error .elementNotFound
  | .hasClass name, first :: _ => .ok (first.classes.contains name)
  | .visible, first :: _ => .ok !first.hidden
  | .checked, first :: _ => .ok first.checked
  | .text wanted, _ => .ok (String.join (seen.map fun element => Text.trim element.text) == wanted)
  | .value wanted, first :: _ =>
    match first.value with
    | some actual => .ok (actual == wanted)
    | none => .error .notAnInput

/-- What is done to a document. -/
inductive Deed
  | setValue (selector value : String)
  | test (expected : Bool) (selector : String) (check : ElementCheck)
deriving DecidableEq

namespace Deed

def selector : Deed → String
  | .setValue selector _ => selector
  | .test _ selector _ => selector

/-- The action that does it to a page. -/
def action : Deed → Action σ
  | .setValue selector value => .setValue selector value
  | .test expected selector check => .check ⟨expected, .element selector check⟩

/-- What a deed comes to. -/
def verdict (dom : Simulation.Dom) : Deed → Verdict
  | .setValue selector _ =>
    match dom selector with
    | [] => .elementNotFound
    | first :: _ => if first.value.isSome then .passed else .notAnInput
  | .test expected selector check =>
    match check.truth (dom selector) with
    | .ok truth => if truth = expected then .passed else .unmet
    | .error verdict => verdict

/-- The document after a deed. Only the value of the first match can be another one. -/
def effect (dom : Simulation.Dom) : Deed → Simulation.Dom
  | .setValue selector value =>
    match dom selector with
    | [] => dom
    | first :: rest =>
      if first.value.isSome then
        Function.update dom selector ({ first with value := some value } :: rest)
      else dom
  | .test _ _ _ => dom

/-- Does one deed after the other, up to the first that is not passed: this one with its verdict, if
there is one, and the document in the end. -/
def performAll (dom : Simulation.Dom) : List Deed → Option (Deed × Verdict) × Simulation.Dom
  | [] => (none, dom)
  | deed :: rest =>
    match deed.verdict dom with
    | .passed => performAll (deed.effect dom) rest
    | verdict => (some (deed, verdict), deed.effect dom)

theorem performAll_cons_of_passed {dom : Simulation.Dom} {deed : Deed}
    (h : deed.verdict dom = .passed) (rest : List Deed) :
    performAll dom (deed :: rest) = performAll (deed.effect dom) rest := by
  rw [performAll, h]

theorem performAll_cons_of_failed {dom : Simulation.Dom} {deed : Deed}
    (h : deed.verdict dom ≠ .passed) (rest : List Deed) :
    performAll dom (deed :: rest) = (some (deed, deed.verdict dom), deed.effect dom) := by
  rw [performAll]
  cases hverdict : deed.verdict dom with
  | passed => exact absurd hverdict h
  | _ => rfl

/-- Does one batch after the other, each of them on the document that those before have left. -/
def performBatches (dom : Simulation.Dom) :
    List (List Deed) → List (Option (Deed × Verdict)) × Simulation.Dom
  | [] => ([], dom)
  | deeds :: rest =>
    let (first, dom) := performAll dom deeds
    let (others, dom) := performBatches dom rest
    (first :: others, dom)

/-- A deed tells its line and does nothing else. -/
theorem afterLine_action (deed : Deed) (host : σ) :
    (deed.action : Action σ).afterLine host = host := by
  cases deed <;> rfl

end Deed

/-- A session says of a deed that it has come to a verdict. -/
def Verdict.Told (selector : String) : Verdict → Except Stop Unit → Prop
  | .passed, answer => answer = .ok ()
  | .elementNotFound, answer => answer = .error (.failed (.elementNotFound selector))
  | .notAnInput, answer => answer = .error (.failed (.notAnInput selector))
  | .unmet, answer => ∃ report : Mismatch, report.selector = some selector ∧
    answer = .error (.failed (.mismatch report))

theorem Verdict.told_ok_iff {selector : String} {verdict : Verdict} :
    verdict.Told selector (.ok ()) ↔ verdict = .passed := by
  cases verdict <;> simp [Told]

/-- The answer of a run whose deeds have all been passed, or up to a certain one. -/
def Deed.Told : Option (Deed × Verdict) → Except Stop Unit → Prop
  | none, answer => answer = .ok ()
  | some (deed, verdict), answer => verdict.Told deed.selector answer

namespace ElementCheck

/-- The page function that a check asks. -/
def function : ElementCheck → PageFunction
  | .hasClass _ => .hasClass
  | .count _ => .count
  | .visible => .visible
  | .value _ => .value
  | .text _ => .text
  | .checked => .checked

/-- What the page function is told besides the selector. -/
def details : ElementCheck → List Json
  | .hasClass name => [.str name]
  | _ => []

theorem question_eq (expected : Bool) (selector : String) (check : ElementCheck) :
    (Check.mk expected (.element selector check)).question
      = (check.function.source, .str selector :: check.details) := by
  cases check <;> rfl

/-- What an assertion sees in the answer of a document. -/
theorem observe_answerSeen (expected : Bool) (selector : String) (check : ElementCheck)
    (seen : List Element) :
    let answer := (Document.answerSeen check.function seen (.str selector :: check.details)).1
    (∃ failure verdict, check.truth seen = .error verdict ∧
      verdict.Told selector (.error (.failed failure)) ∧
      (Check.mk expected (.element selector check)).observe answer = .error failure) ∨
    ∃ holds expectation actual summary, check.truth seen = .ok holds ∧
      (Check.mk expected (.element selector check)).observe answer
        = .ok ⟨holds, expectation, actual, summary⟩ := by
  cases check with
  | count number => exact .inr ⟨_, _, _, _, rfl, rfl⟩
  | value wanted =>
    cases seen with
    | nil => exact .inl ⟨_, .elementNotFound, rfl, rfl, rfl⟩
    | cons first rest =>
      -- the value decides what the answer is
      obtain ⟨classes, value, text, checked, hidden, left, top⟩ := first
      cases value with
      | none => exact .inl ⟨_, .notAnInput, rfl, rfl, rfl⟩
      | some actual => exact .inr ⟨_, _, _, _, rfl, rfl⟩
  | _ =>
    cases seen with
    | nil => exact .inl ⟨_, .elementNotFound, rfl, rfl, rfl⟩
    | cons first rest => exact .inr ⟨_, _, _, _, rfl, rfl⟩

end ElementCheck

/-- An assertion comes to its verdict when it is given the answer of a document. -/
theorem Deed.told_outcome (expected : Bool) (selector : String) (check : ElementCheck)
    (dom : Simulation.Dom) :
    let args := .str selector :: check.details
    let answer := (Document.answerSeen check.function (dom selector) args).1
    ((Deed.test expected selector check).verdict dom).Told selector
      ((Check.mk expected (.element selector check)).outcome (.ok answer)) := by
  intro args answer
  rcases check.observe_answerSeen expected selector (dom selector) with
    ⟨failure, verdict, htruth, htold, hseen⟩ | ⟨holds, expectation, actual, summary, htruth, hseen⟩
  · rw [Check.outcome_of_rejected hseen, Deed.verdict, htruth]
    exact htold
  · rw [Check.outcome_of_observed hseen, Deed.verdict, htruth]
    by_cases hmet : holds = expected
    · simp only [if_pos hmet]
      rfl
    · simp only [if_neg hmet]
      exact ⟨_, rfl, rfl⟩

/-- No check changes the document. -/
theorem ElementCheck.answerSeen_snd (check : ElementCheck) (seen : List Element)
    (args : List Json) : (Document.answerSeen check.function seen args).2 = seen := by
  cases check <;> rfl

/-- Setting a value comes to its verdict when it is given the answer of a document. -/
theorem Deed.told_setValue (selector value : String) (dom : Simulation.Dom) :
    ((Deed.setValue selector value).verdict dom).Told selector ((setValueVerdict selector
      (Document.answerSeen .setValue (dom selector) [.str selector, .str value]).1).mapError
        .failed) := by
  rw [Deed.verdict]
  cases dom selector with
  | nil => rfl
  | cons first rest =>
    obtain ⟨classes, held, text, checked, hidden, left, top⟩ := first
    cases held <;> rfl

theorem Deed.effect_setValue (selector value : String) (dom : Simulation.Dom) :
    (Deed.setValue selector value).effect dom = Function.update dom selector
      (Document.answerSeen .setValue (dom selector) [.str selector, .str value]).2 := by
  have hsame {seen : List Element} (hseen : dom selector = seen) :
      dom = Function.update dom selector seen := by
    rw [← hseen, Function.update_eq_self]
  rw [Deed.effect]
  cases hseen : dom selector with
  | nil => exact hsame hseen
  | cons first rest =>
    obtain ⟨classes, held, text, checked, hidden, left, top⟩ := first
    cases held with
    | none => exact hsame hseen
    | some held => rfl

namespace Setting

variable {s : Setting σ} {shows : σ → Simulation.Dom → Prop} (h : s.env.Shows shows)
  {w : World σ} {dom : Simulation.Dom}

include h

/-- A page function that is evaluated by a run. -/
theorem run_evaluate_shown (hshows : shows w.host dom) (f : PageFunction) (selector : String)
    (details : List Json) :
    let seen := Document.answerSeen f (dom selector) (.str selector :: details)
    ∃ w', (s.env.doCall (.evaluate f.source (.str selector :: details))).run w = .ok seen.1 w' ∧
      shows w'.host (Function.update dom selector seen.2) := by
  obtain ⟨after, hcall, hafter⟩ := h.evaluate f (.str selector :: details)
    (show shows (Hosted.mk w.host []).host dom from hshows)
  exact ⟨_, World.ask_of_ok hcall _ w.journal, hafter⟩

/-- A deed comes to its verdict, and the page shows the document after it. -/
theorem run_execute_deed (hshows : shows w.host dom) (deed : Deed) : ∃ answer w',
    (s.execute deed.action).run w = Run.ending answer w' ∧
      (deed.verdict dom).Told deed.selector answer ∧ shows w'.host (deed.effect dom) := by
  cases deed with
  | test expected selector check =>
    obtain ⟨w', hrun, hafter⟩ := run_evaluate_shown h hshows check.function selector check.details
    rw [check.answerSeen_snd, Function.update_eq_self] at hafter
    refine ⟨_, w', s.run_execute_check _ ?_, Deed.told_outcome expected selector check dom, hafter⟩
    rw [check.question_eq]
    exact hrun
  | setValue selector value =>
    obtain ⟨w', hrun, hafter⟩ := run_evaluate_shown h hshows .setValue selector [.str value]
    rw [← Deed.effect_setValue] at hafter
    refine ⟨_, w', (Run.run_bind_of_ok hrun).trans ?_, Deed.told_setValue selector value dom,
      hafter⟩
    cases setValueVerdict selector
      (Document.answerSeen .setValue (dom selector) [.str selector, .str value]).1 <;> rfl

/-- Deeds that are executed one after the other come to what they come to on the document. -/
theorem run_executeAll_deeds (hshows : shows w.host dom) (deeds : List Deed) : ∃ answer w',
    (s.executeAll (deeds.map Deed.action)).run w = Run.ending answer w' ∧
      Deed.Told (Deed.performAll dom deeds).1 answer ∧
      shows w'.host (Deed.performAll dom deeds).2 := by
  induction deeds generalizing w dom with
  | nil => exact ⟨.ok (), w, rfl, rfl, hshows⟩
  | cons deed rest ih =>
    have hbegin : shows (w.begin s.options.debug .main deed.action).host dom := by
      rw [World.host_begin deed.afterLine_action]
      exact hshows
    obtain ⟨answer, w₁, hrun, htold, hafter⟩ := run_execute_deed h hbegin deed
    -- a run stops with the first deed that is not passed
    cases answer with
    | ok _ =>
      rw [Deed.performAll_cons_of_passed (Verdict.told_ok_iff.mp htold)]
      obtain ⟨answer, w₂, hrest, hmore⟩ := ih hafter
      exact ⟨answer, w₂, (s.executeAll_cons_of_ok hrun).trans hrest, hmore⟩
    | error stop =>
      have hfailed : deed.verdict dom ≠ .passed := by
        intro hpassed
        rw [hpassed] at htold
        cases htold
      rw [Deed.performAll_cons_of_failed hfailed]
      refine ⟨.error stop, _, s.executeAll_cons_of_stop hrun, htold, ?_⟩
      rw [host_afterStop_eq_self deed.afterLine_action]
      exact hafter

end Setting

namespace Scene

variable {env : Environment σ} {shows : σ → Simulation.Dom → Prop} {scene : Scene σ}
  {dom : Simulation.Dom}

/-- An open session without queued actions, whose page shows a document. -/
structure Rehearses (shows : σ → Simulation.Dom → Prop) (scene : Scene σ) (dom : Simulation.Dom) :
    Prop where
  isOpen : scene.session.isClosed = false
  queue : scene.session.queue.toList = []
  shows : shows scene.world.host dom

/-- Such a session gets engine and page ready, and the page shows the same document. -/
theorem Rehearses.prepares (h : scene.Rehearses shows dom) (henv : env.Shows shows) :
    ∃ ready, scene.Prepares env (.ok ()) ready ∧ shows ready.world.host dom := by
  have hlaunching : shows scene.launching.host dom := by
    rw [host_launching]
    exact h.shows
  have hengine : ∃ w, scene.GetsEngine env w ∧ shows w.host dom := by
    cases hrunning : scene.session.hasEngine with
    | true => exact ⟨_, .inl ⟨hrunning, rfl⟩, h.shows⟩
    | false =>
      obtain ⟨after, hlaunch, hafter⟩ := henv.launch scene.session.options.launchParams
        (show shows (Hosted.mk scene.launching.host []).host dom from hlaunching)
      exact ⟨_, .inr ⟨hrunning, World.ask_of_ok hlaunch _ _⟩, hafter⟩
  obtain ⟨w, engine, hw⟩ := hengine
  cases hpage : scene.session.hasPage with
  | true => exact ⟨_, .ready h.isOpen engine (.inl ⟨hpage, rfl⟩), hw⟩
  | false =>
    obtain ⟨after, hcreate, hafter⟩ := henv.createPage
      (show shows (Hosted.mk w.host []).host dom from hw)
    exact ⟨_, .ready h.isOpen engine (.inr ⟨hpage, World.ask_of_ok hcreate _ _⟩), hafter⟩

/-- A batch of deeds that is run comes to what it comes to on the document, and leaves the session
ready for another one. -/
theorem Rehearses.run (h : scene.Rehearses shows dom) (henv : env.Shows shows) (budget : Nat)
    (deeds : List Deed) :
    let step := (scene.queueing (deeds.map Deed.action)).perform env (.run budget)
    Deed.Told (Deed.performAll dom deeds).1 step.answer ∧
      step.after.Rehearses shows (Deed.performAll dom deeds).2 := by
  intro step
  obtain ⟨ready, prepares, hready⟩ := h.prepares henv
  have hshows : (setting env scene.session budget).env.Shows shows := henv
  obtain ⟨answer, w, hrun, htold, hafter⟩ := Setting.run_executeAll_deeds hshows hready deeds
  have hqueue : (scene.queueing (deeds.map Deed.action)).session.queue.toList
      = deeds.map Deed.action := by
    rw [queueing, Queue.toList_append, h.queue, List.nil_append]
  have hprepare : (prepare env).run (scene.queueing (deeds.map Deed.action))
      = .ok () (ready.queueing (deeds.map Deed.action)) := run_prepare env (prepares.queueing _)
  rw [← hqueue] at hrun
  have hstep : step = _ := perform_run_of_prepared hprepare hrun
  have hopen : ready.session.isClosed = false := by
    cases prepares with
    | ready hopen _ _ => exact hopen
  rw [hstep]
  exact ⟨htold, hopen, rfl, hafter⟩

end Scene

/-- The answer of a step that is a run. -/
def Step.runAnswer? (step : Step σ) : Option (Except Stop Unit) :=
  match step.operation with
  | .run _ => some step.answer
  | _ => none

/-- An operation asks for a deed: it queues the action, or tells it to a scope in which the selector
is the current one. -/
inductive Deed.Asked : Deed → Operation σ → Prop
  | action (deed : Deed) : Asked deed (.enqueue deed.action)
  | setValue {scope : Scope} {selector : String} (value : String) :
      scope.resolve none = .ok selector →
        Asked (.setValue selector value) (.tell scope (.onSelection (.setValue value)))
  | test {scope : Scope} {selector : String} (test : Test) (check : ElementCheck) :
      scope.resolve none = .ok selector →
        Asked (.test test.expected selector check) (.tell scope (.testElement test check))

namespace Scene

variable {env : Environment σ} {shows : σ → Simulation.Dom → Prop} {scene : Scene σ}
  {dom : Simulation.Dom}

theorem perform_tell (env : Environment σ) (scene : Scene σ) (scope : Scope) (verb : Verb σ) :
    scene.perform env (.tell scope verb)
      = ⟨.tell scope verb, scene, .ok (),
        scene.queueing (scope.actions scene.session.options verb)⟩ := rfl

theorem perform_of_asked {deed : Deed} {operation : Operation σ} (h : deed.Asked operation)
    (env : Environment σ) (scene : Scene σ) :
    scene.perform env operation = ⟨operation, scene, .ok (), scene.queueing [deed.action]⟩ := by
  cases h with
  | action => rfl
  | setValue value hselector =>
    rw [perform_tell, Scope.actions, Scope.targeted, hselector]
    rfl
  | test test check hselector =>
    rw [perform_tell, Scope.actions, Scope.targeted, hselector]
    rfl

/-- Operations that ask for deeds only queue the actions. -/
theorem history_of_asked {deeds : List Deed} {queue : List (Operation σ)}
    (h : List.Forall₂ Deed.Asked deeds queue) (env : Environment σ) (scene : Scene σ) :
    scene.after env queue = scene.queueing (deeds.map Deed.action) ∧
      (scene.history env queue).filterMap Step.runAnswer? = [] := by
  induction h generalizing scene with
  | nil => exact ⟨scene.queueing_nil.symm, rfl⟩
  | @cons deed operation deeds queue asked _ ih =>
    have hstep := perform_of_asked asked env scene
    obtain ⟨hafter, hanswers⟩ := ih (scene.queueing [deed.action])
    rw [after_cons, history, hstep]
    refine ⟨hafter.trans (queueing_queueing [deed.action] _), ?_⟩
    have hnone :
        Step.runAnswer? ⟨operation, scene, .ok (), scene.queueing [deed.action]⟩ = none := by
      cases asked <;> rfl
    rw [List.filterMap_cons_none hnone, hanswers]

/-- Batches of deeds, one after the other. -/
theorem Rehearses.runs (h : scene.Rehearses shows dom) (henv : env.Shows shows) (budget : Nat)
    {batches : List (List Deed)} {queues : List (List (Operation σ))}
    (hasked : List.Forall₂ (List.Forall₂ Deed.Asked) batches queues) :
    let operations := queues.flatMap (· ++ [.run budget])
    List.Forall₂ Deed.Told (Deed.performBatches dom batches).1
      ((scene.history env operations).filterMap Step.runAnswer?) ∧
    (scene.after env operations).Rehearses shows (Deed.performBatches dom batches).2 := by
  induction hasked generalizing scene dom with
  | nil => exact ⟨.nil, h⟩
  | @cons deeds queue batches queues asked _ ih =>
    let step := (scene.queueing (deeds.map Deed.action)).perform env (.run budget)
    obtain ⟨htold, hafter⟩ := h.run henv budget deeds
    obtain ⟨hrest, hlast⟩ := ih hafter
    obtain ⟨hqueue, hnothing⟩ := history_of_asked asked env scene
    have hbatch : scene.after env (queue ++ [.run budget]) = step.after := by
      rw [after_append, hqueue]
      rfl
    have hanswers : (scene.history env (queue ++ [.run budget])).filterMap Step.runAnswer?
        = [step.answer] := by
      rw [history_append, List.filterMap_append, hnothing, hqueue, List.nil_append]
      have hrun : Step.runAnswer? step = some step.answer := by
        rw [Step.runAnswer?, operation_perform]
      exact List.filterMap_cons_some hrun
    simp only [List.flatMap_cons]
    rw [history_append, List.filterMap_append, hanswers, after_append _ _ (queue ++ _), hbatch]
    exact ⟨.cons htold hrest, hlast⟩

end Scene

/-- In an open session without queued actions, whose page answers from a document in memory, batches
of deeds are asked for and run, one after the other. Each run answers with what its batch comes to
on the document that those before have left: all deeds are passed, or there is a first one that is
not, and the answer is its verdict. In the end the page shows the document that the deeds leave. -/
theorem run_rehearsed (env : Environment σ) (shows : σ → Simulation.Dom → Prop)
    (henv : env.Shows shows) (scene : Scene σ) (dom : Simulation.Dom)
    (hscene : scene.Rehearses shows dom) (budget : Nat) (batches : List (List Deed))
    (queues : List (List (Operation σ)))
    (hasked : List.Forall₂ (List.Forall₂ Deed.Asked) batches queues) :
    let operations := queues.flatMap (· ++ [.run budget])
    List.Forall₂ Deed.Told (Deed.performBatches dom batches).1
      ((scene.history env operations).filterMap Step.runAnswer?) ∧
    shows (scene.after env operations).world.host (Deed.performBatches dom batches).2 := by
  intro operations
  obtain ⟨htold, hafter⟩ := hscene.runs henv budget hasked
  exact ⟨htold, hafter.shows⟩

/-- A form with two inputs, and two paragraphs, the second of them hidden. -/
def Simulation.Document.form : Document :=
  [("form input", [{ value := some "a" }, { value := some "b" }]),
    ("p", [{ text := " x " }, { text := "y", hidden := true }])]

/-- What is done to the form, in four batches. Each of the first three stops: nothing matches, a
paragraph is set like an input, and a text is what it was expected not to be. -/
def Deed.rounds : List (List Deed) :=
  [[.setValue "form input" "c", .test false "li" .visible, .setValue "form input" "d"],
    [.test true "li" (.count 0), .setValue "p" "z"],
    [.test false "p" (.text "xy")],
    [.test true "form input" (.value "c"), .test false "form input" (.count 1)]]

/-- How it is asked for: by scopes, and by actions made by hand. -/
def Deed.requests : List (List (Operation Simulation.EngineStage)) :=
  let inputs := (Scope.root.nest "form").select "input"
  let items := Scope.root.select "li"
  [[.tell inputs (.onSelection (.setValue "c")), .tell items (.testElement ⟨false⟩ .visible),
      .tell inputs (.onSelection (.setValue "d"))],
    [.tell items (.testElement ⟨true⟩ (.count 0)), .enqueue (.setValue "p" "z")],
    [.enqueue (.check ⟨false, .element "p" (.text "xy")⟩)],
    [.tell inputs (.testElement ⟨true⟩ (.value "c")),
      .tell inputs (.testElement ⟨false⟩ (.count 1))]]

theorem run_rehearsed_form :
    let scene := Scene.start {} { parts := { document := .form } }
    let dom := Document.form.elements
    let operations := Deed.requests.flatMap (· ++ [.run 1])
    Simulation.environment.Shows Simulation.EngineStage.Plays ∧
    scene.Rehearses Simulation.EngineStage.Plays dom ∧
    List.Forall₂ (List.Forall₂ Deed.Asked) Deed.rounds Deed.requests ∧
    List.Forall₂ Deed.Told
      [some (.test false "li" .visible, .elementNotFound), some (.setValue "p" "z", .notAnInput),
        some (.test false "p" (.text "xy"), .unmet), none]
      ((scene.history Simulation.environment operations).filterMap Step.runAnswer?) ∧
    ∃ left, Simulation.EngineStage.Plays (scene.after Simulation.environment operations).world.host
      left ∧ left "form input" = [{ value := some "c" }, { value := some "b" }] := by
  intro scene dom
  have hscene : scene.Rehearses Simulation.EngineStage.Plays dom :=
    ⟨rfl, rfl, ⟨fun _ => rfl, rfl, rfl⟩⟩
  have hasked : List.Forall₂ (List.Forall₂ Deed.Asked) Deed.rounds Deed.requests :=
    .cons (.cons (.setValue _ rfl) (.cons (.test _ _ rfl) (.cons (.setValue _ rfl) .nil)))
      (.cons (.cons (.test _ _ rfl) (.cons (.action _) .nil))
        (.cons (.cons (.action _) .nil)
          (.cons (.cons (.test _ _ rfl) (.cons (.test _ _ rfl) .nil)) .nil)))
  have hverdicts : (Deed.performBatches dom Deed.rounds).1
      = [some (.test false "li" .visible, .elementNotFound), some (.setValue "p" "z", .notAnInput),
        some (.test false "p" (.text "xy"), .unmet), none] := by decide
  obtain ⟨htold, hshows⟩ := run_rehearsed Simulation.environment Simulation.EngineStage.Plays
    Simulation.environment_shows scene dom hscene 1 Deed.rounds Deed.requests hasked
  rw [hverdicts] at htold
  exact ⟨Simulation.environment_shows, hscene, hasked, htold, _, hshows, rfl⟩

end PagePilot
