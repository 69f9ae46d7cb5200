import Mathlib.Algebra.Group.Nat.Even
import Mathlib.Logic.Function.Iterate
import PagePilot.Proofs.Execution
import PagePilot.Session.Chain

/-!
# Assertions and their negations

An assertion and its negation ask the page the same question and see the same in its answer. An
answer that cannot be read makes both fail for the same reason, and any other makes exactly one of
them succeed. What is expected is settled by the assertion alone: turning it round once more turns
it back, and what is asserted later knows nothing of it.

## Main definitions

- `Check.outcome` - what an assertion comes to when the page has answered, or has stopped instead
- `Subject.Rejects` - the failures to which an answer about a subject can lead by itself
- `Subject.Outcomes` - what an assertion and its negation come to on the same answer

## Main statements

- `Check.observe_cases` - what is observed does not depend on what is expected
- `Subject.outcomes` - an assertion and its negation are opposed, or fail alike
- `Chain.calls_of_queue` - what a program queues does not depend on what has been queued before
-/

namespace PagePilot

variable {σ : Type}

/-- What an assertion comes to when the page has answered its question, or has stopped instead. -/
def Check.outcome (c : Check) (answered : Except Stop Json) : Except Stop Unit :=
  match answered with
  | .error stop => .error stop
  | .ok answer => (c.verdict answer).mapError Stop.failed

/-- The failures to which an answer about a subject can lead by itself. -/
def Subject.Rejects : Subject → Failure → Prop
  | .element selector _, failure =>
    failure = .elementNotFound selector ∨ failure = .notAnInput selector ∨
      ∃ detail, failure = .engine detail
  | .function _ _, _ => False

/-- What an assertion and its negation come to on the same answer of the page. -/
inductive Subject.Outcomes (subject : Subject) (answered : Except Stop Json) : Prop
  /-- The page has stopped, and both stop with that. -/
  | unanswered {stop : Stop} (hstop : answered = .error stop)
      (same : ∀ expected, (Check.mk expected subject).outcome answered = .error stop)
  /-- Both reject the answer for the same reason. -/
  | rejected {failure : Failure} (reason : subject.Rejects failure)
      (same : ∀ expected,
        (Check.mk expected subject).outcome answered = .error (.failed failure))
  /-- Both see the same; what meets the one expectation does not meet the other. -/
  | opposed {answer : Json} {holds : Bool} {actual : String} (hanswer : answered = .ok answer)
      (seen : ∀ expected, ∃ expectation summary,
        (Check.mk expected subject).observe answer = .ok ⟨holds, expectation, actual, summary⟩)
      (met : (Check.mk holds subject).outcome answered = .ok ())
      (unmet : ∃ expectation summary, (Check.mk (!holds) subject).outcome answered
        = .error (.failed (.mismatch
            ⟨(Check.mk holds subject).selector?, expectation, actual, summary⟩)))

namespace Check

theorem found_cases (selector : String) (answer : Json) :
    found selector answer = .error (.elementNotFound selector) ∨
      found selector answer = .ok answer := by
  cases h : answer.isNull with
  | true => exact .inl (by rw [found, h, if_pos rfl])
  | false => exact .inr (by rw [found, h, if_neg Bool.false_ne_true])

theorem yesOrNo_cases (selector : String) (answer : Json) :
    yesOrNo selector answer = .error (.elementNotFound selector) ∨
      ∃ yes, yesOrNo selector answer = .ok yes := by
  rcases found_cases selector answer with h | h
  · exact .inl (by rw [yesOrNo, h]; rfl)
  · exact .inr ⟨_, by rw [yesOrNo, h]; rfl⟩

/-- An answer about elements is rejected whatever is expected, or it shows the same. -/
theorem observeElement_cases (selector : String) (answer : Json) (check : ElementCheck) :
    (∃ failure, (Subject.element selector check).Rejects failure ∧
      ∀ expected, observeElement expected selector answer check = .error failure) ∨
    ∃ holds actual, ∀ expected, ∃ expectation summary,
      observeElement expected selector answer check
        = .ok ⟨holds, expectation, actual, summary⟩ := by
  have missing : (Subject.element selector check).Rejects (.elementNotFound selector) := .inl rfl
  cases check with
  | hasClass name =>
    rcases yesOrNo_cases selector answer with h | ⟨present, h⟩
    · exact .inl ⟨_, missing, fun expected => by rw [observeElement, h]; rfl⟩
    · exact .inr ⟨present, _, fun expected => ⟨_, _, by rw [observeElement, h]; rfl⟩⟩
  | visible =>
    rcases yesOrNo_cases selector answer with h | ⟨visible, h⟩
    · exact .inl ⟨_, missing, fun expected => by rw [observeElement, h]; rfl⟩
    · exact .inr ⟨visible, _, fun expected => ⟨_, _, by rw [observeElement, h]; rfl⟩⟩
  | checked =>
    rcases yesOrNo_cases selector answer with h | ⟨checked, h⟩
    · exact .inl ⟨_, missing, fun expected => by rw [observeElement, h]; rfl⟩
    · exact .inr ⟨checked, _, fun expected => ⟨_, _, by rw [observeElement, h]; rfl⟩⟩
  | text text =>
    rcases found_cases selector answer with h | h
    · exact .inl ⟨_, missing, fun expected => by rw [observeElement, h]; rfl⟩
    · exact .inr ⟨_, _, fun expected => ⟨_, _, by rw [observeElement, h]; rfl⟩⟩
  | count number =>
    -- no element is not missing here: its number is zero
    cases h : answer.asNat? with
    | none => exact .inl ⟨_, .inr (.inr ⟨_, rfl⟩), fun expected => by rw [observeElement, h]⟩
    | some seen => exact .inr ⟨_, _, fun expected => ⟨_, _, by rw [observeElement, h]⟩⟩
  | value value =>
    rcases found_cases selector answer with h | h
    · exact .inl ⟨_, missing, fun expected => by rw [observeElement, h]; rfl⟩
    · -- only a text is the value of an input
      cases answer with
      | str seen => exact .inr ⟨_, _, fun expected => ⟨_, _, by rw [observeElement, h]; rfl⟩⟩
      | _ => exact .inl ⟨_, .inr (.inl rfl), fun expected => by rw [observeElement, h]; rfl⟩

theorem observe_cases (subject : Subject) (answer : Json) :
    (∃ failure, subject.Rejects failure ∧
      ∀ expected, (Check.mk expected subject).observe answer = .error failure) ∨
    ∃ holds actual, ∀ expected, ∃ expectation summary,
      (Check.mk expected subject).observe answer
        = .ok ⟨holds, expectation, actual, summary⟩ := by
  cases subject with
  | element selector check => exact observeElement_cases selector answer check
  | function source args => exact .inr ⟨_, _, fun expected => ⟨_, _, rfl⟩⟩

theorem outcome_of_rejected {c : Check} {answer : Json} {failure : Failure}
    (h : c.observe answer = .error failure) :
    c.outcome (.ok answer) = .error (.failed failure) := by
  simp only [outcome, verdict, h]
  rfl

theorem outcome_of_observed {c : Check} {answer : Json} {seen : Observation}
    (h : c.observe answer = .ok seen) :
    c.outcome (.ok answer) = if seen.holds = c.expected then .ok () else
      .error (.failed (.mismatch ⟨c.selector?, seen.expected, seen.actual, seen.summary⟩)) := by
  have hverdict : c.verdict answer = if seen.holds = c.expected then .ok ()
      else .error (.mismatch ⟨c.selector?, seen.expected, seen.actual, seen.summary⟩) := by
    rw [verdict, h]
    rfl
  rw [outcome, hverdict]
  by_cases hmet : seen.holds = c.expected
  · rw [if_pos hmet, if_pos hmet]
    rfl
  · rw [if_neg hmet, if_neg hmet]
    rfl

end Check

/-- On the same answer, an assertion and its negation are opposed, or both stop alike. -/
theorem Subject.outcomes (subject : Subject) (answered : Except Stop Json) :
    subject.Outcomes answered := by
  cases answered with
  | error stop => exact .unanswered rfl fun expected => rfl
  | ok answer =>
    rcases Check.observe_cases subject answer with ⟨failure, reason, h⟩ | ⟨holds, actual, seen⟩
    · exact .rejected reason fun expected => Check.outcome_of_rejected (h expected)
    · refine .opposed rfl seen ?_ ?_
      · obtain ⟨expectation, summary, h⟩ := seen holds
        rw [Check.outcome_of_observed h, if_pos rfl]
      · obtain ⟨expectation, summary, h⟩ := seen (!holds)
        have hunmet : ¬ holds = !holds := by simp
        exact ⟨expectation, summary, by rw [Check.outcome_of_observed h, if_neg hunmet]; rfl⟩

/-- Executing an assertion asks the page one question, and the answer decides what it comes to. -/
theorem Setting.run_execute_check (s : Setting σ) (c : Check) {w w₁ : World σ}
    {answered : Except Stop Json}
    (h : (s.env.doCall (.evaluate c.question.1 c.question.2)).run w = Run.ending answered w₁) :
    (s.execute (.check c)).run w = Run.ending (c.outcome answered) w₁ := by
  rw [execute, Action.execute, evaluate]
  cases answered with
  | error stop => exact Run.run_bind_of_error h
  | ok answer =>
    refine (Run.run_bind_of_ok h).trans ?_
    rw [Check.outcome]
    cases c.verdict answer <;> rfl

namespace Test

@[simp] theorem expected_not (test : Test) : test.not.expected = !test.expected := rfl

/-- An expectation that has been turned round an even number of times is that the subject holds. -/
theorem expected_iterate_not (k : Nat) :
    (Test.not^[k] {}).expected = decide (Even k) := by
  induction k with
  | zero => rfl
  | succ k ih =>
    rw [Function.iterate_succ_apply', expected_not, ih]
    by_cases h : Even k <;> simp [h, Nat.even_add_one]

end Test

namespace Chain

/-- The same scopes and the same session, but for the queue. -/
def withQueue (chain : Chain σ) (queue : Queue σ) : Chain σ :=
  { chain with session := { chain.session with queue := queue } }

/-- What a program adds to the queue, and what it makes of the scopes, does not depend on what has
been queued before. -/
theorem calls_of_queue (chain : Chain σ) (program : List (Nat × ScopeCall σ)) :
    ∃ added, ∀ queue, (chain.withQueue queue).calls program
      = ⟨(chain.calls program).scopes,
          { chain.session with queue := queue.append added }⟩ := by
  induction program generalizing chain with
  | nil => exact ⟨[], fun queue => by simp [calls, withQueue, Queue.append]⟩
  | cons first program ih =>
    obtain ⟨on, call⟩ := first
    obtain ⟨added, h⟩ := ih (chain.call on call)
    -- only a verb touches the queue
    cases call with
    | tell verb =>
      refine ⟨(chain.scope on).actions chain.session.options verb ++ added, fun queue => ?_⟩
      refine (h (queue.append ((chain.scope on).actions chain.session.options verb))).trans ?_
      simp [Chain.call, calls, Queue.append]
    | _ => exact ⟨added, h⟩

end Chain

/-- Executing an assertion, whatever is expected, asks the page the one question of its subject and
calls nothing else. On every answer, and also if the page stops instead,

* an assertion and its negation stop alike: with what the page has stopped with, or with the same
  failure, which says that there is no such element, that it is no input, or that the answer makes
  no sense;
* or both see the same, one succeeds and the other fails with a mismatch that has the full selector
  and tells what both have seen.

An assertion that has been turned round `k` times is the assertion for an even `k` and its negation
for an odd `k`. No verb changes what the calls after it queue, or the scopes. -/
theorem assertion_outcomes :
    (∀ (s : Setting σ) (subject : Subject),
      let question := (Check.mk true subject).question
      (∀ expected w, ∃ (answered : Except Stop Json) (w₁ : World σ),
        (s.env.doCall (.evaluate question.1 question.2)).run w = Run.ending answered w₁ ∧
        w₁.calls = w.calls ++ [.called (.evaluate question.1 question.2) answered.isOk] ∧
        (s.execute (.check ⟨expected, subject⟩)).run w
          = Run.ending ((Check.mk expected subject).outcome answered) w₁) ∧
      ∀ answered, subject.Outcomes answered) ∧
    (∀ (scope : Scope) (options : SessionOptions) (k : Nat),
      (∀ check, (scope.actions options (.testElement (Test.not^[k] {}) check) : List (Action σ))
        = match scope.resolve none with
          | .ok selector => [.check ⟨decide (Even k), .element selector check⟩]
          | .error _ => [.refused (.nothingSelected (.test (decide (Even k)) check))]) ∧
      ∀ function args,
        (scope.actions options (.testFunction (Test.not^[k] {}) function args) : List (Action σ))
          = [.check ⟨decide (Even k), .function function args⟩]) ∧
    ∀ (chain : Chain σ) (register : Nat) (verb : Verb σ) (program : List (Nat × ScopeCall σ)),
      let told := chain.call register (.tell verb)
      ∃ later, (chain.calls program).session.queue = chain.session.queue.append later ∧
        (told.calls program).session.queue = told.session.queue.append later ∧
        (told.calls program).scopes = (chain.calls program).scopes := by
  refine ⟨fun s subject => ⟨fun expected w => ?_, subject.outcomes⟩,
    fun scope options k => ⟨fun check => ?_, fun function args => ?_⟩,
    fun chain register verb program => ?_⟩
  · obtain ⟨answered, w₁, h⟩ := Run.exists_ending
      (s.env.doCall (.evaluate (Check.mk expected subject).question.1
        (Check.mk expected subject).question.2)) w
    exact ⟨answered, w₁, h, World.calls_ask (fun _ => rfl) h, s.run_execute_check _ h⟩
  · rw [Scope.actions, Scope.targeted, Test.expected_iterate_not]
    cases scope.resolve none <;> rfl
  · rw [Scope.actions, Test.expected_iterate_not]
  · obtain ⟨later, h⟩ := chain.calls_of_queue program
    refine ⟨later, ?_, ?_, ?_⟩
    · exact congrArg (·.session.queue) (h chain.session.queue)
    · exact congrArg (·.session.queue) (h (chain.call register (.tell verb)).session.queue)
    · exact congrArg (·.scopes) (h (chain.call register (.tell verb)).session.queue)

/-- A page that reports a mismatch of its own makes an assertion and its negation stop with that
report. Neither succeeds, and what they stop with is a mismatch all the same. -/
theorem assertion_of_reporting_page :
    let report : Mismatch := ⟨some "#page", "e", "a", "reported by the page"⟩
    let env : Environment Unit :=
      { launch := fun _ => pure (), createPage := pure (), exit := pure ()
        call := fun _ => throw (.failed (.mismatch report))
        now := fun host => (.zero, host), sleep := fun _ => pure () }
    let assert (expected : Bool) : Run (World Unit) Unit :=
      (Setting.mk env {} [] 1).execute (.check ⟨expected, .element "li" (.count 1)⟩)
    (∀ expected, ∃ w,
      (assert expected).run { host := () } = .error (.failed (.mismatch report)) w) ∧
    ¬ ((∃ failure, (∀ report, failure ≠ .mismatch report) ∧
          ∀ expected, ∃ w, (assert expected).run { host := () } = .error (.failed failure) w) ∨
        ∃ holds w, (assert holds).run { host := () } = .ok () w) := by
  intro report env assert
  have stops (expected : Bool) : ∃ w,
      (assert expected).run { host := () } = .error (.failed (.mismatch report)) w :=
    ⟨_, rfl⟩
  refine ⟨stops, ?_⟩
  rintro (⟨failure, hfailure, h⟩ | ⟨holds, w, h⟩)
  · obtain ⟨w, hw⟩ := h true
    obtain ⟨w', hw'⟩ := stops true
    rw [hw'] at hw
    cases hw
    exact hfailure report rfl
  · obtain ⟨w', hw'⟩ := stops holds
    rw [hw'] at h
    cases h

end PagePilot
