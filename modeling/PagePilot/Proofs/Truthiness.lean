import PagePilot.Proofs.Naming
import PagePilot.Proofs.Polling
import PagePilot.Proofs.Script.Truth

/-!
# What is taken for true

A wait for a page function, a test of it and the opposite test ask the page for the same value and
settle by the same rule whether it is true. A number is compared with zero as a floating-point
number; no integer of 64 bits becomes zero on the way there, unless it is zero.

## Main definitions

- `Json.IsFalsy` - the values that are taken for false
- `Json.Fits` - the numbers are those that a value can have
- `Setting.functionWait`, `Setting.testFunction` - the wait for a page function, and its tests

## Main statements

- `Json.isTruthy_eq_false_iff` - which values are taken for false
- `Setting.outcome_of_value`, `Setting.outcome_of_stopped` - what one check and the tests come to
- `truthiness_agrees` - the wait, the test and the opposite test
-/

namespace PagePilot

variable {σ : Type}

namespace Json

/-- The number is zero, of either sign. -/
def Number.IsZero : Number → Prop
  | .int i => i = 0
  | .float x => x = 0.0 ∨ x = -0.0

/-- An integer has at most 64 bits, be it with a sign or without one. -/
def Number.Fits : Number → Prop
  | .int i => -2 ^ 63 ≤ i ∧ i < 2 ^ 64
  | .float _ => True

/-- If the value is a number, it fits. -/
def Fits : Json → Prop
  | .num n => n.Fits
  | _ => True

/-- The values that are taken for false. -/
inductive IsFalsy : Json → Prop
  | null : IsFalsy .null
  | false : IsFalsy (.bool Bool.false)
  | zero {n : Number} (h : n.IsZero) : IsFalsy (.num n)
  | empty : IsFalsy (.str "")

/-- The conversion to a floating-point number makes zero of zero only. -/
theorem Number.isTruthy_eq_false_iff {n : Number} (h : n.Fits) :
    n.isTruthy = false ↔ n.IsZero := by
  cases n with
  | int i =>
    constructor
    · intro hfalse
      by_contra hne
      rw [isTruthy_int h.1 h.2 hne] at hfalse
      cases hfalse
    · rintro rfl
      decide
  | float x => rw [isTruthy, toFloat, bne, Bool.not_eq_false', Binary64.beq_zero_iff,
      IsZero]

/-- Which values are taken for false. -/
theorem isTruthy_eq_false_iff {v : Json} (h : v.Fits) : v.isTruthy = false ↔ v.IsFalsy := by
  constructor
  · intro hfalse
    cases v with
    | null => exact .null
    | bool b =>
      obtain rfl : b = false := hfalse
      exact .false
    | num n => exact .zero ((Number.isTruthy_eq_false_iff h).mp hfalse)
    | str s =>
      obtain rfl : s = "" := by simpa [isTruthy] using hfalse
      exact .empty
    | arr items => cases hfalse
    | obj members => cases hfalse
  · rintro (_ | _ | hzero | _)
    · rfl
    · rfl
    · exact (Number.isTruthy_eq_false_iff h).mpr hzero
    · decide

end Json

namespace Setting

variable (s : Setting σ) (function : String) (args : List Json)

/-- The wait for a page function. -/
def functionWait : Wait (World σ) where
  clock := s.env.clock
  config := s.options.waitConfig
  condition := "page function to return a truthy value"
  check := s.functionHolds function args

/-- Tests that a page function gives a value that is taken for true, or the opposite. -/
def testFunction (test : Test) : Run (World σ) Unit :=
  s.execute (.check ⟨test.expected, .function function args⟩)

theorem run_functionWait_check (w : World σ) :
    (s.functionWait function args).check.run w
      = Run.ending (((s.evaluate function args).outcome w).map Json.isTruthy)
          ((s.evaluate function args).leaves w) :=
  Run.run_map_eq_ending Json.isTruthy (s.evaluate function args) w

theorem run_testFunction (test : Test) (w : World σ) :
    (s.testFunction function args test).run w
      = Run.ending ((Check.mk test.expected (.function function args)).outcome
          ((s.evaluate function args).outcome w)) ((s.evaluate function args).leaves w) :=
  s.run_execute_check ⟨test.expected, .function function args⟩
    ((s.evaluate function args).run_eq_ending w)

variable {s function args} {w : World σ}

/-- If the page stops, so do the wait and the tests. -/
theorem outcome_of_stopped {stop : Stop} (h : (s.evaluate function args).outcome w = .error stop) :
    (s.functionWait function args).check.outcome w = .error stop ∧
      ∀ test, (s.testFunction function args test).outcome w = .error stop := by
  refine ⟨?_, fun test => ?_⟩
  · rw [Run.outcome_of_ending (s.run_functionWait_check function args w), h]
    rfl
  · rw [Run.outcome_of_ending (s.run_testFunction function args test w), h]
    rfl

/-- On a value, a check of the wait sees whether it is taken for true; a test compares that with
what it expects. -/
theorem outcome_of_value {v : Json} (h : (s.evaluate function args).outcome w = .ok v) :
    (s.functionWait function args).check.outcome w = .ok v.isTruthy ∧
      ∀ test, ∃ report, (s.testFunction function args test).outcome w
        = if v.isTruthy = test.expected then .ok () else .error (.failed (.mismatch report)) := by
  refine ⟨?_, fun test => ?_⟩
  · rw [Run.outcome_of_ending (s.run_functionWait_check function args w), h]
    rfl
  · have hobserved : Check.observe ⟨test.expected, .function function args⟩ v
        = .ok (Check.observeFunction test.expected v) := rfl
    rw [Run.outcome_of_ending (s.run_testFunction function args test w), h]
    exact ⟨_, Check.outcome_of_observed hobserved⟩

/-- On a value, what is true of it is what the wait and the tests agree on. -/
theorem agree_of_value {v : Json} (h : (s.evaluate function args).outcome w = .ok v) :
    ((s.functionWait function args).check.outcome w = .ok true ↔ v.isTruthy = true) ∧
    ((s.testFunction function args {}).outcome w = .ok () ↔ v.isTruthy = true) ∧
    ((∃ report, (s.testFunction function args (.not {})).outcome w
        = .error (.failed (.mismatch report))) ↔ v.isTruthy = true) ∧
    ((s.functionWait function args).check.outcome w = .ok false ↔ v.isTruthy = false) ∧
    ((s.testFunction function args (.not {})).outcome w = .ok () ↔ v.isTruthy = false) ∧
    ((∃ report, (s.testFunction function args {}).outcome w
        = .error (.failed (.mismatch report))) ↔ v.isTruthy = false) := by
  obtain ⟨hcheck, htest⟩ := outcome_of_value h
  obtain ⟨report, hpassing⟩ := htest {}
  obtain ⟨opposite, hfailing⟩ := htest (.not {})
  rw [hcheck, hpassing, hfailing]
  cases v.isTruthy <;> simp [Test.not]

/-- A check of the wait sees exactly what a test that passes expects. -/
theorem check_eq_ok_iff (test : Test) :
    (s.functionWait function args).check.outcome w = .ok test.expected
      ↔ (s.testFunction function args test).outcome w = .ok () := by
  cases hanswered : (s.evaluate function args).outcome w with
  | error stop =>
    obtain ⟨hcheck, htest⟩ := outcome_of_stopped hanswered
    simp [hcheck, htest]
  | ok v =>
    obtain ⟨hcheck, htest⟩ := outcome_of_value hanswered
    obtain ⟨report, htest⟩ := htest test
    rw [hcheck, htest]
    split
    · next hmet => simp [hmet]
    · next hunmet => simp [hunmet]

end Setting

/-- A value is taken for false exactly if it is `null`, `false`, a number equal to zero or the empty
text, whatever the 64 bits of an integer or of a floating-point number are.

A wait for a page function, a test of it and the opposite test, whichever scope has queued these,
ask the page the same and leave the same world. They agree on every value that the page answers
with: one check of the wait holds, exactly if the test passes, exactly if the opposite test fails
with a mismatch, exactly if the value is taken for true. If the page stops instead, all three stop
with that.

So a wait goes on only while the opposite test would pass. It ends in a success if the test would
pass at its last check, in a timeout if the opposite test would, and with what the page has stopped
with. -/
theorem truthiness_agrees (s : Setting σ) (function : String) (args : List Json) :
    let asking := s.evaluate function args
    let wait := s.functionWait function args
    let waiting := s.execute (.waitForFunction function args)
    let testing (test : Test) := s.testFunction function args test
    (∀ v : Json, v.Fits → (v.isTruthy = false ↔ v.IsFalsy)) ∧
    waiting = wait.poll s.budget ∧
    (∀ (scope : Scope) (test : Test), ∃ action,
      scope.actions s.options (.testFunction test function args) = [action] ∧
      s.execute action = testing test) ∧
    (∀ w,
      wait.check.leaves w = asking.leaves w ∧
      (∀ test, (testing test).leaves w = asking.leaves w) ∧
      (∀ v, asking.outcome w = .ok v →
        (wait.check.outcome w = .ok true ↔ v.isTruthy = true) ∧
        ((testing {}).outcome w = .ok () ↔ v.isTruthy = true) ∧
        ((∃ report, (testing (.not {})).outcome w = .error (.failed (.mismatch report)))
          ↔ v.isTruthy = true) ∧
        (wait.check.outcome w = .ok false ↔ v.isTruthy = false) ∧
        ((testing (.not {})).outcome w = .ok () ↔ v.isTruthy = false) ∧
        ((∃ report, (testing {}).outcome w = .error (.failed (.mismatch report)))
          ↔ v.isTruthy = false)) ∧
      ∀ stop, asking.outcome w = .error stop →
        wait.check.outcome w = .error stop ∧ ∀ test, (testing test).outcome w = .error stop) ∧
    ∀ w n, wait.Ends w n → (∀ k < n, ¬wait.Ends w k ∧ wait.slept w k = .ok ()) → n < s.budget →
      (∀ k < n, (testing (.not {})).outcome (wait.before w k) = .ok ()) ∧
      ((testing {}).outcome (wait.before w n) = .ok () → waiting.outcome w = .ok ()) ∧
      ((testing (.not {})).outcome (wait.before w n) = .ok () →
        waiting.outcome w = .error (.failed (.timeout wait.condition wait.config.limit))) ∧
      ∀ stop, asking.outcome (wait.before w n) = .error stop → waiting.outcome w = .error stop := by
  intro asking wait waiting testing
  refine ⟨fun v => Json.isTruthy_eq_false_iff, rfl, fun scope test => ⟨_, rfl, rfl⟩,
    fun w => ⟨?_, fun test => ?_, fun v hv => ?_, fun stop => Setting.outcome_of_stopped⟩,
    fun w n hends hgoes hbudget => ?_⟩
  · exact Run.leaves_of_ending (s.run_functionWait_check function args w)
  · exact Run.leaves_of_ending (s.run_testFunction function args test w)
  · exact Setting.agree_of_value hv
  · have houtcome : waiting.outcome w = wait.answer w n := (Wait.poll_of_ends hends hgoes hbudget).1
    rw [houtcome, Wait.answer, Wait.seen]
    refine ⟨fun k hk => ?_, fun h => ?_, fun h => ?_, fun stop h => ?_⟩
    · exact (Setting.check_eq_ok_iff (.not {})).mp (Wait.seen_of_not_ends (hgoes k hk).1)
    · rw [(Setting.check_eq_ok_iff {}).mpr h]
    · rw [(Setting.check_eq_ok_iff (.not {})).mpr h]
      rfl
    · rw [(Setting.outcome_of_stopped h).1]

/-- A page that answers with the least or the greatest integer, with the least floating-point number
or with minus zero, and one that is gone. -/
theorem truthiness_agrees_at_ends :
    let giving (v : Json) : Setting Unit := ⟨.answering v, {}, [], 1⟩
    let gone : Setting Unit := ⟨{ Environment.answering .null with
      call := fun _ => throw (.failed (.engine "gone")) }, {}, [], 1⟩
    let w : World Unit := { host := () }
    let zero := Json.num (.float (-0.0))
    (∀ v ∈ [Json.int (-2 ^ 63), .int (2 ^ 64 - 1), .num (.float (.ofBits 1))],
      v.Fits ∧ ¬v.IsFalsy ∧
      ((giving v).testFunction "f" [] {}).outcome w = .ok () ∧
      ((giving v).execute (.waitForFunction "f" [])).outcome w = .ok ()) ∧
    (zero.Fits ∧ zero.IsFalsy ∧
      ((giving zero).functionWait "f" []).check.outcome w = .ok false ∧
      ((giving zero).testFunction "f" [] (.not {})).outcome w = .ok () ∧
      ∃ report, ((giving zero).testFunction "f" [] {}).outcome w
        = .error (.failed (.mismatch report))) ∧
    ((gone.functionWait "f" []).check.outcome w = .error (.failed (.engine "gone")) ∧
      ∀ test, (gone.testFunction "f" [] test).outcome w = .error (.failed (.engine "gone"))) := by
  intro giving gone w zero
  refine ⟨fun v hv => ?_, ?_, ?_⟩
  · have htruthy : v.Fits ∧ v.isTruthy = true := by
      simp only [List.mem_cons, List.not_mem_nil, or_false] at hv
      rcases hv with rfl | rfl | rfl
      · exact ⟨⟨by decide, by decide⟩, by decide⟩
      · exact ⟨⟨by decide, by decide⟩, by decide⟩
      · exact ⟨trivial, by decide⟩
    obtain ⟨hfits, htrue⟩ := htruthy
    obtain ⟨hfalsy, -, -, hagree, hwait⟩ := truthiness_agrees (giving v) "f" []
    have hpasses (w : World Unit) : ((giving v).testFunction "f" [] {}).outcome w = .ok () :=
      ((hagree w).2.2.1 v rfl).2.1.mpr htrue
    refine ⟨hfits, fun h => ?_, hpasses w, ?_⟩
    · rw [(hfalsy v hfits).mpr h] at htrue
      cases htrue
    · have hends : ((giving v).functionWait "f" []).Ends w 0 := .inl fun hseen => by
        have hholds := ((hagree w).2.2.1 v rfl).1.mpr htrue
        cases hholds.symm.trans hseen
      exact (hwait w 0 hends (fun k hk => absurd hk (Nat.not_lt_zero k)) Nat.zero_lt_one).2.1
        (hpasses _)
  · obtain ⟨hfalsy, -, -, hagree, -⟩ := truthiness_agrees (giving zero) "f" []
    have hfalse : zero.isTruthy = false := by decide
    obtain ⟨-, -, -, hcheck, hopposite, htest⟩ := (hagree w).2.2.1 zero rfl
    exact ⟨trivial, (hfalsy zero trivial).mp hfalse, hcheck.mpr hfalse, hopposite.mpr hfalse,
      htest.mpr hfalse⟩
  · obtain ⟨-, -, -, hagree, -⟩ := truthiness_agrees gone "f" []
    exact (hagree w).2.2.2 _ rfl

end PagePilot
