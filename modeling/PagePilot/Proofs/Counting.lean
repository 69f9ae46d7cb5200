import PagePilot.Proofs.Naming
import PagePilot.Proofs.Polling
import PagePilot.Proofs.Termination

/-!
# Counting the matches of a selector

A wait for a selector and the assertions on the number of its matches ask the page the same
question, and they read a count alike: the wait goes on for as long as the assertion that nothing
matches would succeed. They part at an answer that is no count. The assertions then fail, but for
the wait nothing has matched yet.

## Main definitions

- `Json.IsCount` - the answers that tell a number
- `Setting.selectorWait` - the wait for a selector
- `Setting.assertCount` - the assertion that there are so many matches, and its negation
- `Setting.Counts` - the page answers with a count, unless it stops

## Main statements

- `Setting.outcome_of_counts` - on a count, the wait and the assertions agree
- `Setting.outcome_of_no_count` - on anything else they part
- `selector_wait_counts` - a check of the wait, and the whole wait
-/

namespace PagePilot

variable {σ : Type}

/-- The answer tells a number. -/
def Json.IsCount (answer : Json) : Prop := ∃ number, answer.asNat? = some number

theorem Json.asNat?_eq_none {answer : Json} (h : ¬answer.IsCount) : answer.asNat? = none :=
  Option.eq_none_iff_forall_ne_some.mpr fun number hnumber => h ⟨number, hnumber⟩

theorem anyMatch_of_count {answer : Json} {number : Nat} (h : answer.asNat? = some number) :
    anyMatch answer = decide (0 < number) := by
  rw [anyMatch, h]
  rfl

theorem anyMatch_of_no_count {answer : Json} (h : ¬answer.IsCount) : anyMatch answer = false := by
  rw [anyMatch, Json.asNat?_eq_none h]
  rfl

namespace Check

variable (selector : String) (expected : Bool) (number : Nat) {answer : Json}

theorem outcome_of_count {seen : Nat} (h : answer.asNat? = some seen) :
    ∃ report, (Check.mk expected (.element selector (.count number))).outcome (.ok answer)
      = if (seen == number) = expected then .ok ()
        else .error (.failed (.mismatch report)) := by
  have hobserve : ∃ expectation actual summary,
      (Check.mk expected (.element selector (.count number))).observe answer
        = .ok ⟨seen == number, expectation, actual, summary⟩ := by
    simp only [observe, observeElement, h]
    exact ⟨_, _, _, rfl⟩
  obtain ⟨expectation, actual, summary, hobserve⟩ := hobserve
  exact ⟨_, outcome_of_observed hobserve⟩

theorem outcome_of_no_count (h : ¬answer.IsCount) :
    (Check.mk expected (.element selector (.count number))).outcome (.ok answer)
      = .error (.failed (.engine
          ("Unexpected count for " ++ selector ++ ": " ++ answer.text))) := by
  refine outcome_of_rejected ?_
  simp only [observe, observeElement, Json.asNat?_eq_none h]

end Check

namespace Setting

variable (s : Setting σ) (selector : String)

/-- Asks the page for the number of matches. -/
def matchCount : Run (World σ) Json := s.evaluate PageFunction.count.source [.str selector]

/-- The wait for a selector. -/
def selectorWait : Wait (World σ) where
  clock := s.env.clock
  config := s.options.waitConfig
  condition := "selector '" ++ selector ++ "'"
  check := anyMatch <$> s.matchCount selector

/-- Asserts that there are so many matches, or the opposite. -/
def assertCount (number : Nat) (expected : Bool) : Run (World σ) Unit :=
  s.execute (.check ⟨expected, .element selector (.count number)⟩)

theorem run_selectorWait_check (w : World σ) :
    (s.selectorWait selector).check.run w
      = Run.ending (((s.matchCount selector).outcome w).map anyMatch)
          ((s.matchCount selector).leaves w) :=
  Run.run_map_eq_ending anyMatch (s.matchCount selector) w

theorem run_assertCount (number : Nat) (expected : Bool) (w : World σ) :
    (s.assertCount selector number expected).run w
      = Run.ending ((Check.mk expected (.element selector (.count number))).outcome
          ((s.matchCount selector).outcome w)) ((s.matchCount selector).leaves w) :=
  s.run_execute_check ⟨expected, .element selector (.count number)⟩
    ((s.matchCount selector).run_eq_ending w)

/-- Unless the page stops, it answers with a count. -/
def Counts (w : World σ) : Prop :=
  ∀ answer, (s.matchCount selector).outcome w = .ok answer → answer.IsCount

variable {s selector} {w : World σ}

/-- What the wait and the assertions make of what the page answers. -/
theorem outcome_of_answered {answered : Except Stop Json}
    (h : (s.matchCount selector).outcome w = answered) :
    (s.selectorWait selector).check.outcome w = answered.map anyMatch ∧
      ∀ number expected, (s.assertCount selector number expected).outcome w
        = (Check.mk expected (.element selector (.count number))).outcome answered := by
  rw [← h]
  exact ⟨Run.outcome_of_ending (s.run_selectorWait_check selector w),
    fun number expected => Run.outcome_of_ending (s.run_assertCount selector number expected w)⟩

/-- If the page stops, so do the wait and the assertions. -/
theorem outcome_of_stop {stop : Stop} (h : (s.matchCount selector).outcome w = .error stop) :
    (s.selectorWait selector).check.outcome w = .error stop ∧
      ∀ number expected, (s.assertCount selector number expected).outcome w = .error stop :=
  outcome_of_answered h

/-- What is no count is no match for the wait, and the assertions fail. -/
theorem outcome_of_no_count {answer : Json} (h : (s.matchCount selector).outcome w = .ok answer)
    (hcount : ¬answer.IsCount) :
    (s.selectorWait selector).check.outcome w = .ok false ∧
      ∀ number expected, (s.assertCount selector number expected).outcome w
        = .error (.failed (.engine
            ("Unexpected count for " ++ selector ++ ": " ++ answer.text))) := by
  obtain ⟨hcheck, hassert⟩ := outcome_of_answered h
  refine ⟨?_, fun number expected => ?_⟩
  · rw [hcheck, Except.map, anyMatch_of_no_count hcount]
  · rw [hassert, Check.outcome_of_no_count selector expected number hcount]

/-- A number is a match for the wait if it is not zero; an assertion compares it with its own. -/
theorem outcome_of_count {answer : Json} {seen : Nat}
    (h : (s.matchCount selector).outcome w = .ok answer) (hseen : answer.asNat? = some seen) :
    (s.selectorWait selector).check.outcome w = .ok (decide (0 < seen)) ∧
      ∀ number expected, ∃ report, (s.assertCount selector number expected).outcome w
        = if (seen == number) = expected then .ok () else .error (.failed (.mismatch report)) := by
  obtain ⟨hcheck, hassert⟩ := outcome_of_answered h
  refine ⟨?_, fun number expected => ?_⟩
  · rw [hcheck, Except.map, anyMatch_of_count hseen]
  · rw [hassert]
    exact Check.outcome_of_count selector expected number hseen

/-- The wait and the assertions read counts alike. -/
theorem outcome_of_counts (h : s.Counts selector w) :
    ((s.selectorWait selector).check.outcome w = .ok true
      ↔ (s.assertCount selector 0 false).outcome w = .ok ()) ∧
    ((s.selectorWait selector).check.outcome w = .ok false
      ↔ (s.assertCount selector 0 true).outcome w = .ok ()) ∧
    ∀ stop, (∀ report, stop ≠ .failed (.mismatch report)) → ∀ number expected,
      ((s.selectorWait selector).check.outcome w = .error stop
        ↔ (s.assertCount selector number expected).outcome w = .error stop) := by
  cases hanswered : (s.matchCount selector).outcome w with
  | error stop =>
    obtain ⟨hcheck, hassert⟩ := outcome_of_stop hanswered
    simp [hcheck, hassert]
  | ok answer =>
    obtain ⟨seen, hseen⟩ := h answer hanswered
    obtain ⟨hcheck, hassert⟩ := outcome_of_count hanswered hseen
    refine ⟨?_, ?_, fun stop hstop number expected => ?_⟩
    · obtain ⟨report, hassert⟩ := hassert 0 false
      rw [hcheck, hassert]
      cases seen <;> simp
    · obtain ⟨report, hassert⟩ := hassert 0 true
      rw [hcheck, hassert]
      cases seen <;> simp
    · obtain ⟨report, hassert⟩ := hassert number expected
      rw [hcheck, hassert]
      refine iff_of_false (by simp) ?_
      -- an assertion that fails on a number fails with a mismatch
      split
      · simp
      · exact fun h => hstop report (Except.error.inj h).symm

end Setting

/-- A wait for a selector and the assertions on the number of its matches, on the same answer of the
page. They ask the same and leave the same world, and if the page stops, they stop with that.

* If the page answers with a count, one check of the wait holds exactly if the assertion succeeds
  that the number is not zero, and does not hold exactly if the assertion succeeds that it is zero.
  The check stops exactly as any of the assertions does, but for their mismatches.
* If the page answers with anything else, the check does not hold, and all assertions fail and give
  the answer.

A wait whose checks all see counts goes on only while there is no match. It ends in a success if
there is one at its last check, in a timeout if there is none, and with what the page has stopped
with. -/
theorem selector_wait_counts (s : Setting σ) (selector : String) :
    let wait := s.selectorWait selector
    let waiting := s.execute (.waitForSelector selector)
    let asserting := s.assertCount selector
    let asking := s.matchCount selector
    waiting = wait.poll s.budget ∧
    (∀ w,
      wait.check.leaves w = asking.leaves w ∧
      (∀ number expected, (asserting number expected).leaves w = asking.leaves w) ∧
      (∀ stop, asking.outcome w = .error stop → wait.check.outcome w = .error stop ∧
        ∀ number expected, (asserting number expected).outcome w = .error stop) ∧
      (s.Counts selector w →
        (wait.check.outcome w = .ok true ↔ (asserting 0 false).outcome w = .ok ()) ∧
        (wait.check.outcome w = .ok false ↔ (asserting 0 true).outcome w = .ok ()) ∧
        ∀ stop, (∀ report, stop ≠ .failed (.mismatch report)) → ∀ number expected,
          (wait.check.outcome w = .error stop
            ↔ (asserting number expected).outcome w = .error stop)) ∧
      ∀ answer, asking.outcome w = .ok answer → ¬answer.IsCount →
        wait.check.outcome w = .ok false ∧
        ∀ number expected, (asserting number expected).outcome w = .error (.failed (.engine
          ("Unexpected count for " ++ selector ++ ": " ++ answer.text)))) ∧
    ∀ w n, wait.Ends w n → (∀ k < n, ¬wait.Ends w k ∧ wait.slept w k = .ok ()) → n < s.budget →
      (∀ k ≤ n, s.Counts selector (wait.before w k)) →
      (∀ k < n, (asserting 0 true).outcome (wait.before w k) = .ok ()) ∧
      ((asserting 0 false).outcome (wait.before w n) = .ok () → waiting.outcome w = .ok ()) ∧
      ((asserting 0 true).outcome (wait.before w n) = .ok () →
        waiting.outcome w = .error (.failed (.timeout wait.condition wait.config.limit))) ∧
      ∀ stop, asking.outcome (wait.before w n) = .error stop →
        waiting.outcome w = .error stop := by
  intro wait waiting asserting asking
  refine ⟨rfl, fun w => ⟨?_, fun number expected => ?_, fun stop => Setting.outcome_of_stop,
    Setting.outcome_of_counts, fun answer => Setting.outcome_of_no_count⟩,
    fun w n hends hgoes hbudget hcounts => ?_⟩
  · exact Run.leaves_of_ending (s.run_selectorWait_check selector w)
  · exact Run.leaves_of_ending (s.run_assertCount selector number expected w)
  · have houtcome : waiting.outcome w = wait.answer w n := (Wait.poll_of_ends hends hgoes hbudget).1
    obtain ⟨hpresent, habsent, -⟩ := Setting.outcome_of_counts (hcounts n le_rfl)
    rw [houtcome, Wait.answer, Wait.seen]
    refine ⟨fun k hk => ?_, fun h => ?_, fun h => ?_, fun stop h => ?_⟩
    · exact (Setting.outcome_of_counts (hcounts k (Nat.le_of_lt hk))).2.1.mp
        (Wait.seen_of_not_ends (hgoes k hk).1)
    · rw [hpresent.mpr h]
    · rw [habsent.mpr h]
    · rw [(Setting.outcome_of_stop h).1]

/-- A page on which two elements match, one that answers `null`, and one that is gone. -/
theorem selector_wait_counts_two :
    let two : Setting Unit := ⟨.answering (.nat 2), {}, [], 1⟩
    let null : Setting Unit := ⟨.answering .null, {}, [], 1⟩
    let gone : Setting Unit := ⟨{ Environment.answering .null with
      call := fun _ => throw (.failed (.engine "gone")) }, {}, [], 1⟩
    let w : World Unit := { host := () }
    (two.Counts "li" w ∧ (two.selectorWait "li").check.outcome w = .ok true ∧
      (two.assertCount "li" 0 false).outcome w = .ok () ∧
      (two.execute (.waitForSelector "li")).outcome w = .ok ()) ∧
    ((null.selectorWait "li").check.outcome w = .ok false ∧
      ∀ number expected, (null.assertCount "li" number expected).outcome w
        = .error (.failed (.engine "Unexpected count for li: null"))) ∧
    ((gone.selectorWait "li").check.outcome w = .error (.failed (.engine "gone")) ∧
      ∀ number expected, (gone.assertCount "li" number expected).outcome w
        = .error (.failed (.engine "gone"))) := by
  intro two null gone w
  obtain ⟨-, htwo, hwait⟩ := selector_wait_counts two "li"
  obtain ⟨-, hnull, -⟩ := selector_wait_counts null "li"
  obtain ⟨-, hgone, -⟩ := selector_wait_counts gone "li"
  have hcounts (w : World Unit) : two.Counts "li" w := fun answer h => ⟨2, by cases h; rfl⟩
  have hnone : ¬Json.IsCount .null := fun ⟨_, h⟩ => by cases h
  have hpresent : (two.assertCount "li" 0 false).outcome w = .ok () := rfl
  have hends : (two.selectorWait "li").Ends w 0 := .inl (by intro h; cases h)
  refine ⟨⟨hcounts w, ((htwo w).2.2.2.1 (hcounts w)).1.mpr hpresent, hpresent, ?_⟩,
    (hnull w).2.2.2.2 .null rfl hnone, (hgone w).2.2.1 _ rfl⟩
  exact (hwait w 0 hends (fun k hk => absurd hk (Nat.not_lt_zero k)) Nat.zero_lt_one
    fun k _ => hcounts _).2.1 hpresent

/-- A page that answers `null` when it is asked for the number of matches. The assertions tell that
this is no number; the wait for the same selector goes on until its time has passed. -/
theorem selector_wait_of_null :
    let s : Setting Duration :=
      ⟨.obliging, { timeout := { nanos := 20 }, pollInterval := { nanos := 30 } }, [], 2⟩
    let w : World Duration := { host := .zero }
    (s.matchCount "li").outcome w = .ok .null ∧
    (s.selectorWait "li").check.outcome w = .ok false ∧
    (∀ number expected, (s.assertCount "li" number expected).outcome w
      = .error (.failed (.engine "Unexpected count for li: null"))) ∧
    (s.execute (.waitForSelector "li")).outcome w
      = .error (.failed (.timeout "selector 'li'" { nanos := 20 })) := by
  intro s w
  exact ⟨rfl, rfl, fun number expected => rfl, rfl⟩

end PagePilot
