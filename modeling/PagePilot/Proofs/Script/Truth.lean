import PagePilot.Proofs.Assertion
import PagePilot.Proofs.Evaluation
import PagePilot.Proofs.Script.Reading

/-!
# The truth of page functions in Chromium

A page function is asked for in a wait or in a test. Whether it is satisfied is settled by what is
left of its value in the wrapper's text; so a function is satisfied by all that a page takes for
true, except for what is lost in the text. If the page throws while it writes the value, both fail.

## Main definitions

- `Setting.functionHolds` - one check of a wait for a page function

## Main statements

- `Chromium.decodeAnswer_wrapped` - what the wrapper's answer for a value comes to
- `Chromium.function_holds_iff_truthy` - when a page function is satisfied
- `Chromium.truth_is_lost` - what a page takes for true need not satisfy
-/

namespace PagePilot

/-- One check of a wait for a page function. -/
def Setting.functionHolds {σ : Type} (s : Setting σ) (function : String) (args : List Json) :
    Run (World σ) Bool :=
  Json.isTruthy <$> s.evaluate function args

namespace Chromium

open Script (Value Form wrapped)

section Wrapper

theorem wrapped_of_none {x : Value} (h : x.form = .ok none) : wrapped x = some "\x7b\x7d" := by
  rw [wrapped, Script.formMembers, h]
  rfl

/-- The text of an object with one member. -/
theorem print_singleton {units : List UInt16} {key : String}
    (hkey : Script.printUnits units = Json.printText key) (form : Form) :
    (Form.object [(units, form)]).print
      = '\x7b' :: Json.printText key ++ ':' :: form.print ++ ['\x7d'] := by
  simp only [Form.print, Script.printMembers, hkey]

theorem wrapped_of_some {x : Value} {form : Form} (h : x.form = .ok (some form)) :
    wrapped x = some
      (String.ofList ('\x7b' :: Json.printText "value" ++ ':' :: form.print ++ ['\x7d'])) := by
  have hkey : Script.printUnits Script.valueKey = Json.printText "value" := rfl
  rw [← print_singleton hkey, wrapped, Script.formMembers, h]
  rfl

theorem wrapped_of_thrown {x : Value} {thrown : List UInt16} (h : x.form = .error (some thrown)) :
    wrapped x = some (String.ofList ('\x7b' :: Json.printText "error" ++ ':'
      :: Script.printUnits thrown ++ ['\x7d'])) := by
  have hkey : Script.printUnits Script.errorKey = Json.printText "error" := rfl
  have htext := print_singleton hkey (.text thrown)
  rw [Form.print] at htext
  rw [← htext, wrapped, Script.formMembers, h]
  rfl

theorem wrapped_of_speechless {x : Value} (h : x.form = .error none) : wrapped x = none := by
  rw [wrapped, Script.formMembers, h]
  rfl

/-- The wrapper's text about what a page has thrown tells of a failure, also if it cannot be
read. -/
theorem decodeText_thrown (thrown : List UInt16) :
    ∃ detail, decodeText (String.ofList ('\x7b' :: Json.printText "error" ++ ':'
      :: Script.printUnits thrown ++ ['\x7d'])) = .error (.engine detail) := by
  have hparse := Json.Record.toOption_parse_member field?_error {}
    (Json.Field.toOption_read_of (Script.toOption_readOptional "a string" thrown ['\x7d']))
  by_cases hsound : Script.isSound thrown = true
  · rw [if_pos hsound] at hparse
    exact ⟨_, decodeText_of_error hparse⟩
  · rw [if_neg hsound] at hparse
    exact decodeText_of_refused hparse

/-- What the wrapper's answer for a value comes to: a value with its truth, if that survives and the
value is written in a text that can be read. -/
theorem decodeAnswer_wrapped (x : Value) :
    (x.travels = true ∧ ∃ json : Json, decodeAnswer ((wrapped x).map Json.str) = .ok json ∧
        json.isTruthy = (x.isTruthy && x.survives)) ∨
      (x.travels = false ∧
        ∃ detail, decodeAnswer ((wrapped x).map Json.str) = .error (.engine detail)) := by
  rw [Value.travels]
  cases hform : x.form with
  | error thrown =>
    refine .inr ⟨rfl, ?_⟩
    cases thrown with
    | none =>
      rw [wrapped_of_speechless hform]
      exact ⟨_, rfl⟩
    | some thrown =>
      rw [wrapped_of_thrown hform]
      exact decodeText_thrown thrown
  | ok form? =>
    have htruth := x.isTruthy_of_form hform
    cases form? with
    | none =>
      rw [wrapped_of_none hform]
      exact .inl ⟨rfl, .null, decodeText_empty, htruth⟩
    | some form =>
      obtain ⟨json, hjson, hreads⟩ := Script.exists_reads form
      have hparse := Json.Record.toOption_parse_member field?_value {}
        (Json.Field.toOption_read_of (hreads 126 ['\x7d'] ⟨rfl, by decide, by decide, by decide⟩))
      rw [wrapped_of_some hform]
      by_cases hcond : form.isSound = true ∧ form.nesting ≤ 126
      · refine .inl ⟨?_, json, ?_, (hjson hcond.1).trans htruth⟩
        · simp [hcond.1, hcond.2]
        · rw [if_pos hcond] at hparse
          exact decodeText_of_value hparse
      · refine .inr ⟨?_, ?_⟩
        · simpa using hcond
        · rw [if_neg hcond] at hparse
          exact decodeText_of_refused hparse

end Wrapper

section Calls

variable {τ : Type} {browser : Browser τ} {options : Options} {now : τ → Duration × τ}
  {sleep : Duration → Op τ Unit} {s : Setting (Machine τ)} {w : World (Machine τ)} {tab : TabId}
  {function : String} {args : List Json} {inner : τ}

/-- An evaluation on the page of a session comes to what the browser's answer says. -/
theorem doCall_evaluate (henv : s.env = environment browser options now sleep)
    (hpage : w.host.page = some tab) {answer : Option Json}
    (hanswer : (browser.evaluate tab (evaluationScript function args)).run w.host.inner
      = .ok answer inner) :
    ∃ w₁, (s.env.doCall (.evaluate function args)).run w
      = Run.ending ((decodeAnswer answer).mapError Stop.failed) w₁ := by
  obtain ⟨host, journal⟩ := w
  have hperform := run_evaluate browser tab function args (w := ⟨host.inner, []⟩) hanswer
  have hcall : ((environment browser options now sleep).call (.evaluate function args)).run
      { host := host } = ended (decodeAnswer answer) ⟨{ host with inner := inner }, []⟩ := by
    have hpaged := run_call browser options now sleep (.evaluate function args) { host := host }
    rw [show host.page = some tab from hpage] at hpaged
    rw [hpaged]
    simp only [perform, onInner, EStateM.run] at hperform ⊢
    rw [hperform]
    cases decodeAnswer answer <;> rfl
  rw [henv]
  cases hdecoded : decodeAnswer answer with
  | ok value =>
    rw [hdecoded] at hcall
    exact ⟨_, World.ask_of_ok hcall _ journal⟩
  | error failure =>
    rw [hdecoded] at hcall
    exact ⟨_, World.ask_of_error hcall _ journal⟩

/-- One check of a wait and a test ask the browser the same, and its answer settles both. -/
theorem run_functionHolds (henv : s.env = environment browser options now sleep)
    (hpage : w.host.page = some tab) (function : String) (args : List Json) {x : Value}
    (hanswer : (browser.evaluate tab (evaluationScript function args)).run w.host.inner
      = .ok ((wrapped x).map Json.str) inner) :
    (x.travels = true ∧ ∃ w₁,
      (s.functionHolds function args).run w = .ok (x.isTruthy && x.survives) w₁ ∧
      ∀ expected, ∃ report, (s.execute (.check ⟨expected, .function function args⟩)).run w
        = if (x.isTruthy && x.survives) = expected then .ok () w₁
          else .error (.failed (.mismatch report)) w₁) ∨
    (x.travels = false ∧ ∃ detail w₁,
      (s.functionHolds function args).run w = .error (.failed (.engine detail)) w₁ ∧
      ∀ expected, (s.execute (.check ⟨expected, .function function args⟩)).run w
        = .error (.failed (.engine detail)) w₁) := by
  obtain ⟨w₁, hcall⟩ := doCall_evaluate henv hpage hanswer
  have htest (expected : Bool) :=
    s.run_execute_check ⟨expected, .function function args⟩ hcall
  obtain ⟨htravels, json, hdecoded, htruth⟩ | ⟨htravels, detail, hdecoded⟩ :=
    decodeAnswer_wrapped x
  · rw [hdecoded] at hcall htest
    refine .inl ⟨htravels, w₁, ?_, fun expected => ?_⟩
    · rw [← htruth]
      exact Run.run_map_of_ok hcall
    · have hobserved : Check.observe ⟨expected, .function function args⟩ json
          = .ok (Check.observeFunction expected json) := rfl
      have houtcome := Check.outcome_of_observed hobserved
      have hholds : (Check.observeFunction expected json).holds
          = (x.isTruthy && x.survives) := htruth
      rw [hholds] at houtcome
      refine ⟨⟨none, (Check.observeFunction expected json).expected, json.text,
        (Check.observeFunction expected json).summary⟩, (htest expected).trans ?_⟩
      simp only [Except.mapError, houtcome]
      split <;> rfl
  · rw [hdecoded] at hcall htest
    exact .inr ⟨htravels, detail, w₁, Run.run_map_of_error hcall, htest⟩

/-- Whatever a page function gives, when the browser has answered as the wrapper does for it, one
check of a wait for the function and a test of it come to the same:

* they are satisfied if the page takes the value for true, unless the text has lost that; it is lost
  of functions, of symbols and of infinite numbers, and what has been written as another value has
  the truth of this;
* they fail if the page throws while it writes the value, or if the text cannot be read, since half
  a character stands alone in it or it is nested too deep, and say that it is the engine that has
  failed.

A wait that has a check left and is satisfied ends at once. -/
theorem function_holds_iff_truthy (henv : s.env = environment browser options now sleep)
    (hpage : w.host.page = some tab) (function : String) (args : List Json) (x : Value)
    (hanswer : (browser.evaluate tab (evaluationScript function args)).run w.host.inner
      = .ok ((wrapped x).map Json.str) inner) :
    s.execute (.waitForFunction function args) = pollUntil s.env.clock s.options.waitConfig
      "page function to return a truthy value" (s.functionHolds function args) s.budget ∧
    (x.travels = true → ∃ w₁,
      (s.functionHolds function args).run w = .ok (x.isTruthy && x.survives) w₁ ∧
      ((x.isTruthy && x.survives) = true → ∀ w₀, (s.env.clock.now w₀).2 = w → 0 < s.budget →
        (s.execute (.waitForFunction function args)).run w₀ = .ok () w₁) ∧
      ∀ expected, ∃ report, (s.execute (.check ⟨expected, .function function args⟩)).run w
        = if (x.isTruthy && x.survives) = expected then .ok () w₁
          else .error (.failed (.mismatch report)) w₁) ∧
    (x.travels = false → ∃ detail w₁,
      (s.functionHolds function args).run w = .error (.failed (.engine detail)) w₁ ∧
      ∀ expected, (s.execute (.check ⟨expected, .function function args⟩)).run w
        = .error (.failed (.engine detail)) w₁) := by
  refine ⟨rfl, fun htravels => ?_, fun htravels => ?_⟩
  · obtain ⟨-, w₁, hholds, htest⟩ | ⟨hlost, -⟩ := run_functionHolds henv hpage function args hanswer
    · refine ⟨w₁, hholds, fun hsatisfied w₀ hnow hbudget => ?_, htest⟩
      obtain ⟨rounds, hrounds⟩ := Nat.exists_eq_succ_of_ne_zero (Nat.ne_of_gt hbudget)
      have hwait : s.execute (.waitForFunction function args) = pollUntil s.env.clock
        s.options.waitConfig "page function to return a truthy value"
        (s.functionHolds function args) s.budget := rfl
      rw [hsatisfied] at hholds
      rw [hwait, pollUntil, Run.run_bind_of_ok s.env.clock.run_read, hnow, hrounds]
      exact pollFrom_of_holds hholds
    · rw [htravels] at hlost
      cases hlost
  · obtain ⟨hkept, -⟩ | ⟨-, hfailed⟩ := run_functionHolds henv hpage function args hanswer
    · rw [htravels] at hkept
      cases hkept
    · exact hfailed

/-- What a session works with when its browser answers as the wrapper does for a value. -/
def giving (x : Value) : Setting (Machine Unit) where
  env := environment (Browser.answering ((wrapped x).map Json.str)) {} (fun host => (.zero, host))
    fun _ => pure ()
  options := {}
  afterOpen := []
  budget := 1

theorem env_giving (x : Value) : (giving x).env
    = environment (Browser.answering ((wrapped x).map Json.str)) {} (fun host => (.zero, host))
      fun _ => pure () :=
  rfl

/-- A session with an open page. -/
def opened : World (Machine Unit) where
  host := { inner := (), page := some 0 }

theorem function_holds_half :
    ∃ w₁, ((giving (.number 0.5)).functionHolds "function () \x7b return 0.5; \x7d" []).run opened
        = .ok true w₁ ∧
      ((giving (.number 0.5)).execute
        (.check ⟨true, .function "function () \x7b return 0.5; \x7d" []⟩)).run opened
          = .ok () w₁ := by
  obtain ⟨-, hkept, -⟩ := function_holds_iff_truthy (w := opened) (env_giving (.number 0.5)) rfl
    "function () \x7b return 0.5; \x7d" [] (.number 0.5) rfl
  obtain ⟨w₁, hholds, -, htest⟩ := hkept rfl
  obtain ⟨report, htest⟩ := htest true
  exact ⟨w₁, hholds, htest⟩

/-- A wait for a function or a test of it is satisfied when the page gives the value. -/
def Satisfies (x : Value) (function : String) : Prop :=
  (∃ w₁, ((giving x).functionHolds function []).run opened = .ok true w₁) ∨
    ∃ w₁, ((giving x).execute (.check ⟨true, .function function []⟩)).run opened = .ok () w₁

theorem not_satisfies_of_lost {x : Value} (hlost : x.travels = true → x.survives = false)
    (function : String) : ¬ Satisfies x function := by
  rintro (⟨w₁, hsatisfied⟩ | ⟨w₁, hsatisfied⟩) <;>
    obtain ⟨htravels, w, hholds, htest⟩ | ⟨-, detail, w, hholds, htest⟩ :=
      run_functionHolds (w := opened) (env_giving x) rfl function [] (x := x) rfl
  · rw [hholds, hlost htravels, Bool.and_false] at hsatisfied
    cases hsatisfied
  · rw [hholds] at hsatisfied
    cases hsatisfied
  · obtain ⟨report, htest⟩ := htest true
    rw [htest, hlost htravels, Bool.and_false, if_neg Bool.false_ne_true] at hsatisfied
    cases hsatisfied
  · rw [htest true] at hsatisfied
    cases hsatisfied

/-- A page takes a function, an infinite number, half a character and a list with a big integer for
true, but they do not satisfy. -/
theorem truth_is_lost :
    (Value.function.isTruthy = true ∧
      ¬ Satisfies .function "function () \x7b return Math.max; \x7d") ∧
    ((Value.number (1.0 / 0.0)).isTruthy = true ∧
      ¬ Satisfies (.number (1.0 / 0.0)) "function () \x7b return Infinity; \x7d") ∧
    ((Value.text [0xD800]).isTruthy = true ∧
      ¬ Satisfies (.text [0xD800]) "function () \x7b return '\\ud800'; \x7d") ∧
    ((Value.list [.unwritable true (some [])]).isTruthy = true ∧
      ¬ Satisfies (.list [.unwritable true (some [])]) "function () \x7b return [1n]; \x7d") :=
  ⟨⟨rfl, not_satisfies_of_lost (fun _ => rfl) _⟩, ⟨rfl, not_satisfies_of_lost (fun _ => rfl) _⟩,
    ⟨rfl, not_satisfies_of_lost (fun htravels => Bool.noConfusion htravels) _⟩,
    ⟨rfl, not_satisfies_of_lost (fun htravels => Bool.noConfusion htravels) _⟩⟩

end Calls

end Chromium

end PagePilot
