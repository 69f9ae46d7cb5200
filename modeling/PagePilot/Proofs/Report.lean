import PagePilot.Proofs.Naming

/-!
# What failed assertions report

The report of a failed assertion gives what was expected and what was seen. The two are told apart
but for the checks that compare a text of the page as it is: their reports give the same text as
expected, whether it was expected or not.

## Main definitions

- `Subject.expectation` - what a report gives as expected
- `Subject.Shows` - what an answer of the page can show, and what a report gives as seen
- `Subject.IsVerbatim` - whether a given text is compared with one of the page
- `Check.Fails` - the page answers, and the assertion fails on the answer

## Main statements

- `Subject.expectation_eq_iff` - what the reports of an assertion and of its negation give as
  expected
- `Subject.Shows.eq_iff` - when a report gives the same as expected and as seen
- `report_tells_apart` - both, for assertions that are executed
-/

namespace PagePilot

variable {σ : Type}

namespace Json

open Decimal

/-- The characters of the text of a number. -/
def IsNumeral (c : Char) : Prop := c.isDigit = true ∨ c ∈ ['-', '+', '.', 'e']

instance : DecidablePred IsNumeral := fun _ => inferInstanceAs (Decidable (_ ∨ _))

theorem isNumeral_of_mem_toDigits (n : Nat) : ∀ c ∈ Nat.toDigits 10 n, IsNumeral c :=
  fun _ h => .inl (Nat.isDigit_of_mem_toDigits (by omega) (Nat.le_refl 10) h)

theorem isNumeral_of_mem_zeros (n : Nat) : ∀ c ∈ List.replicate n '0', IsNumeral c :=
  fun _ h => by rw [List.eq_of_mem_replicate h]; decide

theorem isNumeral_of_mem_sign (negative : Bool) : ∀ c ∈ sign negative, IsNumeral c := by
  cases negative with
  | true => exact List.forall_mem_singleton.mpr (by decide)
  | false => exact List.forall_mem_nil _

theorem isNumeral_of_mem_ofScaled (coefficient : Nat) (scale : Int) :
    ∀ c ∈ (Digits.ofScaled coefficient scale).digits, IsNumeral c := fun c h =>
  isNumeral_of_mem_toDigits coefficient c
    (List.mem_reverse.mp ((List.dropWhile_sublist _).subset (List.mem_reverse.mp h)))

theorem isNumeral_of_mem_search (v : Magnitude) (tie : TieRule) (tries : Nat) (scale : Int) :
    ∀ c ∈ (v.search tie tries scale).digits, IsNumeral c := by
  induction tries generalizing scale with
  | zero => exact isNumeral_of_mem_ofScaled 0 scale
  | succ tries ih =>
    rw [Magnitude.search]
    cases v.onGrid tie scale with
    | none => exact ih (scale - 1)
    | some n => exact isNumeral_of_mem_ofScaled n scale

section Layout

variable {d : Digits} (h : ∀ c ∈ d.digits, IsNumeral c)
include h

theorem isNumeral_of_mem_wholePart : ∀ c ∈ d.wholePart, IsNumeral c := by
  rw [Digits.wholePart]
  split
  · exact isNumeral_of_mem_zeros 1
  · exact List.forall_mem_append.mpr
      ⟨fun c hc => h c (List.mem_of_mem_take hc), isNumeral_of_mem_zeros _⟩

theorem isNumeral_of_mem_fraction : ∀ c ∈ d.fraction, IsNumeral c := by
  rw [Digits.fraction]
  split
  · exact List.forall_mem_append.mpr ⟨isNumeral_of_mem_zeros _, h⟩
  · exact fun c hc => h c (List.mem_of_mem_drop hc)

theorem isNumeral_of_mem_scientific : ∀ c ∈ d.scientific, IsNumeral c := by
  have hpower : ∀ c ∈ 'e' :: (if d.exponent < 0 then '-' else '+')
      :: Nat.toDigits 10 d.exponent.natAbs, IsNumeral c := by
    refine List.forall_mem_cons.mpr ⟨by decide, List.forall_mem_cons.mpr
      ⟨?_, isNumeral_of_mem_toDigits _⟩⟩
    split <;> decide
  rw [Digits.scientific]
  cases hdigits : d.digits with
  | nil => exact List.forall_mem_cons.mpr ⟨.inl rfl, hpower⟩
  | cons first digits =>
    rw [hdigits] at h
    obtain ⟨hfirst, hdigits⟩ := List.forall_mem_cons.mp h
    cases digits with
    | nil => exact List.forall_mem_cons.mpr ⟨hfirst, hpower⟩
    | cons second digits =>
      exact List.forall_mem_cons.mpr ⟨hfirst, List.forall_mem_append.mpr
        ⟨List.forall_mem_cons.mpr ⟨by decide, hdigits⟩, hpower⟩⟩

theorem isNumeral_of_mem_printDigits : ∀ c ∈ printDigits d, IsNumeral c := by
  rw [printDigits]
  split
  · refine List.forall_mem_append.mpr ⟨isNumeral_of_mem_wholePart h,
      List.forall_mem_cons.mpr ⟨by decide, ?_⟩⟩
    cases d.fraction.isEmpty with
    | true => exact isNumeral_of_mem_zeros 1
    | false => exact isNumeral_of_mem_fraction h
  · exact isNumeral_of_mem_scientific h

end Layout

/-- What is no number is printed as `null`. -/
theorem printNumber_cases (n : Number) :
    printNumber n = ['n', 'u', 'l', 'l'] ∨ ∀ c ∈ printNumber n, IsNumeral c := by
  cases n with
  | int i =>
    cases i with
    | ofNat n => exact .inr (isNumeral_of_mem_toDigits n)
    | negSucc n =>
      exact .inr (List.forall_mem_cons.mpr ⟨by decide, isNumeral_of_mem_toDigits _⟩)
  | float x =>
    rw [printNumber, printFloat]
    cases reading x with
    | zero negative =>
      exact .inr (List.forall_mem_append.mpr ⟨isNumeral_of_mem_sign negative,
        List.forall_mem_cons.mpr ⟨by decide, List.forall_mem_cons.mpr ⟨by decide,
          List.forall_mem_singleton.mpr (by decide)⟩⟩⟩)
    | finite negative v =>
      exact .inr (List.forall_mem_append.mpr ⟨isNumeral_of_mem_sign negative,
        isNumeral_of_mem_printDigits (isNumeral_of_mem_search v _ _ _)⟩)
    | infinite negative => exact .inl rfl
    | notANumber => exact .inl rfl

theorem y_not_mem_printNumber (n : Number) : 'y' ∉ printNumber n := fun hy => by
  rcases printNumber_cases n with hnull | hnumerals
  · rw [hnull] at hy
    revert hy
    decide
  · exact absurd (hnumerals _ hy) (by decide)

/-- A text that begins like a word and has a `y` is not that of a value. -/
theorem print_ne {first : Char} {rest : List Char} (hy : 'y' ∈ first :: rest)
    (hfirst : first ∉ ['"', '[', '\x7b']) (value : Json) : value.print ≠ first :: rest := by
  intro h
  rw [← h] at hy
  -- the words of JSON and the numbers have no such letter, and all else begins with a mark
  cases value with
  | null => exact absurd hy (by decide)
  | bool b => cases b <;> exact absurd hy (by decide)
  | num n => exact y_not_mem_printNumber n hy
  | str s =>
    injection h with hquote
    exact hfirst (by simp [← hquote])
  | arr items =>
    cases items <;>
    · injection h with hbracket
      exact hfirst (by simp [← hbracket])
  | obj members =>
    cases members <;>
    · injection h with hbrace
      exact hfirst (by simp [← hbrace])

theorem text_ne_truthy (value : Json) : value.text ≠ "truthy" := fun h =>
  print_ne (by decide) (by decide) value (String.ofList_inj.mp h)

theorem text_ne_falsy (value : Json) : value.text ≠ "falsy" := fun h =>
  print_ne (by decide) (by decide) value (String.ofList_inj.mp h)

end Json

/-- Different numbers have different digits. -/
theorem toString_nat_injective : Function.Injective (toString : Nat → String) := fun m n h => by
  have hdigits : Nat.toDigits 10 m = Nat.toDigits 10 n := by
    simpa only [Nat.toString_eq_ofList_toDigits, String.ofList_inj] using h
  have hread := congrArg (Nat.ofDigitChars 10 · 0) hdigits
  simpa only [Nat.ofDigitChars_ten_toDigits] using hread

namespace Subject

/-- What a report gives as expected. -/
def expectation (expected : Bool) : Subject → String
  | .element _ (.hasClass name) => Check.negation expected ++ "class '" ++ name ++ "'"
  | .element _ (.count number) => Check.negation expected ++ toString number
  | .element _ .visible => Check.negation expected ++ "visible"
  | .element _ (.value value) => value
  | .element _ (.text text) => text
  | .element _ .checked => Check.negation expected ++ "checked"
  | .function _ _ => if expected then "truthy" else "falsy"

/-- Whether a given text is compared with one of the page. -/
def IsVerbatim : Subject → Prop
  | .element _ (.value _) | .element _ (.text _) => True
  | _ => False

/-- What an answer of the page can show: whether the subject holds, and what a report gives as
seen. -/
inductive Shows : Subject → (holds : Bool) → (actual : String) → Prop
  | hasClass {selector name : String} (present : Bool) :
      Shows (.element selector (.hasClass name)) present (if present then "present" else "absent")
  | count {selector : String} {number : Nat} (seen : Nat) :
      Shows (.element selector (.count number)) (seen == number) (toString seen)
  | visible {selector : String} (visible : Bool) :
      Shows (.element selector .visible) visible (if visible then "visible" else "hidden")
  | value {selector value : String} (seen : String) :
      Shows (.element selector (.value value)) (seen == value) seen
  | text {selector text : String} (seen : String) :
      Shows (.element selector (.text text)) (seen == text) seen
  | checked {selector : String} (checked : Bool) :
      Shows (.element selector .checked) checked (if checked then "checked" else "unchecked")
  | function {source : String} {args : List Json} (answer : Json) :
      Shows (.function source args) answer.isTruthy answer.text

end Subject

namespace Check

/-- An observation shows something of the subject, or the answer is rejected. -/
theorem observeElement_shows (expected : Bool) (selector : String) (answer : Json)
    (check : ElementCheck) :
    match observeElement expected selector answer check with
    | .error _ => True
    | .ok seen => seen.expected = (Subject.element selector check).expectation expected ∧
        (Subject.element selector check).Shows seen.holds seen.actual := by
  cases check with
  | hasClass name =>
    rcases yesOrNo_cases selector answer with h | ⟨present, h⟩ <;> rw [observeElement, h]
    · trivial
    · exact ⟨rfl, .hasClass present⟩
  | count number =>
    rw [observeElement]
    cases answer.asNat? with
    | none => trivial
    | some seen => exact ⟨rfl, .count seen⟩
  | visible =>
    rcases yesOrNo_cases selector answer with h | ⟨visible, h⟩ <;> rw [observeElement, h]
    · trivial
    · exact ⟨rfl, .visible visible⟩
  | value value =>
    rcases found_cases selector answer with h | h <;> rw [observeElement, h]
    · trivial
    · cases answer with
      | str seen => exact ⟨rfl, .value seen⟩
      | _ => trivial
  | text text =>
    rcases found_cases selector answer with h | h <;> rw [observeElement, h]
    · trivial
    · exact ⟨rfl, .text _⟩
  | checked =>
    rcases yesOrNo_cases selector answer with h | ⟨checked, h⟩ <;> rw [observeElement, h]
    · trivial
    · exact ⟨rfl, .checked checked⟩

theorem shows_of_observe {c : Check} {answer : Json} {seen : Observation}
    (h : c.observe answer = .ok seen) :
    seen.expected = c.subject.expectation c.expected ∧ c.subject.Shows seen.holds seen.actual := by
  obtain ⟨expected, subject⟩ := c
  cases subject with
  | element selector check =>
    have hshows := observeElement_shows expected selector answer check
    change observeElement expected selector answer check = .ok seen at h
    rw [h] at hshows
    exact hshows
  | function source args =>
    cases h
    exact ⟨rfl, .function answer⟩

theorem not_rejects_mismatch {subject : Subject} {report : Mismatch} :
    ¬subject.Rejects (.mismatch report) := by
  cases subject with
  | element selector check => rintro (h | h | ⟨detail, h⟩) <;> cases h
  | function source args => exact id

/-- A report gives what is expected, and what is seen is the opposite. -/
theorem shows_of_verdict {c : Check} {answer : Json} {report : Mismatch}
    (h : c.verdict answer = .error (.mismatch report)) :
    report.expected = c.subject.expectation c.expected ∧
      c.subject.Shows (!c.expected) report.actual := by
  rw [verdict] at h
  rcases observe_cases c.subject answer with ⟨failure, hrejects, hfails⟩ | ⟨holds, actual, hsees⟩
  · rw [show c.observe answer = .error failure from hfails c.expected] at h
    cases h
    exact absurd hrejects not_rejects_mismatch
  · obtain ⟨expectation, summary, hseen⟩ := hsees c.expected
    change c.observe answer = .ok ⟨holds, expectation, actual, summary⟩ at hseen
    obtain ⟨hexpectation, hshows⟩ := shows_of_observe hseen
    rw [hseen] at h
    change (if holds = c.expected then _ else _) = _ at h
    split at h
    · cases h
    · rename_i hunmet
      cases h
      exact ⟨hexpectation, Bool.eq_not_of_ne hunmet ▸ hshows⟩

end Check

namespace Subject

theorem negation_append_ne (text : String) :
    Check.negation true ++ text ≠ Check.negation false ++ text := fun h => by
  have hlength := congrArg String.length h
  simp [Check.negation] at hlength

/-- The reports of an assertion and of its negation give the same as expected exactly if a text is
compared as it is. -/
theorem expectation_eq_iff (subject : Subject) :
    subject.expectation true = subject.expectation false ↔ subject.IsVerbatim := by
  cases subject with
  | element selector check =>
    cases check with
    | value value => exact iff_of_true rfl trivial
    | text text => exact iff_of_true rfl trivial
    | hasClass name =>
      refine iff_of_false (fun h => ?_) id
      simp only [expectation, String.append_assoc] at h
      exact negation_append_ne _ h
    | count number => exact iff_of_false (negation_append_ne _) id
    | visible => exact iff_of_false (negation_append_ne _) id
    | checked => exact iff_of_false (negation_append_ne _) id
  | function source args =>
    have hwords : "truthy" ≠ "falsy" := by decide
    exact iff_of_false hwords id

/-- A text that has been compared is the same as the other exactly if it is expected not to be. -/
theorem verbatim_iff {expected : Bool} (text seen : String) (h : (!expected) = (seen == text)) :
    text = seen ↔ expected = false ∧ True := by
  rw [and_true, eq_comm, ← beq_iff_eq, ← h]
  simp

/-- The report of a failed assertion gives the same as expected and as seen exactly if a text is
expected not to be the one of the page. -/
theorem Shows.eq_iff {subject : Subject} {expected : Bool} {actual : String}
    (h : subject.Shows (!expected) actual) :
    subject.expectation expected = actual ↔ expected = false ∧ subject.IsVerbatim := by
  -- of what is seen, the counts and the texts are equal or not; the words differ either way
  generalize hholds : (!expected) = holds at h
  cases h with
  | hasClass present =>
    subst hholds
    refine iff_of_false (fun h => ?_) And.right
    have hfirst := congrArg (·.toList.head?) h
    cases expected <;> simp [expectation, Check.negation] at hfirst
  | @count _ number seen =>
    refine iff_of_false (fun h => ?_) And.right
    cases expected with
    | true =>
      have hdiffer : seen ≠ number := by simpa using hholds
      exact hdiffer (toString_nat_injective ((String.append_right_inj "").mp h)).symm
    | false =>
      have hsame : seen = number := by simpa using hholds
      have hlength := congrArg String.length h
      simp [expectation, Check.negation, hsame] at hlength
  | visible visible =>
    subst hholds
    exact iff_of_false (by cases expected <;> simp [expectation, Check.negation]) And.right
  | @value _ value seen => exact verbatim_iff value actual hholds
  | @text _ text seen => exact verbatim_iff text actual hholds
  | checked checked =>
    subst hholds
    exact iff_of_false (by cases expected <;> simp [expectation, Check.negation]) And.right
  | function answer =>
    refine iff_of_false (fun h => ?_) And.right
    cases expected with
    | true => exact answer.text_ne_truthy h.symm
    | false => exact answer.text_ne_falsy h.symm

end Subject

/-- The page answers the question of an assertion, and on this answer the assertion fails with a
report. -/
def Setting.Reports (s : Setting σ) (c : Check) (w : World σ) (report : Mismatch) : Prop :=
  ∃ (answer : Json) (w₁ : World σ),
    (s.env.doCall (.evaluate c.question.1 c.question.2)).run w = .ok answer w₁ ∧
    (s.execute (.check c)).run w = .error (.failed (.mismatch report)) w₁

namespace Setting

variable {s : Setting σ} {c : Check} {w w₁ : World σ} {report : Mismatch}

theorem Reports.shows (h : s.Reports c w report) :
    report.expected = c.subject.expectation c.expected ∧
      c.subject.Shows (!c.expected) report.actual := by
  obtain ⟨answer, w₁, hanswer, hexecute⟩ := h
  obtain ⟨houtcome, -⟩ := Run.ending_eq_of_error
    (s.run_execute_check c (Run.ending_of_ok hanswer)) hexecute
  change (c.verdict answer).mapError Stop.failed = _ at houtcome
  cases hverdict : c.verdict answer with
  | ok _ =>
    rw [hverdict] at houtcome
    cases houtcome
  | error failure =>
    rw [hverdict] at houtcome
    cases houtcome
    exact Check.shows_of_verdict hverdict

/-- A mismatch with which an assertion stops is its own report, or the page has stopped with it. -/
theorem reports_of_mismatch
    (h : (s.execute (.check c)).run w = .error (.failed (.mismatch report)) w₁) :
    (s.env.doCall (.evaluate c.question.1 c.question.2)).run w
        = .error (.failed (.mismatch report)) w₁ ∨ s.Reports c w report := by
  cases hask : (s.env.doCall (.evaluate c.question.1 c.question.2)).run w with
  | error stop w₂ =>
    obtain ⟨hstop, hw⟩ := Run.ending_eq_of_error
      (s.run_execute_check c (Run.ending_of_error hask)) h
    cases hstop
    exact .inl (by rw [hw])
  | ok answer w₂ =>
    obtain ⟨-, hw⟩ := Run.ending_eq_of_error (s.run_execute_check c (Run.ending_of_ok hask)) h
    exact .inr ⟨answer, w₂, hask, hw ▸ h⟩

end Setting

/-- What the reports of failed assertions tell apart. If an assertion stops with a mismatch, the
page has stopped with it, or it has answered and the assertion has failed on the answer. In the
latter case, whatever is asserted, expected and answered,

* the report gives the same as expected and as seen exactly if the value or the text of elements is
  expected not to be the given one;
* the reports of an assertion and of its negation give the same as expected exactly if the value or
  the text of elements is compared. -/
theorem report_tells_apart (s s' : Setting σ) (subject : Subject) (w w' : World σ) :
    (∀ expected w₁ report,
      let question := (Check.mk expected subject).question
      (s.execute (.check ⟨expected, subject⟩)).run w = .error (.failed (.mismatch report)) w₁ →
      (s.env.doCall (.evaluate question.1 question.2)).run w
          = .error (.failed (.mismatch report)) w₁ ∨
        s.Reports ⟨expected, subject⟩ w report) ∧
    (∀ expected report, s.Reports ⟨expected, subject⟩ w report →
      (report.expected = report.actual ↔ expected = false ∧ subject.IsVerbatim)) ∧
    ∀ report report', s.Reports ⟨true, subject⟩ w report → s'.Reports ⟨false, subject⟩ w' report' →
      (report.expected = report'.expected ↔ subject.IsVerbatim) := by
  refine ⟨fun expected w₁ report => Setting.reports_of_mismatch, fun expected report h => ?_,
    fun report report' h h' => ?_⟩
  · obtain ⟨hexpected, hshows⟩ := h.shows
    rw [hexpected]
    exact hshows.eq_iff
  · rw [h.shows.1, h'.shows.1]
    exact subject.expectation_eq_iff

/-- Two elements are expected and three found, or two are found where any other number is
expected. -/
theorem report_tells_apart_counts :
    let three : Setting Unit := ⟨.answering (.nat 3), {}, [], 1⟩
    let two : Setting Unit := ⟨.answering (.nat 2), {}, [], 1⟩
    let subject : Subject := .element "li" (.count 2)
    let wanted : Mismatch := ⟨some "li", "2", "3", "expected 2 elements matching 'li', found 3"⟩
    let unwanted : Mismatch := ⟨some "li", "not 2", "2",
      "expected anything but 2 elements matching 'li', found 2"⟩
    (three.Reports ⟨true, subject⟩ { host := () } wanted ∧ wanted.expected ≠ wanted.actual) ∧
    (two.Reports ⟨false, subject⟩ { host := () } unwanted ∧ unwanted.expected ≠ unwanted.actual) ∧
    wanted.expected ≠ unwanted.expected := by
  intro three two subject wanted unwanted
  have hwanted : three.Reports ⟨true, subject⟩ { host := () } wanted := ⟨_, _, rfl, rfl⟩
  have hunwanted : two.Reports ⟨false, subject⟩ { host := () } unwanted := ⟨_, _, rfl, rfl⟩
  obtain ⟨-, htells, hapart⟩ := report_tells_apart three two subject { host := () } { host := () }
  obtain ⟨-, htells', -⟩ := report_tells_apart two three subject { host := () } { host := () }
  exact ⟨⟨hwanted, mt (htells true wanted hwanted).mp (by simp)⟩,
    ⟨hunwanted, mt (htells' false unwanted hunwanted).mp And.right⟩,
    mt (hapart wanted unwanted hwanted hunwanted).mp id⟩

/-- An input is expected to have any value but the one that it has: the report gives this value as
expected. It does so too if the input is expected to have the value and has another one. -/
theorem report_of_unwanted_value :
    let input (value : String) : Setting Unit := ⟨.answering (.str value), {}, [], 1⟩
    let subject : Subject := .element "#q" (.value "tea")
    (∃ report, (input "tea").Reports ⟨false, subject⟩ { host := () } report ∧
      report.expected = "tea" ∧ report.actual = "tea") ∧
    ∃ report, (input "coffee").Reports ⟨true, subject⟩ { host := () } report ∧
      report.expected = "tea" ∧ report.actual = "coffee" :=
  ⟨⟨_, ⟨_, _, rfl, rfl⟩, rfl, rfl⟩, _, ⟨_, _, rfl, rfl⟩, rfl, rfl⟩

end PagePilot
