import PagePilot.Proofs.Assertion

/-!
# Failures name their elements

When a step about an element fails, the selector of the element stands in the wording of the
failure as it is, and a mismatch carries it besides. This is so whatever the page answers; only a
call that the outside refuses fails in the outside's own words.

## Main definitions

- `Text.Mentions` - one text stands in another
- `Failure.Names` - a failure names an element
- `World.refusals` - what the outside has refused
- `Run.Accounts` - what the failures of a run are unless something is refused

## Main statements

- `Check.observeElement_names` - a check, by the ways in which it can go
- `failure_names_selector` - everything that can be done with an element
-/

namespace PagePilot

variable {σ α β : Type}

/-- The part stands somewhere in the text. -/
def Text.Mentions (text part : String) : Prop := ∃ front back, text = front ++ part ++ back

namespace Text.Mentions

variable {text part : String}

theorem behind (start : String) (h : Mentions text part) : Mentions (start ++ text) part := by
  obtain ⟨front, back, rfl⟩ := h
  exact ⟨start ++ front, back, by simp only [String.append_assoc]⟩

@[simp] theorem first (part rest : String) : Mentions (part ++ rest) part :=
  ⟨"", rest, by simp⟩

@[simp] theorem second (start part rest : String) : Mentions (start ++ (part ++ rest)) part :=
  behind start (first part rest)

@[simp] theorem last (start part : String) : Mentions (start ++ part) part :=
  ⟨start, "", by simp⟩

end Text.Mentions

/-- The failure tells of an element: by its wording, and in the report of a mismatch. -/
structure Failure.Names (failure : Failure) (selector : String) : Prop where
  mentions : Text.Mentions failure.message selector
  reported : ∀ report, failure = .mismatch report → report.selector = some selector

namespace Failure.Names

open Text (Mentions)

variable {selector detail : String}

theorem elementNotFound (selector : String) : (Failure.elementNotFound selector).Names selector :=
  ⟨.last _ _, nofun⟩

theorem notAnInput (selector : String) : (Failure.notAnInput selector).Names selector :=
  ⟨.last _ _, nofun⟩

theorem engine (h : Mentions detail selector) : (Failure.engine detail).Names selector :=
  ⟨.behind _ h, nofun⟩

theorem timeout {condition : String} (h : Mentions condition selector) (limit : Duration) :
    (Failure.timeout condition limit).Names selector :=
  ⟨.behind _ h, nofun⟩

theorem mismatch {report : Mismatch} (hselector : report.selector = some selector)
    (h : Mentions report.summary selector) : (Failure.mismatch report).Names selector :=
  ⟨.behind _ h, fun _ heq => by cases heq; exact hselector⟩

end Failure.Names

section Verdicts

open Text (Mentions)

variable {selector : String} {answer : Json} {failure : Failure}

theorem clickVerdict_names (h : clickVerdict selector answer = .error failure) :
    failure.Names selector := by
  rw [clickVerdict.eq_def] at h
  split at h
  · cases h
  · cases h
    exact .elementNotFound selector

theorem clickPoint_names (h : clickPoint selector answer = .error failure) :
    failure.Names selector := by
  rw [clickPoint] at h
  split at h
  · cases h
    exact .elementNotFound selector
  · split at h
    · cases h
    · cases h
      exact .engine (by simp [String.append_assoc])

theorem setValueVerdict_names (h : setValueVerdict selector answer = .error failure) :
    failure.Names selector := by
  rw [setValueVerdict] at h
  split at h
  · cases h
  · cases h
    exact .notAnInput selector
  · cases h
    exact .elementNotFound selector
  · cases h
    exact .engine (by simp [String.append_assoc])

/-- Whatever a check of an element comes to by itself names the element: what it rejects an answer
for, and the sentence about what it has seen. -/
theorem Check.observeElement_names (expected : Bool) (selector : String) (answer : Json)
    (check : ElementCheck) :
    match observeElement expected selector answer check with
    | .error failure => failure.Names selector
    | .ok seen => Mentions seen.summary selector := by
  cases check with
  | count number =>
    cases hseen : answer.asNat? with
    | none =>
      rw [observeElement, hseen]
      exact .engine (by simp [String.append_assoc])
    | some seen =>
      rw [observeElement, hseen]
      simp only [String.append_assoc]
      exact .behind _ (.behind _ (.behind _ (.second _ _ _)))
  | value value =>
    rcases found_cases selector answer with hfound | hfound
    · rw [observeElement, hfound]
      exact .elementNotFound selector
    · rw [observeElement, hfound]
      cases answer with
      | str seen =>
        show Mentions _ selector
        simp [String.append_assoc]
      | _ => exact .notAnInput selector
  | text text =>
    rcases found_cases selector answer with hfound | hfound
    · rw [observeElement, hfound]
      exact .elementNotFound selector
    · rw [observeElement, hfound]
      show Mentions _ selector
      simp [String.append_assoc]
  | hasClass _ | visible | checked =>
    rcases yesOrNo_cases selector answer with hyes | ⟨yes, hyes⟩
    · rw [observeElement, hyes]
      exact .elementNotFound selector
    · rw [observeElement, hyes]
      show Mentions _ selector
      simp [String.append_assoc]

theorem Check.verdict_names {expected : Bool} {check : ElementCheck}
    (h : (Check.mk expected (.element selector check)).verdict answer = .error failure) :
    failure.Names selector := by
  have hnames : match observe ⟨expected, .element selector check⟩ answer with
      | .error failure => failure.Names selector
      | .ok seen => Mentions seen.summary selector :=
    observeElement_names expected selector answer check
  rw [verdict] at h
  cases hobserved : observe ⟨expected, .element selector check⟩ answer with
  | error rejected =>
    rw [hobserved] at h hnames
    cases h
    exact hnames
  | ok seen =>
    rw [hobserved] at h hnames
    change (if seen.holds = expected then _ else _) = _ at h
    split at h
    · cases h
    · cases h
      exact .mismatch rfl hnames

end Verdicts

/-- Something was asked of the outside and refused. -/
def Entry.isRefusal : Entry σ → Bool
  | .launched _ succeeded | .createdPage succeeded | .exited succeeded | .called _ succeeded
  | .slept _ succeeded => !succeeded
  | .began _ _ | .logged _ => false

/-- Everything that the outside has refused. -/
def World.refusals (w : World σ) : List (Entry σ) := w.told (Option.guard Entry.isRefusal)

/-- Nothing is refused in a run that succeeds; and if nothing is refused in one that fails, its
failure satisfies `P`. -/
structure Run.Accounts (P : Failure → Prop) (run : Run (World σ) α) : Prop where
  ok {w w₁ : World σ} {a : α} : run.run w = .ok a w₁ → w₁.refusals = w.refusals
  failed {w w₁ : World σ} {failure : Failure} :
    run.run w = .error (.failed failure) w₁ → w₁.refusals = w.refusals → P failure

namespace Run.Accounts

variable {P : Failure → Prop} {run : Run (World σ) α}

theorem pure (a : α) : Accounts P (Pure.pure a : Run (World σ) α) := by
  refine ⟨fun h => ?_, fun h => ?_⟩
  all_goals cases h
  rfl

theorem exhausted : Accounts P (MonadExcept.throw .exhausted : Run (World σ) α) :=
  ⟨nofun, nofun⟩

theorem fail {failure : Failure} (h : P failure) :
    Accounts P (Run.fail failure : Run (World σ) α) :=
  ⟨nofun, fun hrun _ => by cases hrun; exact h⟩

theorem ofExcept {verdict : Except Failure α}
    (h : ∀ failure, verdict = .error failure → P failure) :
    Accounts P (Run.ofExcept verdict : Run (World σ) α) := by
  cases verdict with
  | ok a => exact .pure a
  | error failure => exact .fail (h failure rfl)

theorem bind {next : α → Run (World σ) β} (h : run.Accounts P) (hnext : ∀ a, (next a).Accounts P) :
    (run >>= next).Accounts P := by
  refine ⟨fun {w w₁ b} hrun => ?_, fun {w w₁ failure} hrun granted => ?_⟩
  · rw [EStateM.run_bind] at hrun
    cases hfirst : run.run w with
    | ok a w' =>
      rw [hfirst] at hrun
      exact ((hnext a).ok hrun).trans (h.ok hfirst)
    | error stop w' =>
      rw [hfirst] at hrun
      cases hrun
  · rw [EStateM.run_bind] at hrun
    cases hfirst : run.run w with
    | ok a w' =>
      rw [hfirst] at hrun
      exact (hnext a).failed hrun (granted.trans (h.ok hfirst).symm)
    | error stop w' =>
      rw [hfirst] at hrun
      cases hrun
      exact h.failed hfirst granted

theorem map (f : α → β) (h : run.Accounts P) : (f <$> run).Accounts P := by
  rw [map_eq_pure_bind]
  exact h.bind fun a => .pure (f a)

/-- What is asked of the outside fails only if it is refused. -/
theorem ask {call : Host Failure σ α} {entry : Bool → Entry σ}
    (hentry : ∀ succeeded, (entry succeeded).isRefusal = !succeeded) :
    Accounts P (World.ask call entry) := by
  have htold {w w₁ : World σ} {answer : Except Stop α}
      (hrun : (World.ask call entry).run w = ending answer w₁) :
      w₁.refusals = w.refusals ++ (Option.guard Entry.isRefusal (entry answer.isOk)).toList :=
    World.told_ask (fun _ => rfl) hrun
  constructor
  · intro w w₁ a hrun
    have hgranted : Option.guard Entry.isRefusal (entry true) = none := by simp [hentry]
    rw [htold (ending_of_ok hrun), show Except.isOk _ = true from rfl, hgranted]
    exact List.append_nil _
  · intro w w₁ failure hrun granted
    have hrefused : Option.guard Entry.isRefusal (entry false) = some (entry false) := by
      simp [hentry]
    rw [htold (ending_of_error hrun), show Except.isOk _ = false from rfl, hrefused] at granted
    simp at granted

theorem read (env : Environment σ) : Accounts P env.clock.read := by
  constructor
  · intro w w₁ time hrun
    cases hrun
    rfl
  · intro w w₁ failure hrun
    cases hrun

variable {s : Setting σ}

theorem evaluate (function : String) (args : List Json) :
    Accounts P (s.evaluate function args) :=
  .ask fun _ => rfl

theorem waitUntil {condition : String} (h : P (.timeout condition s.options.waitConfig.limit))
    (function : String) (args : List Json) (holds : Json → Bool) :
    Accounts P (s.waitUntil condition function args holds) := by
  refine (read s.env).bind fun start => ?_
  induction s.budget with
  | zero => exact .exhausted
  | succ budget ih =>
    refine ((evaluate function args).map holds).bind fun seen => ?_
    cases seen with
    | true => exact .pure ()
    | false =>
      refine (read s.env).bind fun now => ?_
      by_cases late : s.options.waitConfig.limit < now.since start
      · simp only [if_pos late]
        exact .fail h
      · simp only [if_neg late]
        exact (ask fun _ => rfl).bind fun _ => ih

end Run.Accounts

/-- What is done with an element fails with a failure that names the element. -/
theorem ElementVerb.execute_accounts (s : Setting σ) (selector : String) (verb : ElementVerb) :
    (s.execute (verb.action selector)).Accounts (·.Names selector) := by
  rw [Setting.execute]
  cases verb with
  | click mode =>
    cases mode with
    | dispatch =>
      rw [action, Action.execute, Setting.click]
      exact (Run.Accounts.evaluate _ _).bind fun answer => .ofExcept fun _ => clickVerdict_names
    | mouse =>
      rw [action, Action.execute, Setting.click]
      refine (Run.Accounts.evaluate _ _).bind fun answer => ?_
      refine (Run.Accounts.ofExcept fun _ => clickPoint_names).bind fun point => ?_
      exact .ask fun _ => rfl
  | setValue value =>
    rw [action, Action.execute]
    exact (Run.Accounts.evaluate _ _).bind fun answer => .ofExcept fun _ => setValueVerdict_names
  | waitForSelector =>
    rw [action, Action.execute]
    exact .waitUntil (.timeout (by simp [String.append_assoc]) _) _ _ _
  | test expected check =>
    rw [action, Action.execute]
    exact (Run.Accounts.evaluate _ _).bind fun answer => .ofExcept fun _ => Check.verdict_names

/-- Whatever is done with an element and whatever the page answers: if nothing is refused that the
run has asked for, and the run fails all the same, then the selector stands in the wording of the
failure, and a mismatch reports it. -/
theorem failure_names_selector (s : Setting σ) (selector : String) (verb : ElementVerb)
    {w w₁ : World σ} {failure : Failure}
    (h : (s.execute (verb.action selector)).run w = .error (.failed failure) w₁)
    (granted : w₁.refusals = w.refusals) :
    (∃ front back, failure.message = front ++ selector ++ back) ∧
      ∀ report, failure = .mismatch report → report.selector = some selector := by
  have hnames := (verb.execute_accounts s selector).failed h granted
  exact ⟨hnames.mentions, hnames.reported⟩

/-- An outside that grants everything and whose page always gives the same answer. -/
def Environment.answering (answer : Json) : Environment Unit where
  launch _ := pure ()
  createPage := pure ()
  exit := pure ()
  call
    | .evaluate _ _ => pure answer
    | .navigate _ | .setViewport _ _ | .render _ | .clickAt _ _ => pure ()
  now host := (.zero, host)
  sleep _ := pure ()

/-- An input is expected to have any value but the one that it has. -/
theorem failure_names_selector_of_input :
    let s : Setting Unit := ⟨.answering (.str "on"), {}, [], 1⟩
    let selector := "input[title='a b']"
    ∃ failure w₁,
      (s.execute ((ElementVerb.test false (.value "on")).action selector)).run { host := () }
        = .error (.failed failure) w₁ ∧
      w₁.refusals = [] ∧
      failure.message = "Assertion failed: expected value of 'input[title='a b']' not to be 'on', "
        ++ "found 'on'" ∧
      (∃ front back, failure.message = front ++ selector ++ back) ∧
      ∀ report, failure = .mismatch report → report.selector = some selector := by
  intro s selector
  exact ⟨_, _, rfl, rfl, by decide, failure_names_selector s selector (.test false (.value "on"))
    (w := { host := () }) rfl rfl⟩

end PagePilot
