import PagePilot.Proofs.Assertion
import PagePilot.Proofs.Splice

/-!
# Where failures come from

If every call to the page and every sleep fails in its own ways only, the cause of a failure tells
what kind of action has failed, and it is the last one that has been begun.

## Main definitions

- `Failure.MayComeFrom` - the built-in actions that may end with a failure by themselves
- `Throws` - whatever a computation throws satisfies a predicate
- `Environment.FailsInKind` - calls to the page fail in their own ways only
- `Setting.Blames` - a failure comes from the last action that has been begun

## Main statements

- `Action.execute_throws` - how built-in actions fail by themselves
- `Setting.Executes.blames` - the failure of a queue comes from the last action that has been begun
-/

namespace PagePilot

variable {σ ε ω α β : Type}

/-- The failure is one that the built-in action may end with by itself. -/
def Failure.MayComeFrom (failure : Failure) (action : Action σ) : Prop :=
  match failure with
  | .noSelection => ∃ verb, action = .refused (.nothingSelected verb)
  | .invalidArgument _ =>
    (∃ width height, action = .refused (.emptyViewport width height))
      ∨ action = .refused .blankFunction
  | .elementNotFound _ =>
    (∃ mode selector, action = .click mode selector)
      ∨ (∃ selector value, action = .setValue selector value)
      ∨ ∃ expected selector check, action = .check ⟨expected, .element selector check⟩
        ∧ ∀ number, check ≠ .count number
  | .notAnInput _ =>
    (∃ selector value, action = .setValue selector value)
      ∨ ∃ expected selector value, action = .check ⟨expected, .element selector (.value value)⟩
  | .timeout _ _ =>
    (∃ selector, action = .waitForSelector selector)
      ∨ ∃ function args, action = .waitForFunction function args
  | .mismatch _ => ∃ assertion, action = .check assertion
  | .navigationFailed _ => ∃ location, action = .navigate location
  | .io _ => ∃ path, action = .screenshot path
  | .engine _ => True
  | .sessionClosed | .launchFailed _ | .invalidOptions _ => False

/-- The failures with which a call to the page may end by itself. -/
def PageCall.MayFailWith : PageCall → Failure → Prop
  | .navigate _, .navigationFailed _ | .render _, .io _ | _, .engine _ => True
  | _, _ => False

/-- Whatever the computation throws satisfies `P`. -/
def Throws (P : ε → Prop) (run : EStateM ε ω α) : Prop :=
  ∀ w e w₁, run.run w = .error e w₁ → P e

namespace Throws

variable {P Q : ε → Prop} {run : EStateM ε ω α}

theorem pure (a : α) : Throws P (Pure.pure a : EStateM ε ω α) := by
  intro w e w₁ h
  cases h

theorem throw {e : ε} (he : P e) : Throws P (MonadExcept.throw e : EStateM ε ω α) := by
  intro w e' w₁ h
  cases h
  exact he

theorem bind {next : α → EStateM ε ω β} (h : Throws P run) (hnext : ∀ a, Throws P (next a)) :
    Throws P (run >>= next) := by
  intro w e w₁ hrun
  rw [EStateM.run_bind] at hrun
  cases hfirst : run.run w with
  | ok a w' =>
    rw [hfirst] at hrun
    exact hnext a w' e w₁ hrun
  | error e' w' =>
    rw [hfirst] at hrun
    cases hrun
    exact h w e w₁ hfirst

theorem map (f : α → β) (h : Throws P run) : Throws P (f <$> run) := by
  rw [map_eq_pure_bind]
  exact h.bind fun a => .pure (f a)

theorem mono (h : Throws P run) (hPQ : ∀ e, P e → Q e) : Throws Q run := by
  intro w e w₁ hrun
  exact hPQ e (h w e w₁ hrun)

end Throws

/-- If the fault is a failure, it satisfies `P`. -/
def Fault.Of (P : Failure → Prop) : Fault Failure → Prop
  | .failed failure => P failure
  | .clockOverflow => True

/-- If the stop is a failure, it satisfies `P`. -/
def Stop.Of (P : Failure → Prop) : Stop → Prop
  | .failed failure => P failure
  | .clockOverflow | .exhausted => True

/-- Calls to the page and sleeps fail only in their own ways. -/
structure Environment.FailsInKind (env : Environment σ) : Prop where
  call (call : PageCall) : Throws (Fault.Of call.MayFailWith) (env.call call)
  sleep (d : Duration) : Throws (Fault.Of fun failure => ∃ detail, failure = .engine detail)
    (env.sleep d)

section Actions

variable {P : Failure → Prop} {s : Setting σ}

theorem throws_ofExcept {verdict : Except Failure α}
    (h : ∀ failure, verdict = .error failure → P failure) :
    Throws (Stop.Of P) (Run.ofExcept verdict : Run ω α) := by
  cases verdict with
  | ok a => exact .pure a
  | error failure => exact .throw (h failure rfl)

theorem throws_ask {call : Host Failure σ α} {entry : Bool → Entry σ}
    (h : Throws (Fault.Of P) call) : Throws (Stop.Of P) (World.ask call entry) := by
  rintro ⟨host, journal⟩ stop w₁ hrun
  simp only [World.ask, EStateM.run] at hrun
  split at hrun
  · cases hrun
  · next fault hosted hcall =>
    cases hrun
    have hfault := h _ _ _ hcall
    cases fault with
    | failed failure => exact hfault
    | clockOverflow => trivial

theorem mayComeFrom_of_engine {failure : Failure} (h : ∃ detail, failure = .engine detail)
    (action : Action σ) : failure.MayComeFrom action := by
  obtain ⟨detail, rfl⟩ := h
  trivial

/-- A call that is neither a navigation nor a picture fails as any action may. -/
theorem throws_doCall (h : s.env.FailsInKind) {call : PageCall} (action : Action σ)
    (hcall : ∀ failure, call.MayFailWith failure → failure.MayComeFrom action) :
    Throws (Stop.Of (·.MayComeFrom action)) (s.env.doCall call) := by
  refine throws_ask ((h.call call).mono fun fault hfault => ?_)
  cases fault with
  | failed failure => exact hcall failure hfault
  | clockOverflow => trivial

theorem throws_evaluate (h : s.env.FailsInKind) (action : Action σ) (function : String)
    (args : List Json) :
    Throws (Stop.Of (·.MayComeFrom action)) (s.evaluate function args) := by
  refine throws_doCall h action fun failure hfailure => ?_
  cases failure <;> trivial

theorem throws_sleep (h : s.env.FailsInKind) (action : Action σ) (d : Duration) :
    Throws (Stop.Of (·.MayComeFrom action)) (s.env.clock.sleep d) := by
  refine throws_ask ((h.sleep d).mono fun fault hfault => ?_)
  cases fault with
  | failed failure => exact mayComeFrom_of_engine hfault action
  | clockOverflow => trivial

theorem throws_waitUntil (h : s.env.FailsInKind) {action : Action σ}
    (htimeout : ∀ condition limit, (Failure.timeout condition limit).MayComeFrom action)
    (condition function : String) (args : List Json) (holds : Json → Bool) :
    Throws (Stop.Of (·.MayComeFrom action)) (s.waitUntil condition function args holds) := by
  have hread : Throws (Stop.Of (·.MayComeFrom action)) s.env.clock.read := by
    intro w stop w₁ hrun
    cases hrun
  have hcheck := (throws_evaluate h action function args).map holds
  refine hread.bind fun start => ?_
  induction s.budget with
  | zero => exact .throw trivial
  | succ budget ih =>
    refine hcheck.bind fun seen => ?_
    cases seen with
    | true => exact .pure ()
    | false =>
      refine hread.bind fun now => ?_
      by_cases late : s.options.waitConfig.limit < now.since start
      · simp only [if_pos late]
        exact .throw (htimeout condition s.options.waitConfig.limit)
      · simp only [if_neg late]
        exact (throws_sleep h action _).bind fun _ => ih

theorem clickPoint_mayComeFrom {selector : String} {answer : Json} {failure : Failure}
    (h : clickPoint selector answer = .error failure) :
    failure.MayComeFrom (.click .mouse selector : Action σ) := by
  rw [clickPoint] at h
  split at h
  · cases h
    exact .inl ⟨_, _, rfl⟩
  · split at h
    · cases h
    · cases h
      trivial

theorem setValueVerdict_mayComeFrom {selector value : String} {answer : Json} {failure : Failure}
    (h : setValueVerdict selector answer = .error failure) :
    failure.MayComeFrom (.setValue selector value : Action σ) := by
  rw [setValueVerdict] at h
  split at h
  · cases h
  · cases h
    exact .inl ⟨_, _, rfl⟩
  · cases h
    exact .inr (.inl ⟨_, _, rfl⟩)
  · cases h
    trivial

/-- What an answer about elements is rejected for. -/
theorem observeElement_mayComeFrom {expected : Bool} {selector : String} {answer : Json}
    {check : ElementCheck} {failure : Failure}
    (h : Check.observeElement expected selector answer check = .error failure) :
    failure.MayComeFrom (.check ⟨expected, .element selector check⟩ : Action σ) := by
  have hmissing (hcount : ∀ number, check ≠ .count number) :
      (Failure.elementNotFound selector).MayComeFrom
        (.check ⟨expected, .element selector check⟩ : Action σ) :=
    .inr (.inr ⟨_, _, _, rfl, hcount⟩)
  cases check with
  | count number =>
    rw [Check.observeElement] at h
    split at h
    · cases h
      trivial
    · cases h
  | value value =>
    rcases Check.found_cases selector answer with hfound | hfound
    · rw [Check.observeElement, hfound] at h
      cases h
      exact hmissing fun number => by simp
    · rw [Check.observeElement, hfound] at h
      cases answer with
      | str seen => cases h
      | _ =>
        cases h
        exact .inr ⟨_, _, _, rfl⟩
  | text text =>
    rcases Check.found_cases selector answer with hfound | hfound
    · rw [Check.observeElement, hfound] at h
      cases h
      exact hmissing fun number => by simp
    · rw [Check.observeElement, hfound] at h
      cases h
  | hasClass _ | visible | checked =>
    rcases Check.yesOrNo_cases selector answer with hyes | ⟨yes, hyes⟩
    · rw [Check.observeElement, hyes] at h
      cases h
      exact hmissing fun number => by simp
    · rw [Check.observeElement, hyes] at h
      cases h

theorem verdict_mayComeFrom {c : Check} {answer : Json} {failure : Failure}
    (h : c.verdict answer = .error failure) : failure.MayComeFrom (.check c : Action σ) := by
  rw [Check.verdict] at h
  cases hobserve : c.observe answer with
  | error rejected =>
    rw [hobserve] at h
    cases h
    obtain ⟨expected, subject⟩ := c
    cases subject with
    | element selector check => exact observeElement_mayComeFrom hobserve
    | function source args => cases hobserve
  | ok seen =>
    rw [hobserve] at h
    change (if seen.holds = c.expected then _ else _) = _ at h
    split at h
    · cases h
    · cases h
      exact ⟨c, rfl⟩

/-- A built-in action that opens no location fails in its own ways only. -/
theorem Action.execute_throws (h : s.env.FailsInKind) (navigate : String → Run (World σ) Unit) :
    ∀ action : Action σ, (∀ location, action ≠ .navigate location) →
      (∀ name line body, action ≠ .custom name line body) →
      Throws (Stop.Of (·.MayComeFrom action)) (action.execute s navigate)
  | .click .dispatch selector, _, _ => by
    rw [Action.execute, Setting.click]
    refine (throws_evaluate h _ _ _).bind fun answer => throws_ofExcept fun failure hfailure => ?_
    rw [clickVerdict.eq_def] at hfailure
    split at hfailure
    · cases hfailure
    · cases hfailure
      exact .inl ⟨_, _, rfl⟩
  | .click .mouse selector, _, _ => by
    rw [Action.execute, Setting.click]
    refine (throws_evaluate h _ _ _).bind fun answer => ?_
    refine (throws_ofExcept fun failure hfailure => clickPoint_mayComeFrom hfailure).bind ?_
    refine fun point => throws_doCall h _ fun failure hfailure => ?_
    cases failure <;> trivial
  | .setValue selector value, _, _ => by
    rw [Action.execute]
    exact (throws_evaluate h _ _ _).bind fun answer =>
      throws_ofExcept fun failure hfailure => setValueVerdict_mayComeFrom hfailure
  | .navigate location, hnavigate, _ => absurd rfl (hnavigate location)
  | .viewport width height, _, _ => by
    rw [Action.execute]
    refine throws_doCall h _ fun failure hfailure => ?_
    cases failure <;> trivial
  | .screenshot path, _, _ => by
    rw [Action.execute]
    refine throws_doCall h _ fun failure hfailure => ?_
    cases failure <;> first | trivial | exact ⟨path, rfl⟩
  | .delay duration, _, _ => by
    rw [Action.execute]
    exact throws_sleep h _ duration
  | .waitForSelector selector, _, _ => by
    rw [Action.execute]
    exact throws_waitUntil h (fun _ _ => .inl ⟨_, rfl⟩) _ _ _ _
  | .waitForFunction function args, _, _ => by
    rw [Action.execute]
    exact throws_waitUntil h (fun _ _ => .inr ⟨_, _, rfl⟩) _ _ _ _
  | .eval function args receive, _, _ => by
    rw [Action.execute]
    refine (throws_evaluate h _ _ _).bind fun answer => ?_
    cases receive with
    | none => exact .pure ()
    | some receive =>
      intro w stop w₁ hrun
      cases hrun
  | .check assertion, _, _ => by
    rw [Action.execute]
    exact (throws_evaluate h _ _ _).bind fun answer =>
      throws_ofExcept fun failure hfailure => verdict_mayComeFrom hfailure
  | .refused refusal, _, _ => by
    rw [Action.execute]
    refine .throw ?_
    cases refusal with
    | nothingSelected verb => exact ⟨verb, rfl⟩
    | emptyViewport width height => exact .inl ⟨width, height, rfl⟩
    | blankFunction => exact .inr rfl
  | .custom name line body, _, hcustom => absurd rfl (hcustom name line body)

end Actions

section Blame

variable {s : Setting σ}

/-- The run ends somehow and begins some registered actions. If it fails, the last of them has
failed, or the action that is being executed if there are none. -/
def Setting.Blames (s : Setting σ) (current : Action σ) (run : Run (World σ) Unit) : Prop :=
  ∀ w, ∃ answer w₁ later, run.run w = Run.ending answer w₁ ∧ w₁.begun = w.begun ++ later ∧
    (∀ action ∈ later, action ∈ s.afterOpen) ∧
    ∀ failure, answer = .error (.failed failure) →
      failure.MayComeFrom (later.getLast?.getD current)

namespace Setting

/-- A run that begins no other action. -/
theorem blames_of_staying {current : Action σ} {run : Run (World σ) Unit}
    (hthrows : Throws (Stop.Of (·.MayComeFrom current)) run)
    (happends : run.Appends fun entry => entry.begun? = none) : s.Blames current run := by
  intro w
  obtain ⟨answer, w₁, hrun⟩ := run.exists_ending w
  obtain ⟨added, hadded, hjournal⟩ := happends.exists_added hrun
  refine ⟨answer, w₁, [], hrun, ?_, fun _ hmem => absurd hmem List.not_mem_nil, ?_⟩
  · rw [List.append_nil]
    exact World.told_eq_of_added hjournal hadded
  · rintro failure rfl
    exact hthrows w _ w₁ hrun

/-- What fails behind a run is blamed on what has been begun last by then. -/
theorem Blames.bind {current : Action σ} {run next : Run (World σ) Unit}
    (h : s.Blames current run) (hnext : ∀ current, s.Blames current next) :
    s.Blames current (run >>= fun _ => next) := by
  intro w
  obtain ⟨answer, w₁, later, hrun, hbegun, hlater, hblame⟩ := h w
  cases answer with
  | error stop => exact ⟨.error stop, w₁, later, Run.run_bind_of_error hrun, hbegun, hlater, hblame⟩
  | ok a =>
    obtain ⟨answer, w₂, more, hrun', hbegun', hmore, hblame'⟩ :=
      hnext (later.getLast?.getD current) w₁
    refine ⟨answer, w₂, later ++ more, (Run.run_bind_of_ok hrun).trans hrun', ?_,
      List.forall_mem_append.mpr ⟨hlater, hmore⟩, fun failure hfailure => ?_⟩
    · rw [hbegun', hbegun, List.append_assoc]
    · rw [List.getLast?_append, Option.getD_or]
      exact hblame' failure hfailure

/-- A registered action that is begun and executed. -/
theorem Blames.traced {hook : Action σ} {run : Run (World σ) Unit} (h : s.Blames hook run)
    (hmem : hook ∈ s.afterOpen) (current : Action σ) :
    s.Blames current (s.trace .afterOpen hook >>= fun _ => run) := by
  intro w
  have hbegin : (w.begin s.options.debug .afterOpen hook).begun = w.begun ++ [hook] :=
    World.told_begin (fun _ => rfl) _ _ _ _
  obtain ⟨answer, w₁, later, hrun, hbegun, hlater, hblame⟩ :=
    h (w.begin s.options.debug .afterOpen hook)
  rw [hbegin, List.append_assoc, List.singleton_append] at hbegun
  refine ⟨answer, w₁, hook :: later, ?_, hbegun, List.forall_mem_cons.mpr ⟨hmem, hlater⟩,
    fun failure hfailure => ?_⟩
  · rw [Run.run_bind_of_ok (s.run_trace .afterOpen hook w), hrun]
  · rw [List.getLast?_cons]
    exact hblame failure hfailure

/-- Registered actions that are executed one after the other. -/
theorem blames_followUp {execute : Action σ → Run (World σ) Unit} {hooks : List (Action σ)}
    (hhooks : ∀ action ∈ hooks, action ∈ s.afterOpen)
    (h : ∀ action ∈ hooks, s.Blames action (execute action)) (current : Action σ) :
    s.Blames current (s.followUp execute hooks) := by
  induction hooks generalizing current with
  | nil =>
    intro w
    refine ⟨.ok (), w, [], rfl, (List.append_nil _).symm,
      fun _ hmem => absurd hmem List.not_mem_nil, fun failure hfailure => ?_⟩
    cases hfailure
  | cons hook rest ih =>
    obtain ⟨hhook, hrest⟩ := List.forall_mem_cons.mp h
    obtain ⟨hmem, hmems⟩ := List.forall_mem_cons.mp hhooks
    have hboth := (hhook.traced hmem current).bind (ih hmems hrest)
    rw [bind_assoc] at hboth
    exact hboth

variable (h : s.env.FailsInKind)

include h

/-- A built-in action is to blame for its failure, or the registered action that has been begun last
after a navigation. -/
theorem blames_execute_of_navigate {navigate : String → Run (World σ) Unit}
    (hnavigate : ∀ location, s.Blames (.navigate location) (navigate location)) {action : Action σ}
    (hcustom : ∀ name line body, action ≠ .custom name line body) :
    s.Blames action (action.execute s navigate) := by
  by_cases hopens : ∃ location, action = .navigate location
  · obtain ⟨location, rfl⟩ := hopens
    rw [Action.execute]
    exact hnavigate location
  · have hstays (location : String) (heq : action = .navigate location) := hopens ⟨location, heq⟩
    refine blames_of_staying (action.execute_throws h navigate hstays hcustom) ?_
    have hadmits : Entry.Admits (fun entry : Entry σ => entry.begun? = none) Licence.staying :=
      ⟨fun _ _ _ => rfl, fun _ _ => rfl, fun _ => rfl⟩
    exact hadmits.execute_appends (fun _ habsurd => habsurd.elim)
      (Action.within_staying hstays hcustom)

variable (hhooks : ∀ action ∈ s.afterOpen, ∀ name line body, action ≠ .custom name line body)

include hhooks

theorem blames_navigate (rounds : Nat) (location : String) :
    s.Blames (.navigate location) (s.navigate rounds location) := by
  induction rounds generalizing location with
  | zero =>
    intro w
    refine ⟨.error .exhausted, w, [], rfl, (List.append_nil _).symm,
      fun _ hmem => absurd hmem List.not_mem_nil, fun failure hfailure => ?_⟩
    cases hfailure
  | succ rounds ih =>
    have hvisit : s.Blames (.navigate location)
        (s.env.doCall (.navigate (joinUrl s.options.baseUrl location))) := by
      refine blames_of_staying (throws_doCall h _ fun failure hfailure => ?_)
        (World.ask_appends (fun _ => rfl) fun _ => rfl)
      cases failure <;> first | trivial | exact ⟨location, rfl⟩
    exact hvisit.bind (blames_followUp (fun _ hmem => hmem) fun action hmem =>
      blames_execute_of_navigate h ih (hhooks action hmem))

theorem blames_execute {action : Action σ}
    (hcustom : ∀ name line body, action ≠ .custom name line body) :
    s.Blames action (s.execute action) :=
  blames_execute_of_navigate h (blames_navigate h hhooks s.budget) hcustom

/-- A failure of a queue comes from the last action that has been begun. -/
theorem Executes.blames {w w' : World σ} {executed skipped : List (Action σ)}
    {answer : Except Stop Unit} (executes : s.Executes w executed skipped answer w')
    (hcustom : ∀ action ∈ executed, ∀ name line body, action ≠ .custom name line body) :
    ∃ begun, w'.begun = w.begun ++ begun ∧
      (∀ action ∈ begun, action ∈ executed ∨ action ∈ s.afterOpen) ∧
      ∀ failure, answer = .error (.failed failure) →
        ∃ earlier last, begun = earlier ++ [last] ∧ failure.MayComeFrom last := by
  have hbegin (action : Action σ) (w : World σ) :
      (w.begin s.options.debug .main action).begun = w.begun ++ [action] :=
    World.told_begin (fun _ => rfl) _ _ _ _
  induction executes with
  | done =>
    refine ⟨[], (List.append_nil _).symm, fun _ hmem => absurd hmem List.not_mem_nil, ?_⟩
    intro failure hfailure
    cases hfailure
  | @next w w₁ w₂ action executed skipped answer succeeds rest ih =>
    obtain ⟨hfirst, hrest⟩ := List.forall_mem_cons.mp hcustom
    obtain ⟨answer', w₁', later, hrun, hbegun, hlater, -⟩ := blames_execute h hhooks hfirst
      (w.begin s.options.debug .main action)
    obtain ⟨-, rfl⟩ := Run.ending_inj (hrun.symm.trans
      (show _ = Run.ending (.ok ()) w₁ from succeeds))
    obtain ⟨begun, hbegun', hmem, hblame⟩ := ih hrest
    refine ⟨action :: later ++ begun, ?_, fun other hother => ?_, fun failure hfailure => ?_⟩
    · rw [hbegun', hbegun, hbegin]
      simp
    · rcases List.mem_append.mp hother with hearly | hlate
      · rcases List.mem_cons.mp hearly with rfl | hhook
        · exact .inl List.mem_cons_self
        · exact .inr (hlater other hhook)
      · exact (hmem other hlate).imp_left (List.mem_cons_of_mem action)
    · obtain ⟨earlier, last, rfl, hlast⟩ := hblame failure hfailure
      exact ⟨action :: later ++ earlier, last, (List.append_assoc _ _ _).symm, hlast⟩
  | @stopped w w₁ action skipped stop stops =>
    obtain ⟨answer', w₁', later, hrun, hbegun, hlater, hblame⟩ := blames_execute h hhooks
      (hcustom action List.mem_cons_self) (w.begin s.options.debug .main action)
    obtain ⟨rfl, rfl⟩ := Run.ending_inj (hrun.symm.trans
      (show _ = Run.ending (.error stop) w₁ from stops))
    refine ⟨action :: later, ?_, fun other hother => ?_, fun failure hfailure => ?_⟩
    · refine (told_afterStop (fun _ => rfl) _ _ _ _).trans ?_
      rw [← World.begun, hbegun, hbegin]
      simp
    · rcases List.mem_cons.mp hother with rfl | hhook
      · exact .inl List.mem_cons_self
      · exact .inr (hlater other hhook)
    · obtain ⟨earlier, hlast⟩ := List.getLast?_eq_some_iff.mp (List.getLast?_cons (a := action))
      exact ⟨earlier, later.getLast?.getD action, hlast, hblame failure hfailure⟩

end Setting

end Blame

end PagePilot
