import PagePilot.Proofs.Execution

/-!
# Runs from hosts that look the same

Parts of the outside may be of no concern to the page, the clock and the actions of a session: how
often the browser has been launched in vain, for one. From two hosts that differ in such parts only,
a run ends in the same way, notes the same, and leaves two hosts that differ in such parts only.

## Main definitions

- `Host.Keeps`, `Aside.Keeps`, `Run.Keeps` - calls, code and runs to which two hosts that look the
  same are the same
- `Action.Keeps`, `Routine.Keeps` - actions that neither see nor change what is not seen
- `Environment.Keeps` - page and clock do not see it either
- `Having` - hosts with a property, each of which looks the same as itself only

## Main statements

- `Setting.executeAll_keeps` - the execution of a queue does not depend on what is not seen
- `Setting.Executes.invariant` - what page, clock and actions keep is kept by a queue
-/

namespace PagePilot

variable {σ α β : Type} {same : σ → σ → Prop}

/-- Two results of a call that only differ in hosts that look the same. -/
inductive Host.Same (same : σ → σ → Prop) :
    EStateM.Result (Fault Failure) (Hosted σ) α → EStateM.Result (Fault Failure) (Hosted σ) α → Prop
  | ok {host host' : σ} (a : α) (records : List LogRecord) (h : same host host') :
      Same same (.ok a ⟨host, records⟩) (.ok a ⟨host', records⟩)
  | error {host host' : σ} (fault : Fault Failure) (records : List LogRecord)
      (h : same host host') :
      Same same (.error fault ⟨host, records⟩) (.error fault ⟨host', records⟩)

/-- The call does the same to hosts that look the same. -/
def Host.Keeps (same : σ → σ → Prop) (call : Host Failure σ α) : Prop :=
  ∀ host host', same host host' →
    Host.Same same (call.run { host := host }) (call.run { host := host' })

/-- The code gives and logs the same for hosts that look the same, and leaves such hosts. -/
def Aside.Keeps (same : σ → σ → Prop) (code : Aside σ α) : Prop :=
  ∀ host host', same host host' → ∃ a records after after', same after after' ∧
    code.run { host := host } = (a, ⟨after, records⟩) ∧
    code.run { host := host' } = (a, ⟨after', records⟩)

/-- Code that gives a value and does nothing else. -/
theorem Aside.Keeps.pure (a : α) : Aside.Keeps same (Pure.pure a : Aside σ α) :=
  fun host host' h => ⟨a, [], host, host', h, rfl, rfl⟩

namespace Run

/-- From hosts that look the same, the run ends in the same way, adds the same entries to the
journal and leaves hosts that look the same. -/
def Keeps (same : σ → σ → Prop) (run : Run (World σ) α) : Prop :=
  ∀ host host', same host host' → ∃ answer after after' added, same after after' ∧
    (∀ journal, run.run ⟨host, journal⟩ = ending answer ⟨after, journal ++ added⟩) ∧
    ∀ journal, run.run ⟨host', journal⟩ = ending answer ⟨after', journal ++ added⟩

namespace Keeps

variable {run : Run (World σ) α}

theorem pure (a : α) : Keeps same (Pure.pure a : Run (World σ) α) := by
  intro host host' h
  refine ⟨.ok a, host, host', #[], h, ?_, ?_⟩
  all_goals
    intro journal
    rw [Array.append_empty]
    rfl

theorem throw (stop : Stop) : Keeps same (MonadExcept.throw stop : Run (World σ) α) := by
  intro host host' h
  refine ⟨.error stop, host, host', #[], h, ?_, ?_⟩
  all_goals
    intro journal
    rw [Array.append_empty]
    rfl

theorem bind {next : α → Run (World σ) β} (h : run.Keeps same)
    (hnext : ∀ a, (next a).Keeps same) : (run >>= next).Keeps same := by
  intro host host' hsame
  obtain ⟨answer, host₁, host₁', added₁, hsame₁, hends, hends'⟩ := h host host' hsame
  cases answer with
  | error stop =>
    exact ⟨.error stop, host₁, host₁', added₁, hsame₁,
      fun journal => run_bind_of_error (hends journal),
      fun journal => run_bind_of_error (hends' journal)⟩
  | ok a =>
    obtain ⟨answer, host₂, host₂', added₂, hsame₂, hmore, hmore'⟩ := hnext a host₁ host₁' hsame₁
    refine ⟨answer, host₂, host₂', added₁ ++ added₂, hsame₂, ?_, ?_⟩
    · intro journal
      rw [run_bind_of_ok (hends journal), hmore, Array.append_assoc]
    · intro journal
      rw [run_bind_of_ok (hends' journal), hmore', Array.append_assoc]

theorem map (f : α → β) (h : run.Keeps same) : (f <$> run).Keeps same := by
  rw [map_eq_pure_bind]
  exact h.bind fun a => .pure (f a)

theorem ofExcept (verdict : Except Failure α) :
    (Run.ofExcept verdict : Run (World σ) α).Keeps same := by
  cases verdict with
  | ok a => exact .pure a
  | error failure => exact .throw (.failed failure)

theorem attempt (h : run.Keeps same) : run.attempt.Keeps same := by
  intro host host' hsame
  obtain ⟨answer, after, after', added, hsame', hends, hends'⟩ := h host host' hsame
  match answer, hends, hends' with
  | .ok a, hends, hends' =>
    exact ⟨.ok (.ok a), after, after', added, hsame',
      fun journal => run_attempt_of_ok (hends journal),
      fun journal => run_attempt_of_ok (hends' journal)⟩
  | .error (.failed failure), hends, hends' =>
    exact ⟨.ok (.error failure), after, after', added, hsame',
      fun journal => run_attempt_of_failed (hends journal),
      fun journal => run_attempt_of_failed (hends' journal)⟩
  | .error .clockOverflow, hends, hends' =>
    exact ⟨.error .clockOverflow, after, after', added, hsame',
      fun journal => run_attempt_of_stop (hends journal) (by simp),
      fun journal => run_attempt_of_stop (hends' journal) (by simp)⟩
  | .error .exhausted, hends, hends' =>
    exact ⟨.error .exhausted, after, after', added, hsame',
      fun journal => run_attempt_of_stop (hends journal) (by simp),
      fun journal => run_attempt_of_stop (hends' journal) (by simp)⟩

/-- A change of the world that does the same to hosts that look the same. -/
theorem of_change {change : World σ → World σ} (f : σ → σ) (added : σ → Array (Entry σ))
    (hf : ∀ host host', same host host' → same (f host) (f host') ∧ added host' = added host)
    (hchange : ∀ w, change w = ⟨f w.host, w.journal ++ added w.host⟩) :
    Keeps same (modify change : Run (World σ) Unit) := by
  intro host host' hsame
  obtain ⟨hafter, hadded⟩ := hf host host' hsame
  refine ⟨.ok (), f host, f host', added host, hafter, fun journal => ?_, fun journal => ?_⟩
  · rw [EStateM.run_modify, hchange]
    rfl
  · rw [EStateM.run_modify, hchange, hadded]
    rfl

theorem aside {code : Aside σ α} (h : code.Keeps same) : (World.aside code).Keeps same := by
  intro host host' hsame
  obtain ⟨a, records, after, after', hafter, hrun, hrun'⟩ := h host host' hsame
  refine ⟨.ok a, after, after', (records.map Entry.logged).toArray, hafter, fun journal => ?_,
    fun journal => ?_⟩
  · simp only [World.aside, World.runAside, EStateM.run, hrun]
    rfl
  · simp only [World.aside, World.runAside, EStateM.run, hrun']
    rfl

theorem update {change : σ → σ} (h : ∀ host host', same host host' →
    same (change host) (change host')) : (World.update change).Keeps same :=
  of_change change (fun _ => #[]) (fun host host' hsame => ⟨h host host' hsame, rfl⟩)
    fun w => by rw [Array.append_empty]

/-- What comes after a look at the outside must be the same for hosts that look the same. -/
theorem observe {next : σ → Run (World σ) β}
    (hnext : ∀ host host', same host host' → next host = next host')
    (h : ∀ host, (next host).Keeps same) : (World.observe >>= next).Keeps same := by
  intro host host' hsame
  obtain ⟨answer, after, after', added, hsame', hends, hends'⟩ := h host host host' hsame
  refine ⟨answer, after, after', added, hsame', fun journal => hends journal, fun journal => ?_⟩
  have hlook : (World.observe >>= next).run ⟨host', journal⟩ = (next host').run ⟨host', journal⟩ :=
    rfl
  rw [hlook, ← hnext host host' hsame]
  exact hends' journal

theorem ask {call : Host Failure σ α} (h : Host.Keeps same call) (entry : Bool → Entry σ) :
    (World.ask call entry).Keeps same := by
  intro host host' hsame
  have hcall := h host host' hsame
  -- the calls are the same from either host, and so is what they have logged
  generalize hresult : call.run { host := host } = result at hcall
  generalize hresult' : call.run { host := host' } = result' at hcall
  cases hcall with
  | @ok after after' a records hafter =>
    exact ⟨.ok a, after, after', (records.map Entry.logged).toArray.push (entry true), hafter,
      World.ask_of_ok hresult entry, World.ask_of_ok hresult' entry⟩
  | @error after after' fault records hafter =>
    exact ⟨.error (.ofFault fault), after, after',
      (records.map Entry.logged).toArray.push (entry false), hafter,
      World.ask_of_error hresult entry, World.ask_of_error hresult' entry⟩

end Keeps

end Run

/-- Page and clock do the same to hosts that look the same. -/
structure Environment.Keeps (env : Environment σ) (same : σ → σ → Prop) : Prop where
  call (call : PageCall) : Host.Keeps same (env.call call)
  now (host host' : σ) : same host host' →
    (env.now host).1 = (env.now host').1 ∧ same (env.now host).2 (env.now host').2
  sleep (d : Duration) : Host.Keeps same (env.sleep d)

/-- The line is the same for hosts that look the same. -/
def Line.Keeps (same : σ → σ → Prop) : Line σ → Prop
  | .text _ => True
  | .code tell => tell.Keeps same

mutual

/-- The action does the same to hosts that look the same: only what its creator has put into it
could do otherwise. -/
def Action.Keeps (same : σ → σ → Prop) : Action σ → Prop
  | .eval _ _ (some receive) => ∀ answer, (receive answer).Keeps same
  | .custom _ line body => line.Keeps same ∧ body.Keeps same
  | .click _ _ | .setValue _ _ | .navigate _ | .viewport _ _ | .screenshot _ | .delay _
  | .waitForSelector _ | .waitForFunction _ _ | .eval _ _ none | .check _ | .refused _ => True

/-- The routine does the same to hosts that look the same. -/
def Routine.Keeps (same : σ → σ → Prop) : Routine σ → Prop
  | .done | .fail _ => True
  | .call _ next => ∀ answer, (next answer).Keeps same
  | .perform action next => action.Keeps same ∧ ∀ result, (next result).Keeps same
  | .options next => ∀ options, (next options).Keeps same
  | .now next => ∀ time, (next time).Keeps same
  | .sleep _ next => next.Keeps same
  | .observe next => (∀ host host', same host host' → next host = next host') ∧
      ∀ host, (next host).Keeps same
  | .update change next => (∀ host host', same host host' → same (change host) (change host')) ∧
      next.Keeps same
  | .log _ next => next.Keeps same

end

theorem Action.Keeps.tell {action : Action σ} (h : action.Keeps same) : action.tell.Keeps same := by
  cases action with
  | custom name line body =>
    cases line with
    | text text => exact .pure text
    | code tell => exact h.1
  | _ => exact .pure _

/-- A line about an action is the same for hosts that look the same, and leaves such hosts. -/
theorem World.lines_same {action : Action σ} (h : action.Keeps same) (on : Bool)
    (text : String → String) (host host' : σ) (hsame : same host host') :
    same (lineHost on action host) (lineHost on action host') ∧
      lineEntries on action text host' = lineEntries on action text host := by
  cases on with
  | false => exact ⟨hsame, rfl⟩
  | true =>
    obtain ⟨line, records, after, after', hafter, hrun, hrun'⟩ := h.tell host host' hsame
    simp only [lineHost, lineEntries, Action.afterLine, Action.asides, Action.line, hrun, hrun',
      if_true, and_true]
    exact hafter

namespace Environment.Keeps

variable {env : Environment σ} (h : env.Keeps same)

include h

theorem doCall (call : PageCall) : (env.doCall call).Keeps same := .ask (h.call call) _

theorem doSleep (d : Duration) : (env.clock.sleep d).Keeps same := .ask (h.sleep d) _

theorem read : env.clock.read.Keeps same := by
  intro host host' hsame
  obtain ⟨htime, hafter⟩ := h.now host host' hsame
  refine ⟨.ok (env.now host).1, _, _, #[], hafter, fun journal => ?_, fun journal => ?_⟩
  · rw [Array.append_empty]
    rfl
  · rw [Array.append_empty, htime]
    rfl

theorem pollUntil (config : WaitConfig) (condition : String) {check : Run (World σ) Bool}
    (hcheck : check.Keeps same) (budget : Nat) :
    (PagePilot.pollUntil env.clock config condition check budget).Keeps same := by
  refine h.read.bind fun start => ?_
  -- only the loop behind the first reading of the clock uses up the budget
  induction budget with
  | zero => exact .throw .exhausted
  | succ budget ih =>
    refine hcheck.bind fun holds => ?_
    cases holds with
    | true => exact .pure ()
    | false =>
      refine h.read.bind fun now => ?_
      by_cases late : config.limit < now.since start
      · simp only [if_pos late]
        exact .throw _
      · simp only [if_neg late]
        exact (h.doSleep config.interval).bind fun _ => ih

end Environment.Keeps

section Execution

variable {s : Setting σ} {navigate : String → Run (World σ) Unit}

theorem Setting.waitUntil_keeps (h : s.env.Keeps same) (condition function : String)
    (args : List Json) (holds : Json → Bool) :
    (s.waitUntil condition function args holds).Keeps same :=
  h.pollUntil _ _ ((h.doCall (.evaluate function args)).map holds) _

mutual

theorem Action.execute_keeps (h : s.env.Keeps same)
    (hnavigate : ∀ location, (navigate location).Keeps same) :
    ∀ action : Action σ, action.Keeps same → (action.execute s navigate).Keeps same
  | .click .dispatch selector, _ => by
    rw [Action.execute]
    exact (h.doCall _).bind fun answer => .ofExcept _
  | .click .mouse selector, _ => by
    rw [Action.execute]
    refine (h.doCall _).bind fun answer => ?_
    exact (Run.Keeps.ofExcept _).bind fun point => h.doCall _
  | .setValue selector value, _ => by
    rw [Action.execute]
    exact (h.doCall _).bind fun answer => .ofExcept _
  | .navigate location, _ => by
    rw [Action.execute]
    exact hnavigate location
  | .viewport width height, _ => by
    rw [Action.execute]
    exact h.doCall _
  | .screenshot path, _ => by
    rw [Action.execute]
    exact h.doCall _
  | .delay duration, _ => by
    rw [Action.execute]
    exact h.doSleep duration
  | .waitForSelector selector, _ => by
    rw [Action.execute]
    exact Setting.waitUntil_keeps h _ _ _ _
  | .waitForFunction function args, _ => by
    rw [Action.execute]
    exact Setting.waitUntil_keeps h _ _ _ _
  | .eval function args none, _ => by
    rw [Action.execute]
    exact (h.doCall _).bind fun answer => .pure ()
  | .eval function args (some receive), keeps => by
    rw [Action.execute]
    exact (h.doCall _).bind fun answer => .aside (keeps answer)
  | .check assertion, _ => by
    rw [Action.execute]
    exact (h.doCall _).bind fun answer => .ofExcept _
  | .refused refusal, _ => by
    rw [Action.execute]
    exact .throw _
  | .custom _ _ body, keeps => by
    rw [Action.execute]
    exact body.execute_keeps h hnavigate keeps.2

theorem Routine.execute_keeps (h : s.env.Keeps same)
    (hnavigate : ∀ location, (navigate location).Keeps same) :
    ∀ routine : Routine σ, routine.Keeps same → (routine.execute s navigate).Keeps same
  | .done, _ => by
    rw [Routine.execute]
    exact .pure ()
  | .fail failure, _ => by
    rw [Routine.execute]
    exact .throw _
  | .call call next, keeps => by
    rw [Routine.execute]
    exact (h.doCall call).attempt.bind fun answer =>
      (next answer).execute_keeps h hnavigate (keeps answer)
  | .perform action next, keeps => by
    rw [Routine.execute]
    exact (action.execute_keeps h hnavigate keeps.1).attempt.bind fun result =>
      (next result).execute_keeps h hnavigate (keeps.2 result)
  | .options next, keeps => by
    rw [Routine.execute]
    exact (next s.options).execute_keeps h hnavigate (keeps s.options)
  | .now next, keeps => by
    rw [Routine.execute]
    exact h.read.bind fun time => (next time).execute_keeps h hnavigate (keeps time)
  | .sleep duration next, keeps => by
    rw [Routine.execute]
    exact (h.doSleep duration).bind fun _ => next.execute_keeps h hnavigate keeps
  | .observe next, keeps => by
    rw [Routine.execute]
    refine .observe (fun host host' hsame => ?_) fun host =>
      (next host).execute_keeps h hnavigate (keeps.2 host)
    rw [keeps.1 host host' hsame]
  | .update change next, keeps => by
    rw [Routine.execute]
    exact (Run.Keeps.update keeps.1).bind fun _ => next.execute_keeps h hnavigate keeps.2
  | .log record next, keeps => by
    rw [Routine.execute]
    refine .bind (.aside fun host host' hsame => ?_) fun _ => next.execute_keeps h hnavigate keeps
    exact ⟨(), [record], host, host', hsame, rfl, rfl⟩

end

namespace Setting

variable (s)

theorem trace_keeps (role : Role) {action : Action σ} (keeps : action.Keeps same) :
    (s.trace role action).Keeps same := by
  refine .of_change (World.lineHost s.options.debug action)
    (fun host => #[.began role action] ++ World.lineEntries s.options.debug action id host) ?_
    fun w => World.begin_eq s.options.debug role action w
  intro host host' hsame
  obtain ⟨hafter, hadded⟩ := World.lines_same keeps s.options.debug id host host' hsame
  exact ⟨hafter, congrArg (#[.began role action] ++ ·) hadded⟩

theorem followUp_keeps {execute : Action σ → Run (World σ) Unit} {actions : List (Action σ)}
    (h : ∀ action ∈ actions, action.Keeps same ∧ (execute action).Keeps same) :
    (s.followUp execute actions).Keeps same := by
  induction actions with
  | nil => exact .pure ()
  | cons action rest ih =>
    obtain ⟨⟨keeps, hfirst⟩, hrest⟩ := List.forall_mem_cons.mp h
    exact (s.trace_keeps .afterOpen keeps).bind fun _ => hfirst.bind fun _ => ih hrest

variable {s}

theorem navigate_keeps (h : s.env.Keeps same) (hhooks : ∀ action ∈ s.afterOpen, action.Keeps same)
    (rounds : Nat) (location : String) : (s.navigate rounds location).Keeps same := by
  induction rounds generalizing location with
  | zero => exact .throw .exhausted
  | succ rounds ih =>
    refine (h.doCall _).bind fun _ => s.followUp_keeps fun action hmem => ?_
    exact ⟨hhooks action hmem, action.execute_keeps h ih (hhooks action hmem)⟩

theorem execute_keeps (h : s.env.Keeps same) (hhooks : ∀ action ∈ s.afterOpen, action.Keeps same)
    {action : Action σ} (keeps : action.Keeps same) : (s.execute action).Keeps same :=
  action.execute_keeps h (s.navigate_keeps h hhooks s.budget) keeps

theorem executeMain_keeps (h : s.env.Keeps same)
    (hhooks : ∀ action ∈ s.afterOpen, action.Keeps same) {action : Action σ}
    (keeps : action.Keeps same) (skipped : Nat) : (s.executeMain action skipped).Keeps same := by
  intro host host' hsame
  obtain ⟨answer, after, after', added, hsame', hends, hends'⟩ :=
    execute_keeps h hhooks keeps host host' hsame
  match answer, hends, hends' with
  | .ok a, hends, hends' =>
    exact ⟨.ok a, after, after', added, hsame',
      fun journal => Run.run_onFailure_of_ok (hends journal),
      fun journal => Run.run_onFailure_of_ok (hends' journal)⟩
  | .error (.failed failure), hends, hends' =>
    -- the failure is logged in the same words
    obtain ⟨hafter, hline⟩ := World.lines_same keeps s.options.debug
      (fun line => failureLine line skipped failure) after after' hsame'
    refine ⟨.error (.failed failure), _, _, added ++ World.lineEntries s.options.debug action
      (fun line => failureLine line skipped failure) after, hafter, fun journal => ?_,
      fun journal => ?_⟩
    · rw [executeMain, Run.run_onFailure_of_failed (hends journal), World.logLine_eq,
        Array.append_assoc]
      rfl
    · rw [executeMain, Run.run_onFailure_of_failed (hends' journal), World.logLine_eq,
        Array.append_assoc, hline]
      rfl
  | .error .clockOverflow, hends, hends' =>
    exact ⟨.error .clockOverflow, after, after', added, hsame',
      fun journal => Run.run_onFailure_of_stop (hends journal) (by simp),
      fun journal => Run.run_onFailure_of_stop (hends' journal) (by simp)⟩
  | .error .exhausted, hends, hends' =>
    exact ⟨.error .exhausted, after, after', added, hsame',
      fun journal => Run.run_onFailure_of_stop (hends journal) (by simp),
      fun journal => Run.run_onFailure_of_stop (hends' journal) (by simp)⟩

/-- The execution of a queue does the same to hosts that look the same. -/
theorem executeAll_keeps (h : s.env.Keeps same)
    (hhooks : ∀ action ∈ s.afterOpen, action.Keeps same) {actions : List (Action σ)}
    (hactions : ∀ action ∈ actions, action.Keeps same) : (s.executeAll actions).Keeps same := by
  induction actions with
  | nil => exact .pure ()
  | cons action rest ih =>
    obtain ⟨hfirst, hrest⟩ := List.forall_mem_cons.mp hactions
    refine (s.trace_keeps .main hfirst).bind fun _ => ?_
    exact (executeMain_keeps h hhooks hfirst rest.length).bind fun _ => ih hrest

end Setting

end Execution

section Invariants

variable {I : σ → Prop}

/-- The hosts with a property look the same as themselves and as nothing else. -/
def Having (I : σ → Prop) (host host' : σ) : Prop := host' = host ∧ I host

/-- Code that keeps a property does the same to hosts that have it. -/
theorem Aside.keeps_having {code : Aside σ α}
    (h : ∀ host, I host → I (code.run { host := host }).2.host) : code.Keeps (Having I) := by
  rintro _ host ⟨rfl, hhost⟩
  exact ⟨_, _, _, _, ⟨rfl, h host hhost⟩, rfl, rfl⟩

/-- A run that does the same to hosts with a property keeps the property. -/
theorem Run.Keeps.invariant {run : Run (World σ) α} (h : run.Keeps (Having I)) {w w' : World σ}
    {answer : Except Stop α} (hw : I w.host) (hrun : run.run w = ending answer w') : I w'.host := by
  obtain ⟨answer', after, after', added, hsame, hends, -⟩ := h w.host w.host ⟨rfl, hw⟩
  obtain ⟨-, rfl⟩ := ending_inj (hrun.symm.trans (hends w.journal))
  exact hsame.2

/-- What page, clock and actions keep is kept by the execution of a queue. -/
theorem Setting.Executes.invariant {s : Setting σ} (h : s.env.Keeps (Having I))
    (hhooks : ∀ action ∈ s.afterOpen, action.Keeps (Having I)) {w w' : World σ}
    {executed skipped : List (Action σ)} {answer : Except Stop Unit}
    (executes : s.Executes w executed skipped answer w')
    (hactions : ∀ action ∈ executed, action.Keeps (Having I)) (hw : I w.host) : I w'.host := by
  -- the lines of an action keep the property, too
  have hline {action : Action σ} (keeps : action.Keeps (Having I)) {host : σ} (hhost : I host) :
      I (World.lineHost s.options.debug action host) :=
    (World.lines_same keeps s.options.debug id host host ⟨rfl, hhost⟩).1.2
  have hbegin {action : Action σ} (keeps : action.Keeps (Having I)) {w : World σ} (hw : I w.host) :
      I (w.begin s.options.debug .main action).host := by
    rw [World.begin_eq]
    exact hline keeps hw
  induction executes with
  | done => exact hw
  | @next w w₁ w₂ action executed skipped answer succeeds rest ih =>
    obtain ⟨hfirst, hrest⟩ := List.forall_mem_cons.mp hactions
    exact ih hrest ((execute_keeps h hhooks hfirst).invariant (hbegin hfirst hw)
      (show _ = Run.ending (.ok ()) w₁ from succeeds))
  | @stopped w w₁ action skipped stop stops =>
    have hkeeps := hactions action List.mem_cons_self
    have hstopped := (execute_keeps h hhooks hkeeps).invariant (hbegin hkeeps hw)
      (show _ = Run.ending (.error stop) w₁ from stops)
    rw [host_afterStop]
    cases stop with
    | failed failure => exact hline hkeeps hstopped
    | clockOverflow => exact hstopped
    | exhausted => exact hstopped

end Invariants

end PagePilot
