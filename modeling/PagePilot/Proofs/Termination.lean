import Mathlib.Data.Finset.Lattice.Fold
import Mathlib.Data.Finset.Range
import PagePilot.Proofs.Operation
import PagePilot.Proofs.Waiting

/-!
# Whether a run comes to an end

On a manual clock every built-in action comes to an end by itself. What may go on for ever is a
navigation whose registered actions navigate again: a run ends exactly if the number of its
successful navigations is bounded, however many rounds it is granted.

## Main definitions

- `Action.IsBuiltin` - the action is not a custom one
- `World.visits` - how many navigations have succeeded
- `Run.Outlasts` - more rounds make no difference, unless so many navigations have succeeded
- `Scene.Terminates` - a run comes to an end, and more rounds make no difference

## Main statements

- `Setting.navigate_outlasts` - a navigation uses a round up only with a successful navigation
- `run_terminates` - when a run comes to an end
-/

namespace PagePilot

variable {σ α β : Type}

/-- The action is one of those that need no program of one's own. -/
def Action.IsBuiltin : Action σ → Prop
  | .custom _ _ _ => False
  | _ => True

/-- The URL of a navigation that has succeeded. -/
def Entry.visited? : Entry σ → Option String
  | .called (.navigate url) true => some url
  | _ => none

/-- How many navigations have succeeded. -/
def World.visits (w : World σ) : Nat := (w.told Entry.visited?).length

namespace World

theorem visits_begin (debug : Bool) (role : Role) (action : Action σ) (w : World σ) :
    (w.begin debug role action).visits = w.visits := by
  rw [visits, told_begin fun _ => rfl]
  simp [Entry.visited?, visits]

theorem visits_le_of_appends {P : Entry σ → Prop} {run : Run (World σ) α} (h : run.Appends P)
    {w w₁ : World σ} {answer : Except Stop α} (hrun : run.run w = Run.ending answer w₁) :
    w.visits ≤ w₁.visits := by
  obtain ⟨added, -, hjournal⟩ := h.exists_added hrun
  simp [visits, told, hjournal]

theorem visits_doCall {env : Environment σ} {url : String} {answer : Unit} {w w₁ : World σ}
    (h : (env.doCall (.navigate url)).run w = .ok answer w₁) : w₁.visits = w.visits + 1 := by
  have htold : w₁.told Entry.visited? = w.told Entry.visited? ++ [url] :=
    told_ask (fun _ => rfl) (show _ = Run.ending (.ok answer) w₁ from h)
  rw [visits, htold, List.length_append]
  rfl

end World

namespace Run

/-- From every world, the two runs end in the same way and not because the rounds are used up, or
the first one uses up its rounds and has made `n` successful navigations at least. -/
def Outlasts (n : Nat) (run run' : Run (World σ) α) : Prop :=
  ∀ w, (∃ answer w₁, answer ≠ .error .exhausted ∧ run.run w = ending answer w₁ ∧
      run'.run w = ending answer w₁ ∧ w.visits ≤ w₁.visits) ∨
    ∃ w₁, run.run w = .error .exhausted w₁ ∧ w.visits + n ≤ w₁.visits

namespace Outlasts

variable {n : Nat} {run run' : Run (World σ) α}

/-- Runs that never use up their rounds. -/
theorem of_ends {P : Entry σ → Prop} (happends : run.Appends P)
    (hends : ∀ w, ∃ answer w₁, answer ≠ .error .exhausted ∧ run.run w = ending answer w₁ ∧
      run'.run w = ending answer w₁) : Outlasts n run run' := by
  intro w
  obtain ⟨answer, w₁, hanswer, hrun, hrun'⟩ := hends w
  exact .inl ⟨answer, w₁, hanswer, hrun, hrun', World.visits_le_of_appends happends hrun⟩

theorem pure (a : α) : Outlasts n (Pure.pure a : Run (World σ) α) (Pure.pure a) :=
  fun w => .inl ⟨.ok a, w, by simp, rfl, rfl, Nat.le_refl _⟩

theorem bind {next next' : α → Run (World σ) β} (h : Outlasts n run run')
    (hnext : ∀ a, Outlasts n (next a) (next' a)) : Outlasts n (run >>= next) (run' >>= next') := by
  intro w
  rcases h w with ⟨answer, w₁, hanswer, hrun, hrun', hvisits⟩ | ⟨w₁, hrun, hvisits⟩
  · cases answer with
    | error stop =>
      have hstop : (.error stop : Except Stop β) ≠ .error .exhausted := fun heq => by
        cases heq
        exact hanswer rfl
      exact .inl ⟨.error stop, w₁, hstop, run_bind_of_error hrun, run_bind_of_error hrun', hvisits⟩
    | ok a =>
      have hfirst : (run >>= next).run w = (next a).run w₁ := run_bind_of_ok hrun
      have hfirst' : (run' >>= next').run w = (next' a).run w₁ := run_bind_of_ok hrun'
      rcases hnext a w₁ with ⟨answer, w₂, hanswer, hrest, hrest', hmore⟩ | ⟨w₂, hrest, hmore⟩
      · exact .inl ⟨answer, w₂, hanswer, hfirst.trans hrest, hfirst'.trans hrest',
          hvisits.trans hmore⟩
      · exact .inr ⟨w₂, hfirst.trans hrest, by omega⟩
  · exact .inr ⟨w₁, run_bind_of_error hrun, hvisits⟩

theorem ofExcept (verdict : Except Failure α) :
    Outlasts n (Run.ofExcept verdict : Run (World σ) α) (Run.ofExcept verdict) := by
  intro w
  cases verdict with
  | ok a => exact .inl ⟨.ok a, w, by simp, rfl, rfl, Nat.le_refl _⟩
  | error failure => exact .inl ⟨.error (.failed failure), w, by simp, rfl, rfl, Nat.le_refl _⟩

theorem modify {change : World σ → World σ} (h : ∀ w, w.visits ≤ (change w).visits) :
    Outlasts n (modify change : Run (World σ) Unit) (modify change) :=
  fun w => .inl ⟨.ok (), change w, by simp, rfl, rfl, h w⟩

theorem aside (code : Aside σ α) : Outlasts n (World.aside code) (World.aside code) := by
  have happends : (World.aside code).Appends fun _ => True :=
    World.aside_appends fun _ _ _ => trivial
  exact of_ends happends fun w => ⟨.ok _, _, by simp, rfl, rfl⟩

theorem ask (call : Host Failure σ α) (entry : Bool → Entry σ) :
    Outlasts n (World.ask call entry) (World.ask call entry) := by
  have happends : (World.ask call entry).Appends fun _ => True :=
    World.ask_appends (fun _ => trivial) fun _ => trivial
  refine of_ends happends fun w => ?_
  cases hrun : (World.ask call entry).run w with
  | ok a w₁ => exact ⟨.ok a, w₁, by simp, rfl, rfl⟩
  | error stop w₁ =>
    have hstop := World.ne_exhausted_of_run_ask hrun
    exact ⟨.error stop, w₁, by simpa using hstop, rfl, rfl⟩

/-- A run that has made too few navigations has not used up its rounds. -/
theorem ends_of_lt (h : Outlasts n run run') {w w₁ : World σ} {answer : Except Stop α}
    (hrun : run.run w = ending answer w₁) (hfew : w₁.visits < w.visits + n) :
    answer ≠ .error .exhausted ∧ run'.run w = ending answer w₁ := by
  rcases h w with ⟨answer', w₂, hanswer, hrun₂, hrun', -⟩ | ⟨w₂, hrun₂, hvisits⟩
  · obtain ⟨rfl, rfl⟩ := ending_inj (hrun.symm.trans hrun₂)
    exact ⟨hanswer, hrun'⟩
  · obtain ⟨-, rfl⟩ := ending_eq_of_error hrun hrun₂
    omega

end Outlasts

end Run

namespace Setting

/-- The same setting with other granted rounds. -/
def granted (s : Setting σ) (budget : Nat) : Setting σ := { s with budget := budget }

variable {s : Setting σ} {time : σ → Duration} {n budget budget' : Nat}

theorem waitUntil_outlasts (hclock : s.env.OnManualClock time)
    (hpause : 0 < s.options.pollInterval.nanos) (henough : Duration.limit ≤ budget)
    (hle : budget ≤ budget') (condition function : String) (args : List Json)
    (holds : Json → Bool) :
    Run.Outlasts n ((s.granted budget).waitUntil condition function args holds)
      ((s.granted budget').waitUntil condition function args holds) := by
  have happends : ((s.granted budget).waitUntil condition function args holds).Appends
      fun _ => True := by
    have hadmits : Entry.Admits (fun _ : Entry σ => True) Licence.all :=
      ⟨fun _ _ _ => trivial, fun _ _ => trivial, fun _ => trivial⟩
    let check : Run (World σ) Bool := holds <$> s.env.doCall (.evaluate function args)
    have hcheck : check.Appends fun _ => True :=
      (World.ask_appends (fun _ => trivial) fun _ => trivial).map holds
    exact @Licence.Respects.pollUntil σ Licence.all s.env _ hadmits.respects _ _ check check hcheck
      budget
  refine .of_ends happends fun w => ?_
  obtain ⟨answer, w₁, hanswer, hends⟩ :=
    hclock.waitUntil_ends s.options hpause condition function args holds w
  exact ⟨answer, w₁, hanswer, hends (s.granted budget) rfl rfl henough,
    hends (s.granted budget') rfl rfl (henough.trans hle)⟩

theorem execute_outlasts (hclock : s.env.OnManualClock time)
    (hpause : 0 < s.options.pollInterval.nanos) (henough : Duration.limit ≤ budget)
    (hle : budget ≤ budget') {action : Action σ} (hbuiltin : action.IsBuiltin)
    (hstays : ∀ location, action ≠ .navigate location)
    (navigate navigate' : String → Run (World σ) Unit) :
    Run.Outlasts n (action.execute (s.granted budget) navigate)
      (action.execute (s.granted budget') navigate') := by
  -- only the waits look at the rounds, and they are granted enough of them
  cases action with
  | custom name line body => exact hbuiltin.elim
  | navigate location => exact absurd rfl (hstays location)
  | click mode selector =>
    rw [Action.execute, Action.execute]
    cases mode with
    | dispatch => exact (Run.Outlasts.ask _ _).bind fun answer => .ofExcept _
    | mouse =>
      exact (Run.Outlasts.ask _ _).bind fun answer =>
        (Run.Outlasts.ofExcept _).bind fun point => .ask _ _
  | setValue selector value =>
    rw [Action.execute, Action.execute]
    exact (Run.Outlasts.ask _ _).bind fun answer => .ofExcept _
  | viewport width height =>
    rw [Action.execute, Action.execute]
    exact .ask _ _
  | screenshot path =>
    rw [Action.execute, Action.execute]
    exact .ask _ _
  | delay duration =>
    rw [Action.execute, Action.execute]
    exact .ask _ _
  | waitForSelector selector =>
    rw [Action.execute, Action.execute]
    exact waitUntil_outlasts hclock hpause henough hle _ _ _ _
  | waitForFunction function args =>
    rw [Action.execute, Action.execute]
    exact waitUntil_outlasts hclock hpause henough hle _ _ _ _
  | eval function args receive =>
    rw [Action.execute, Action.execute]
    refine (Run.Outlasts.ask _ _).bind fun answer => ?_
    cases receive with
    | none => exact .pure ()
    | some receive => exact .aside (receive answer)
  | check assertion =>
    rw [Action.execute, Action.execute]
    exact (Run.Outlasts.ask _ _).bind fun answer => .ofExcept _
  | refused refusal =>
    rw [Action.execute, Action.execute]
    exact .ofExcept (.error refusal.failure)

theorem followUp_outlasts {execute execute' : Action σ → Run (World σ) Unit}
    {actions : List (Action σ)}
    (h : ∀ action ∈ actions, Run.Outlasts n (execute action) (execute' action)) :
    Run.Outlasts n ((s.granted budget).followUp execute actions)
      ((s.granted budget').followUp execute' actions) := by
  induction actions with
  | nil => exact .pure ()
  | cons action rest ih =>
    refine (Run.Outlasts.modify fun w => ?_).bind fun _ => ?_
    · exact (World.visits_begin _ _ _ w).ge
    · refine (h action List.mem_cons_self).bind fun _ => ?_
      exact ih fun action hmem => h action (List.mem_cons_of_mem _ hmem)

/-- With followers that use up no rounds, a navigation that is granted a round uses up none. -/
theorem navigate_outlasts_of_followed {rounds rounds' : Nat} (location : String)
    (h : ∀ action ∈ s.afterOpen,
      Run.Outlasts n (action.execute (s.granted budget) ((s.granted budget).navigate rounds))
        (action.execute (s.granted budget') ((s.granted budget').navigate rounds'))) :
    Run.Outlasts n ((s.granted budget).navigate (rounds + 1) location)
      ((s.granted budget').navigate (rounds' + 1) location) :=
  (Run.Outlasts.ask _ _).bind fun _ => followUp_outlasts h

/-- Every nested navigation uses up a round, but only once its own navigation has succeeded. So if
all rounds are used up, at least as many navigations have succeeded. -/
theorem navigate_outlasts (hclock : s.env.OnManualClock time)
    (hpause : 0 < s.options.pollInterval.nanos) (henough : Duration.limit ≤ budget)
    (hle : budget ≤ budget') (hbuiltin : ∀ action ∈ s.afterOpen, action.IsBuiltin)
    {rounds rounds' : Nat} (hrounds : rounds ≤ rounds') (location : String) :
    Run.Outlasts rounds ((s.granted budget).navigate rounds location)
      ((s.granted budget').navigate rounds' location) := by
  induction rounds generalizing rounds' location with
  | zero => exact fun w => .inr ⟨w, rfl, Nat.le_refl _⟩
  | succ rounds ih =>
    obtain ⟨left, rfl⟩ := Nat.exists_eq_add_of_le hrounds
    rw [Nat.succ_add rounds left]
    -- what follows has one round less, which makes up for the navigation that comes first
    have hfollowed : Run.Outlasts rounds
        ((s.granted budget).followUp
          (fun action => action.execute (s.granted budget) ((s.granted budget).navigate rounds))
          s.afterOpen)
        ((s.granted budget').followUp
          (fun action => action.execute (s.granted budget')
            ((s.granted budget').navigate (rounds + left))) s.afterOpen) := by
      refine followUp_outlasts fun action hmem => ?_
      by_cases hnavigate : ∃ location, action = .navigate location
      · obtain ⟨location, rfl⟩ := hnavigate
        rw [Action.execute, Action.execute]
        exact ih (Nat.le_add_right rounds left) location
      · exact execute_outlasts hclock hpause henough hle (hbuiltin action hmem)
          (fun location h => hnavigate ⟨location, h⟩) _ _
    intro w
    let visit : Run (World σ) Unit :=
      s.env.doCall (.navigate (joinUrl s.options.baseUrl location))
    cases hvisit : visit.run w with
    | error stop w₁ =>
      have happends : visit.Appends fun _ => True :=
        World.ask_appends (fun _ => trivial) fun _ => trivial
      have hstop : stop ≠ .exhausted := World.ne_exhausted_of_run_ask hvisit
      exact .inl ⟨.error stop, w₁, by simpa using hstop, Run.run_bind_of_error hvisit,
        Run.run_bind_of_error hvisit, World.visits_le_of_appends happends
          (show _ = Run.ending (.error stop) w₁ from hvisit)⟩
    | ok a w₁ =>
      have hone : w₁.visits = w.visits + 1 := World.visits_doCall hvisit
      rcases hfollowed w₁ with ⟨answer, w₂, hanswer, hrun, hrun', hmore⟩ | ⟨w₂, hrun, hmore⟩
      · exact .inl ⟨answer, w₂, hanswer, (Run.run_bind_of_ok hvisit).trans hrun,
          (Run.run_bind_of_ok hvisit).trans hrun', by omega⟩
      · exact .inr ⟨w₂, (Run.run_bind_of_ok hvisit).trans hrun, by omega⟩

theorem executeAll_outlasts {queue : List (Action σ)}
    (h : ∀ action ∈ queue, Run.Outlasts n ((s.granted budget).execute action)
      ((s.granted budget').execute action)) :
    Run.Outlasts n ((s.granted budget).executeAll queue)
      ((s.granted budget').executeAll queue) := by
  induction queue with
  | nil => exact .pure ()
  | cons action rest ih =>
    have hrest := ih fun action hmem => h action (List.mem_cons_of_mem _ hmem)
    intro w
    have hbegin := World.visits_begin s.options.debug .main action w
    rcases h action List.mem_cons_self (w.begin s.options.debug .main action) with
      ⟨answer, w₁, hanswer, hrun, hrun', hvisits⟩ | ⟨w₁, hrun, hvisits⟩
    · cases answer with
      | ok a =>
        have hfirst : ((s.granted budget).executeAll (action :: rest)).run w
            = ((s.granted budget).executeAll rest).run w₁ := executeAll_cons_of_ok _ hrun
        have hfirst' : ((s.granted budget').executeAll (action :: rest)).run w
            = ((s.granted budget').executeAll rest).run w₁ := executeAll_cons_of_ok _ hrun'
        rcases hrest w₁ with ⟨answer, w₂, hanswer, hrun, hrun', hmore⟩ | ⟨w₂, hrun, hmore⟩
        · exact .inl ⟨answer, w₂, hanswer, hfirst.trans hrun, hfirst'.trans hrun',
            by omega⟩
        · exact .inr ⟨w₂, hfirst.trans hrun, by omega⟩
      | error stop =>
        have hafter : (s.afterStop action rest.length stop w₁).visits = w₁.visits :=
          congrArg List.length (told_afterStop (fun _ => rfl) action rest.length stop w₁)
        exact .inl ⟨.error stop, _, hanswer, (s.granted budget).executeAll_cons_of_stop hrun,
          (s.granted budget').executeAll_cons_of_stop hrun', by
            show w.visits ≤ (s.afterStop action rest.length stop w₁).visits
            omega⟩
    · exact .inr ⟨w₁, (s.granted budget).executeAll_cons_of_stop hrun, by omega⟩

end Setting

namespace Scene

variable {env : Environment σ} {scene : Scene σ} {time : σ → Duration}

/-- A run of the session comes to an end, and granting it more rounds makes no difference. -/
def Terminates (env : Environment σ) (scene : Scene σ) : Prop :=
  ∃ answer after, answer ≠ .error .exhausted ∧ ∃ enough, ∀ budget, enough ≤ budget →
    scene.perform env (.run budget) = ⟨.run budget, scene, answer, after⟩

theorem Prepares.ne_exhausted {scene' : Scene σ} {stop : Stop}
    (h : scene.Prepares env (.error stop) scene') : stop ≠ .exhausted := by
  cases h with
  | closed _ => simp
  | unlaunched _ _ stops => exact World.ne_exhausted_of_run_ask stops
  | unopened _ _ _ stops => exact World.ne_exhausted_of_run_ask stops

theorem Terminates.exists_most (h : scene.Terminates env) :
    ∃ most, ∀ budget, (scene.perform env (.run budget)).after.world.visits ≤ most := by
  obtain ⟨answer, after, -, enough, hends⟩ := h
  let visits (budget : Nat) : Nat := (scene.perform env (.run budget)).after.world.visits
  -- from `enough` on all runs are the same, and there are only finitely many budgets below
  refine ⟨max after.world.visits ((Finset.range enough).sup visits), fun budget => ?_⟩
  rcases Nat.lt_or_ge budget enough with hfew | henough
  · have hsup : visits budget ≤ (Finset.range enough).sup visits :=
      Finset.le_sup (Finset.mem_range.mpr hfew)
    exact hsup.trans (Nat.le_max_right _ _)
  · rw [hends budget henough]
    exact Nat.le_max_left _ _

theorem perform_run_of_prepared {ready : Scene σ} {budget : Nat} {answer : Except Stop Unit}
    {w : World σ} (hprepare : (prepare env).run scene = .ok () ready)
    (hrun : ((setting env scene.session budget).executeAll scene.session.queue.toList).run
      ready.world = Run.ending answer w) :
    scene.perform env (.run budget)
      = ⟨.run budget, scene, answer, ⟨{ ready.session with queue := {} }, w⟩⟩ := by
  obtain ⟨ready?, ready', hprepare', prepares⟩ := scene.prepare_prepares env
  obtain ⟨rfl, rfl⟩ := Run.ending_inj
    ((show _ = Run.ending (.ok ()) ready from hprepare).symm.trans hprepare')
  rw [← prepares.setting_eq budget, ← prepares.queue_eq] at hrun
  exact perform_of_ending env (run_of_prepared env budget hprepare prepares.hasPage hrun)

/-- A run comes to an end if, wherever engine and page are got ready, the execution of the queue
does for some number of rounds and for all greater ones. -/
theorem terminates_of_executeAll (enough : Nat)
    (h : ∀ ready, (prepare env).run scene = .ok () ready → ∀ answer w,
      ((setting env scene.session enough).executeAll scene.session.queue.toList).run ready.world
        = Run.ending answer w → answer ≠ .error .exhausted ∧ ∀ budget, enough ≤ budget →
      ((setting env scene.session budget).executeAll scene.session.queue.toList).run ready.world
        = Run.ending answer w) :
    scene.Terminates env := by
  obtain ⟨ready?, ready, hprepare, prepares⟩ := scene.prepare_prepares env
  cases ready? with
  | error stop =>
    refine ⟨.error stop, ready, by simpa using prepares.ne_exhausted, 0, fun budget _ => ?_⟩
    exact perform_of_ending env (run_of_unprepared env budget hprepare)
  | ok _ =>
    obtain ⟨answer, w, hrun⟩ := Run.exists_ending
      ((setting env scene.session enough).executeAll scene.session.queue.toList) ready.world
    obtain ⟨hanswer, hends⟩ := h ready hprepare answer w hrun
    exact ⟨answer, ⟨{ ready.session with queue := {} }, w⟩, hanswer, enough,
      fun budget hbudget => perform_run_of_prepared hprepare (hends budget hbudget)⟩

section Builtin

variable (hclock : env.OnManualClock time)
  (hpause : Duration.zero < scene.session.options.pollInterval)
  (hqueue : ∀ action ∈ scene.session.queue.toList, action.IsBuiltin)
  (hhooks : ∀ action ∈ scene.session.afterOpen.toList, action.IsBuiltin)

include hclock hpause hqueue

/-- The execution of a queue of built-in actions uses up no more rounds than a navigation does. -/
theorem executeAll_outlasts_of_navigate {n budget budget' : Nat}
    (henough : Duration.limit ≤ budget) (hle : budget ≤ budget')
    (hnavigate : ∀ location, Run.Outlasts n
      ((setting env scene.session budget).navigate budget location)
      ((setting env scene.session budget').navigate budget' location)) :
    Run.Outlasts n ((setting env scene.session budget).executeAll scene.session.queue.toList)
      ((setting env scene.session budget').executeAll scene.session.queue.toList) := by
  let s := setting env scene.session 0
  have hpause : 0 < s.options.pollInterval.nanos := hpause
  refine @Setting.executeAll_outlasts σ s n budget budget' _ fun action hmem => ?_
  by_cases h : ∃ location, action = .navigate location
  · obtain ⟨location, rfl⟩ := h
    rw [Setting.execute, Setting.execute, Action.execute, Action.execute]
    exact hnavigate location
  · exact @Setting.execute_outlasts σ s time n budget budget' hclock hpause henough hle action
      (hqueue action hmem) (fun location heq => h ⟨location, heq⟩) _ _

include hhooks

theorem terminates_of_visits_le {most : Nat}
    (hmost : ∀ budget, (scene.perform env (.run budget)).after.world.visits ≤ most) :
    scene.Terminates env := by
  let s := setting env scene.session 0
  have hpause' : 0 < s.options.pollInterval.nanos := hpause
  -- to use up so many rounds would take more than `most` navigations
  let enough := max Duration.limit (most + 1)
  have henough : Duration.limit ≤ enough := Nat.le_max_left _ _
  refine terminates_of_executeAll enough fun ready hprepare answer w hrun => ?_
  have hfew : w.visits < ready.world.visits + enough := by
    have hvisits := hmost enough
    rw [perform_run_of_prepared hprepare hrun] at hvisits
    have hmore : most + 1 ≤ enough := Nat.le_max_right _ _
    show w.visits < _
    have hvisits : w.visits ≤ most := hvisits
    omega
  have houtlasts (budget : Nat) (hbudget : enough ≤ budget) := executeAll_outlasts_of_navigate
    hclock hpause hqueue henough hbudget fun location =>
      @Setting.navigate_outlasts σ s time enough budget hclock hpause' henough hbudget hhooks enough
        budget hbudget location
  exact ⟨((houtlasts enough (Nat.le_refl _)).ends_of_lt hrun hfew).1,
    fun budget hbudget => ((houtlasts budget hbudget).ends_of_lt hrun hfew).2⟩

/-- Where no registered action navigates, a run comes to an end: no navigation is nested in another
one. -/
theorem terminates_of_staying
    (hstays : ∀ location, .navigate location ∉ scene.session.afterOpen.toList) :
    scene.Terminates env := by
  let s := setting env scene.session 0
  have hpause' : 0 < s.options.pollInterval.nanos := hpause
  have hlimit : Duration.limit ≠ 0 := by decide
  obtain ⟨rounds, hrounds⟩ := Nat.exists_eq_add_one_of_ne_zero hlimit
  refine terminates_of_executeAll Duration.limit fun ready hprepare answer w hrun => ?_
  have houtlasts (budget : Nat) (hbudget : Duration.limit ≤ budget) :
      Run.Outlasts (w.visits + 1)
        ((setting env scene.session Duration.limit).executeAll scene.session.queue.toList)
        ((setting env scene.session budget).executeAll scene.session.queue.toList) := by
    refine executeAll_outlasts_of_navigate hclock hpause hqueue (Nat.le_refl _) hbudget
      fun location => ?_
    obtain ⟨rounds', hrounds'⟩ := Nat.exists_eq_add_one_of_ne_zero
      (show budget ≠ 0 by omega)
    have hnavigate := @Setting.navigate_outlasts_of_followed σ s (w.visits + 1) Duration.limit
      budget rounds rounds' location fun action hmem =>
        @Setting.execute_outlasts σ s time _ _ _ hclock hpause' (Nat.le_refl _) hbudget action
          (hhooks action hmem) (fun location heq => hstays location (heq ▸ hmem)) _ _
    rw [← hrounds, ← hrounds'] at hnavigate
    exact hnavigate
  have hfew : w.visits < ready.world.visits + (w.visits + 1) := by omega
  exact ⟨((houtlasts _ (Nat.le_refl _)).ends_of_lt hrun hfew).1,
    fun budget hbudget => ((houtlasts budget hbudget).ends_of_lt hrun hfew).2⟩

end Builtin

end Scene

/-- In a session on a manual clock whose waits pause, and in which all queued and registered actions
are built-in ones,

* a run comes to an end exactly if the number of its successful navigations is bounded, however many
  rounds it is granted;
* in particular it does if no registered action navigates. -/
theorem run_terminates (env : Environment σ) (time : σ → Duration) (scene : Scene σ)
    (hclock : env.OnManualClock time)
    (hpause : Duration.zero < scene.session.options.pollInterval)
    (hqueue : ∀ action ∈ scene.session.queue.toList, action.IsBuiltin)
    (hhooks : ∀ action ∈ scene.session.afterOpen.toList, action.IsBuiltin) :
    (scene.Terminates env ↔
      ∃ most, ∀ budget, (scene.perform env (.run budget)).after.world.visits ≤ most) ∧
    ((∀ location, .navigate location ∉ scene.session.afterOpen.toList) → scene.Terminates env) := by
  refine ⟨⟨fun h => h.exists_most, fun ⟨most, hmost⟩ => ?_⟩, fun hstays => ?_⟩
  · exact Scene.terminates_of_visits_le hclock hpause hqueue hhooks hmost
  · exact Scene.terminates_of_staying hclock hpause hqueue hhooks hstays

/-- An outside that does whatever it is asked to do, on a manual clock that is all its state. -/
def Environment.obliging : Environment Duration where
  launch _ := pure ()
  createPage := pure ()
  exit := pure ()
  call
    | .evaluate _ _ => pure Json.null
    | .navigate _ | .setViewport _ _ | .render _ | .clickAt _ _ => pure ()
  now := Clock.manual.now
  sleep d := fun hosted =>
    match hosted.host.add? d with
    | some later => .ok () { hosted with host := later }
    | none => .error .clockOverflow hosted

theorem Environment.obliging_onManualClock : Environment.obliging.OnManualClock id where
  now _ := rfl
  sleep d hosted := by
    cases h : hosted.host.add? d with
    | some later =>
      exact .inl ⟨later, { hosted with host := later }, h, by
        simp only [Environment.obliging, EStateM.run, h], rfl⟩
    | none => exact .inr ⟨h, hosted, by simp only [Environment.obliging, EStateM.run, h]⟩
  call call hosted after answer hrun := by
    cases call <;> cases hrun <;> exact Nat.le_refl _

/-- A wait for an element that never comes, and a navigation that changes the size of the page. -/
theorem run_terminates_waiting :
    let queue : List (Action Duration) := [.waitForSelector "li", .navigate "/"]
    let scene : Scene Duration :=
      ⟨{ options := {}, queue := ⟨queue⟩, afterOpen := ⟨[.viewport 800 600]⟩ }, { host := .zero }⟩
    Environment.obliging.OnManualClock id ∧
    Duration.zero < scene.session.options.pollInterval ∧
    (∀ action ∈ scene.session.queue.toList, action.IsBuiltin) ∧
    (∀ action ∈ scene.session.afterOpen.toList, action.IsBuiltin) ∧
    scene.Terminates .obliging := by
  intro queue scene
  have hqueue : ∀ action ∈ scene.session.queue.toList, action.IsBuiltin := by
    intro action hmem
    rcases List.mem_cons.mp hmem with rfl | hmem
    · trivial
    · obtain rfl := List.mem_singleton.mp hmem
      trivial
  have hhooks : ∀ action ∈ scene.session.afterOpen.toList, action.IsBuiltin := by
    intro action hmem
    obtain rfl := List.mem_singleton.mp hmem
    trivial
  have hpause : Duration.zero < scene.session.options.pollInterval := by decide
  refine ⟨Environment.obliging_onManualClock, hpause, hqueue, hhooks, ?_⟩
  refine (run_terminates .obliging id scene Environment.obliging_onManualClock hpause hqueue
    hhooks).2 fun location hmem => ?_
  cases List.mem_singleton.mp hmem

/-- If the first registered action navigates and the page goes wherever it is told, a navigation
uses up all its rounds. -/
theorem Setting.navigate_endless {s : Setting σ} {again : String} {rest : List (Action σ)}
    (hhooks : s.afterOpen = .navigate again :: rest)
    (hvisits : ∀ url w, ∃ w₁, (s.env.doCall (.navigate url)).run w = .ok () w₁)
    (rounds : Nat) (location : String) (w : World σ) :
    ∃ w₁, (s.navigate rounds location).run w = .error .exhausted w₁ := by
  induction rounds generalizing location w with
  | zero => exact ⟨w, rfl⟩
  | succ rounds ih =>
    obtain ⟨w₁, hvisit⟩ := hvisits (joinUrl s.options.baseUrl location) w
    obtain ⟨w₂, hagain⟩ := ih again (w₁.begin s.options.debug .afterOpen (.navigate again))
    refine ⟨w₂, ?_⟩
    rw [navigate]
    refine (Run.run_bind_of_ok hvisit).trans ?_
    rw [hhooks, followUp, Run.run_bind_of_ok (s.run_trace .afterOpen _ w₁), Action.execute]
    exact Run.run_bind_of_error hagain

/-- A registered action that navigates, on a page that goes wherever it is told: no run of the
queued navigation comes to an end. -/
theorem run_endless :
    let scene : Scene Duration :=
      ⟨{ options := {}, queue := ⟨[.navigate "/"]⟩, afterOpen := ⟨[.navigate "/again"]⟩ },
        { host := .zero }⟩
    Environment.obliging.OnManualClock id ∧
    Duration.zero < scene.session.options.pollInterval ∧
    (∀ action ∈ scene.session.queue.toList, action.IsBuiltin) ∧
    (∀ action ∈ scene.session.afterOpen.toList, action.IsBuiltin) ∧
    (∀ budget, (scene.perform .obliging (.run budget)).answer = .error .exhausted) ∧
    ¬ scene.Terminates .obliging := by
  intro scene
  have hexhausted (budget : Nat) :
      (scene.perform .obliging (.run budget)).answer = .error .exhausted := by
    let s := Scene.setting .obliging scene.session budget
    obtain ⟨ready, hprepare⟩ : ∃ ready, (Scene.prepare .obliging).run scene = .ok () ready :=
      ⟨_, rfl⟩
    obtain ⟨w, hnavigate⟩ := @Setting.navigate_endless Duration s "/again" [] rfl
      (fun url w => ⟨_, rfl⟩) budget "/" (ready.world.begin s.options.debug .main (.navigate "/"))
    have hstop : (s.executeAll [.navigate "/"]).run ready.world
        = Run.ending (.error .exhausted) w := s.executeAll_cons_of_stop hnavigate
    rw [Scene.perform_run_of_prepared hprepare hstop]
  refine ⟨Environment.obliging_onManualClock, by decide, ?_, ?_, hexhausted, ?_⟩
  · intro action hmem
    obtain rfl := List.mem_singleton.mp hmem
    trivial
  · intro action hmem
    obtain rfl := List.mem_singleton.mp hmem
    trivial
  · rintro ⟨answer, after, hanswer, enough, hends⟩
    have hanswered := hexhausted enough
    rw [hends enough (Nat.le_refl _)] at hanswered
    exact hanswer hanswered

end PagePilot
