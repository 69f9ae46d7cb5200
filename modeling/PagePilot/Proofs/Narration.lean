import PagePilot.Proofs.Splice
import PagePilot.Proofs.Warnings

/-!
# What the log tells of a run

A session that logs what it does writes a line before it launches the engine, one for every action
that it executes, and one for the action at which a run ends. Whatever fails where, these lines are
what has been done, in that order: a registered action has its line behind that of the queued action
by which a location has been opened, and the line about a failure names the queued action, also if a
registered one has failed.

An action that another one performs has no line of its own, and what custom actions and callbacks
write to the log themselves comes in between.

## Main definitions

- `Asked` - an action that is asked for its line at some time
- `Action.Logs` - what an action writes to the log itself is of a kind
- `Environment.Moves` - one operation of an action
- `Setting.Follows` - the course of registered actions after a location has been reached
- `Setting.Wanders` - the course of an action, with the registered actions executed on its way
- `Chapter`, `Setting.Recounts`, `Scene.Recounts` - the course of a run, told in chapters
- `Scene.transcript` - what such a run must leave in the journal
- `World.debugLines`, `World.attempts` - the lines for debugging, and the attempts to launch

## Main statements

- `Setting.wanders_of_run` - every action takes such a course
- `Scene.Recounts.told` - what a run leaves in the journal
- `run_narrated` - the lines for debugging of a run
-/

namespace PagePilot

variable {σ α β : Type}

/-- An action that is asked for its line, and the outside as it is then. -/
structure Asked (σ : Type) where
  action : Action σ
  host : σ

/-- The line that it tells. -/
def Asked.line (asked : Asked σ) : String := asked.action.line asked.host

/-- What the action writes to the log itself is of a kind, both when it is executed and when it is
asked for its line. -/
structure Action.Logs (P : LogRecord → Prop) (action : Action σ) : Prop where
  within : action.Within (.logging P)
  asides : ∀ host, ∀ record ∈ action.asides host, P record

section Courses

/-- One operation of an action: something is asked of the outside, or code is run that logs lines
of a kind only. -/
inductive Environment.Moves (env : Environment σ) (P : LogRecord → Prop) :
    World σ → World σ → Prop
  | called {call : PageCall} {answer : Except Stop call.Answer} {w w' : World σ}
      (asks : (env.doCall call).run w = Run.ending answer w') : Moves env P w w'
  | slept {d : Duration} {answer : Except Stop Unit} {w w' : World σ}
      (asks : (env.clock.sleep d).run w = Run.ending answer w') : Moves env P w w'
  | read {w : World σ} : Moves env P w (env.clock.now w).2
  | ran {code : Aside σ Unit} (logs : code.Logs P) (w : World σ) :
      Moves env P w (World.runAside code w).2

/-- From a world, registered actions are executed one after the other. All succeed but perhaps the
last, whose stop is then the answer and because of which the others are skipped. -/
inductive Setting.Follows (s : Setting σ) (execute : Action σ → Run (World σ) Unit) :
    World σ → (executed : List (Asked σ)) → (skipped : List (Action σ)) → Except Stop Unit →
      World σ → Prop
  | done {w : World σ} : Follows s execute w [] [] (.ok ()) w
  | next {w w₁ w₂ : World σ} {hook : Action σ} {executed : List (Asked σ)}
      {skipped : List (Action σ)} {answer : Except Stop Unit}
      (succeeds : (execute hook).run (w.begin s.options.debug .afterOpen hook) = .ok () w₁)
      (rest : Follows s execute w₁ executed skipped answer w₂) :
      Follows s execute w (⟨hook, w.host⟩ :: executed) skipped answer w₂
  | stopped {w w₁ : World σ} {hook : Action σ} {skipped : List (Action σ)} {stop : Stop}
      (stops : (execute hook).run (w.begin s.options.debug .afterOpen hook) = .error stop w₁) :
      Follows s execute w [⟨hook, w.host⟩] skipped (.error stop) w₁

/-- From one world to another by operations, and by locations that are reached and the registered
actions that follow then. Those that have been executed are listed. -/
inductive Setting.Wanders (s : Setting σ) (P : LogRecord → Prop) :
    World σ → (followers : List (Asked σ)) → World σ → Prop
  | rest (w : World σ) : Wanders s P w [] w
  | moves {w w₁ w₂ : World σ} {followers : List (Asked σ)} (moves : s.env.Moves P w w₁)
      (rest : Wanders s P w₁ followers w₂) : Wanders s P w followers w₂
  | opens {w w₁ w₂ w₃ : World σ} {location : String} {rounds : Nat}
      {executed followers : List (Asked σ)} {skipped : List (Action σ)} {answer : Except Stop Unit}
      (visits : (s.env.doCall (.navigate (joinUrl s.options.baseUrl location))).run w = .ok () w₁)
      (follows : s.Follows (fun hook => hook.execute s (s.navigate rounds)) w₁ executed skipped
        answer w₂)
      (registered : s.afterOpen = executed.map Asked.action ++ skipped)
      (rest : Wanders s P w₂ followers w₃) :
      Wanders s P w (executed ++ followers) w₃

/-- The run wanders, wherever it begins. -/
def Setting.Traces (s : Setting σ) (P : LogRecord → Prop) (run : Run (World σ) α) : Prop :=
  ∀ ⦃w w' : World σ⦄ ⦃answer : Except Stop α⦄, run.run w = Run.ending answer w' →
    ∃ followers, s.Wanders P w followers w'

namespace Setting

variable {s : Setting σ} {P : LogRecord → Prop}

theorem followUp_follows (execute : Action σ → Run (World σ) Unit) (hooks : List (Action σ))
    (w : World σ) : ∃ executed skipped answer w', hooks = executed.map Asked.action ++ skipped ∧
      (s.followUp execute hooks).run w = Run.ending answer w' ∧
      s.Follows execute w executed skipped answer w' := by
  induction hooks generalizing w with
  | nil => exact ⟨[], [], .ok (), w, rfl, rfl, .done⟩
  | cons hook rest ih =>
    have hbegin : (s.followUp execute (hook :: rest)).run w
        = (execute hook >>= fun _ => s.followUp execute rest).run
          (w.begin s.options.debug .afterOpen hook) := by
      rw [followUp, Run.run_bind_of_ok (s.run_trace .afterOpen hook w)]
    cases h : (execute hook).run (w.begin s.options.debug .afterOpen hook) with
    | ok a w₁ =>
      obtain ⟨executed, skipped, answer, w', rfl, hrun, follows⟩ := ih w₁
      exact ⟨⟨hook, w.host⟩ :: executed, skipped, answer, w', rfl,
        (hbegin.trans (Run.run_bind_of_ok h)).trans hrun, .next h follows⟩
    | error stop w₁ =>
      exact ⟨[⟨hook, w.host⟩], rest, .error stop, w₁, rfl, hbegin.trans (Run.run_bind_of_error h),
        .stopped h⟩

theorem Wanders.trans {w w₁ w₂ : World σ} {followers followers' : List (Asked σ)}
    (h : s.Wanders P w followers w₁) (h' : s.Wanders P w₁ followers' w₂) :
    s.Wanders P w (followers ++ followers') w₂ := by
  induction h with
  | rest w => exact h'
  | moves hmoves _ ih => exact .moves hmoves (ih h')
  | opens visits follows registered _ ih =>
    rw [List.append_assoc]
    exact .opens visits follows registered (ih h')

/-- On its way an action executes registered ones only. -/
theorem Wanders.registered {w w' : World σ} {followers : List (Asked σ)}
    (h : s.Wanders P w followers w') : ∀ asked ∈ followers, asked.action ∈ s.afterOpen := by
  induction h with
  | rest w => exact nofun
  | moves _ _ ih => exact ih
  | opens _ _ registered _ ih =>
    intro asked hmem
    rcases List.mem_append.mp hmem with hexecuted | hlater
    · rw [registered]
      exact List.mem_append_left _ (List.mem_map_of_mem hexecuted)
    · exact ih asked hlater

namespace Traces

variable {run : Run (World σ) α}

/-- A run that does nothing to the world. -/
theorem of_still (h : ∀ w, ∃ answer, run.run w = Run.ending answer w) : s.Traces P run := by
  intro w w' answer hrun
  obtain ⟨answer', hstill⟩ := h w
  obtain ⟨-, rfl⟩ := Run.ending_inj (hrun.symm.trans hstill)
  exact ⟨[], .rest w'⟩

/-- A run that consists of one operation. -/
theorem of_moves (h : ∀ {w w' : World σ} {answer : Except Stop α},
    run.run w = Run.ending answer w' → s.env.Moves P w w') : s.Traces P run :=
  fun _ w' _ hrun => ⟨[], .moves (h hrun) (.rest w')⟩

theorem bind {next : α → Run (World σ) β} (h : s.Traces P run) (hnext : ∀ a, s.Traces P (next a)) :
    s.Traces P (run >>= next) := by
  intro w w' answer hbind
  cases hrun : run.run w with
  | error stop w₁ =>
    obtain ⟨-, rfl⟩ := Run.ending_eq_of_error hbind (Run.run_bind_of_error hrun)
    exact h (Run.ending_of_error hrun)
  | ok a w₁ =>
    obtain ⟨first, hfirst⟩ := h (Run.ending_of_ok hrun)
    obtain ⟨later, hlater⟩ := hnext a ((Run.run_bind_of_ok hrun).symm.trans hbind)
    exact ⟨first ++ later, hfirst.trans hlater⟩

theorem attempt (h : s.Traces P run) : s.Traces P run.attempt := by
  intro w w' answer hattempt
  cases hrun : run.run w with
  | ok a w₁ =>
    obtain ⟨-, rfl⟩ := Run.ending_eq_of_ok hattempt (Run.run_attempt_of_ok hrun)
    exact h (Run.ending_of_ok hrun)
  | error stop w₁ =>
    have hstops := h (Run.ending_of_error hrun)
    cases stop with
    | failed failure =>
      obtain ⟨-, rfl⟩ := Run.ending_eq_of_ok hattempt (Run.run_attempt_of_failed hrun)
      exact hstops
    | clockOverflow =>
      obtain ⟨-, rfl⟩ :=
        Run.ending_eq_of_error hattempt (Run.run_attempt_of_stop hrun (by simp))
      exact hstops
    | exhausted =>
      obtain ⟨-, rfl⟩ :=
        Run.ending_eq_of_error hattempt (Run.run_attempt_of_stop hrun (by simp))
      exact hstops

end Traces

/-- Everything that an action does by itself can be traced. -/
theorem respects_traces : (Licence.logging P).Respects s.env fun _ run _ => s.Traces P run where
  pure a := .of_still fun _ => ⟨.ok a, rfl⟩
  fail failure := .of_still fun _ => ⟨.error (.failed failure), rfl⟩
  exhausted := .of_still fun _ => ⟨.error .exhausted, rfl⟩
  bind hrun hnext := hrun.bind hnext
  attempt hrun := hrun.attempt
  call _ _ := .of_moves .called
  read := .of_moves fun hrun => by
    obtain ⟨-, rfl⟩ := Run.ending_eq_of_ok hrun s.env.clock.run_read
    exact .read
  sleep _ := .of_moves .slept
  observe := .of_still fun w => ⟨.ok w.host, rfl⟩
  aside code hlogs := .of_moves fun {w _ _} hrun => by
    obtain ⟨-, rfl⟩ := Run.ending_eq_of_ok hrun rfl
    exact .ran hlogs w

theorem traces_navigate (rounds : Nat) (location : String) :
    s.Traces P (s.navigate rounds location) := by
  cases rounds with
  | zero => exact .of_still fun _ => ⟨.error .exhausted, rfl⟩
  | succ rounds =>
    intro w w' answer hrun
    cases hvisit : (s.env.doCall (.navigate (joinUrl s.options.baseUrl location))).run w with
    | error stop w₁ =>
      obtain ⟨-, rfl⟩ := Run.ending_eq_of_error hrun (Run.run_bind_of_error hvisit)
      exact ⟨[], .moves (.called (Run.ending_of_error hvisit)) (.rest w')⟩
    | ok _ w₁ =>
      -- registered actions may wander in their turn, which their course takes in
      obtain ⟨executed, skipped, answer', w₂, registered, hfollow, follows⟩ :=
        followUp_follows (s := s) (fun hook => hook.execute s (s.navigate rounds)) s.afterOpen w₁
      obtain ⟨-, rfl⟩ :=
        Run.ending_inj (hrun.symm.trans ((Run.run_bind_of_ok hvisit).trans hfollow))
      exact ⟨executed ++ [], .opens hvisit follows registered (.rest w')⟩

/-- Every action wanders. -/
theorem wanders_of_run {action : Action σ} (within : action.Within (.logging P)) {w w' : World σ}
    {answer : Except Stop Unit} (hrun : (s.execute action).run w = Run.ending answer w') :
    ∃ followers, s.Wanders P w followers w' := by
  have htraces : s.Traces P (s.execute action) :=
    @Action.execute_related σ (.logging P) _ s s (s.navigate s.budget) (s.navigate s.budget)
      respects_traces rfl rfl rfl (fun location _ => traces_navigate s.budget location) action
      within
  exact htraces hrun

end Setting

end Courses

section Told

/-- The line for debugging that an entry is. -/
def Entry.debugLine? : Entry σ → Option String
  | .logged ⟨.debug, text⟩ => some text
  | _ => none

/-- The lines for debugging, in their order. -/
def World.debugLines (w : World σ) : List String := w.told Entry.debugLine?

/-- With which parameters the launch was attempted that an entry is about. -/
def Entry.attempt? : Entry σ → Option LaunchParams
  | .launched params _ => some params
  | _ => none

/-- The attempts to launch the engine, in their order. -/
def World.attempts (w : World σ) : List LaunchParams := w.told Entry.attempt?

/-- What is told is neither what an action does by itself, nor that a page is created, nor any line
of the log that is of a kind. -/
structure Entry.Overlooks (tell : Entry σ → Option β) (P : LogRecord → Prop) : Prop where
  called (call : PageCall) (succeeded : Bool) : tell (.called call succeeded) = none
  slept (d : Duration) (succeeded : Bool) : tell (.slept d succeeded) = none
  createdPage (succeeded : Bool) : tell (.createdPage succeeded) = none
  logged (record : LogRecord) : P record → tell (.logged record) = none

/-- The entries with which an action is begun in a session that logs, but for what custom code
logs. -/
def Asked.announced (role : Role) (asked : Asked σ) : List (Entry σ) :=
  [.began role asked.action, .logged ⟨.debug, asked.line⟩]

variable {tell : Entry σ → Option β} {P : LogRecord → Prop}

namespace World

/-- What a call tells if what it logs is of no interest. -/
theorem told_ask_of_logs {call : Host Failure σ α} {entry : Bool → Entry σ}
    (h : Host.Logs P call) (hlogged : ∀ record, P record → tell (.logged record) = none)
    {w w' : World σ} {answer : Except Stop α}
    (hrun : (World.ask call entry).run w = Run.ending answer w') :
    w'.told tell = w.told tell ++ (tell (entry answer.isOk)).toList := by
  obtain ⟨host, journal⟩ := w
  cases hcall : call.run { host := host } with
  | ok a after =>
    obtain ⟨rfl, rfl⟩ := Run.ending_eq_of_ok hrun (ask_of_ok hcall entry journal)
    have hkind := h.of_ok (by simp) hcall
    exact told_records (fun record hmem => hlogged record (hkind record hmem)) _ _ _
  | error fault after =>
    obtain ⟨rfl, rfl⟩ := Run.ending_eq_of_error hrun (ask_of_error hcall entry journal)
    have hkind := h.of_error (by simp) hcall
    exact told_records (fun record hmem => hlogged record (hkind record hmem)) _ _ _

theorem told_logDebug_true (text : String) (w : World σ) :
    (w.logDebug true text).told tell = w.told tell ++ [.logged ⟨.debug, text⟩].filterMap tell := by
  rw [logDebug_eq, told_append]
  rfl

/-- A line about an action, if it is of no interest what the action logs while it tells it. -/
theorem told_logLine_true (hoverlooks : Entry.Overlooks tell P) {action : Action σ}
    (hlogs : action.Logs P) (text : String → String) (w : World σ) :
    (w.logLine true action text).told tell
      = w.told tell ++ [.logged ⟨.debug, text (action.line w.host)⟩].filterMap tell := by
  have htold : (w.logLine true action text).told tell
      = w.told tell ++ (tell (.logged ⟨.debug, text (action.line w.host)⟩)).toList := by
    rw [logLine_eq, lineEntries, if_pos rfl]
    exact told_records (fun record hmem => hoverlooks.logged record (hlogs.asides _ record hmem)) _
      _ _
  rw [htold]
  cases hline : tell (.logged ⟨.debug, text (action.line w.host)⟩) <;> simp [hline]

theorem told_begin_true (hoverlooks : Entry.Overlooks tell P) {action : Action σ}
    (hlogs : action.Logs P) (role : Role) (w : World σ) :
    (w.begin true role action).told tell
      = w.told tell ++ (Asked.announced role ⟨action, w.host⟩).filterMap tell := by
  have hbegan : (w.note (.began role action)).told tell
      = w.told tell ++ [.began role action].filterMap tell := by
    rw [note, ← Array.append_singleton, told_append]
  rw [World.begin, told_logLine_true hoverlooks hlogs, hbegan, List.append_assoc,
    ← List.filterMap_append]
  rfl

end World

namespace Setting

variable {s : Setting σ} (hlogs : s.env.Logs P) (hoverlooks : Entry.Overlooks tell P)

include hlogs hoverlooks

/-- A single operation tells nothing. -/
theorem told_moves {w w' : World σ} (h : s.env.Moves P w w') : w'.told tell = w.told tell := by
  cases h with
  | @called call answer _ _ asks =>
    rw [World.told_ask_of_logs (hlogs.call call) hoverlooks.logged asks, hoverlooks.called]
    exact List.append_nil _
  | @slept d answer _ _ asks =>
    rw [World.told_ask_of_logs (hlogs.sleep d) hoverlooks.logged asks, hoverlooks.slept]
    exact List.append_nil _
  | read => rfl
  | @ran code logs w =>
    refine World.told_eq_of_added rfl fun entry hentry => ?_
    obtain ⟨record, hmem, rfl⟩ := by simpa using hentry
    exact hoverlooks.logged record (logs w.host record hmem)

omit hlogs in
/-- Registered actions tell that they are begun, if they tell nothing else. -/
theorem Follows.told (hdebug : s.options.debug = true) {execute : Action σ → Run (World σ) Unit}
    {w w' : World σ} {executed : List (Asked σ)} {skipped : List (Action σ)}
    {answer : Except Stop Unit} (h : s.Follows execute w executed skipped answer w')
    (hlogs : ∀ asked ∈ executed, asked.action.Logs P)
    (hexecute : ∀ asked ∈ executed, ∀ {w w' : World σ} {answer : Except Stop Unit},
      (execute asked.action).run w = Run.ending answer w' → w'.told tell = w.told tell) :
    w'.told tell
      = w.told tell ++ (executed.flatMap (Asked.announced .afterOpen)).filterMap tell := by
  induction h with
  | done => exact (List.append_nil _).symm
  | @next w w₁ w₂ hook executed skipped answer succeeds rest ih =>
    obtain ⟨hlogsHook, hlogsRest⟩ := List.forall_mem_cons.mp hlogs
    obtain ⟨hfirst, hrest⟩ := List.forall_mem_cons.mp hexecute
    have hhook := hfirst (Run.ending_of_ok succeeds)
    rw [hdebug, World.told_begin_true hoverlooks hlogsHook] at hhook
    rw [ih hlogsRest hrest, hhook, List.flatMap_cons, List.filterMap_append, List.append_assoc]
  | @stopped w w₁ hook skipped stop stops =>
    have hlogsHook := hlogs _ List.mem_cons_self
    have hhook := hexecute _ List.mem_cons_self (Run.ending_of_error stops)
    rw [hhook, hdebug, World.told_begin_true hoverlooks hlogsHook, List.flatMap_singleton]

/-- On its way an action tells which registered actions are begun, if they tell nothing else. -/
theorem Wanders.told_of_hooks (hdebug : s.options.debug = true)
    (hhooks : ∀ hook ∈ s.afterOpen, hook.Logs P ∧
      ∀ (navigate : String → Run (World σ) Unit) {w w' : World σ} {answer : Except Stop Unit},
        (hook.execute s navigate).run w = Run.ending answer w' → w'.told tell = w.told tell)
    {w w' : World σ} {followers : List (Asked σ)} (h : s.Wanders P w followers w') :
    w'.told tell
      = w.told tell ++ (followers.flatMap (Asked.announced .afterOpen)).filterMap tell := by
  induction h with
  | rest w => exact (List.append_nil _).symm
  | moves hmoves _ ih => rw [ih, told_moves hlogs hoverlooks hmoves]
  | @opens w w₁ w₂ w₃ location rounds executed followers skipped answer visits follows registered
      _ ih =>
    have hmem (asked : Asked σ) (h : asked ∈ executed) : asked.action ∈ s.afterOpen :=
      registered ▸ List.mem_append_left skipped (List.mem_map_of_mem h)
    have hvisit := told_moves hlogs hoverlooks (.called (Run.ending_of_ok visits))
    have hexecuted := follows.told hoverlooks hdebug
      (fun asked h => (hhooks asked.action (hmem asked h)).1)
      fun asked h => (hhooks asked.action (hmem asked h)).2 (s.navigate rounds)
    rw [ih, hexecuted, hvisit, List.flatMap_append, List.filterMap_append, List.append_assoc]

/-- An action that stays where it is tells nothing: it does what it would do if there were no
registered actions. -/
theorem told_of_stays (hdebug : s.options.debug = true) {action : Action σ}
    (hstays : action.Stays s) (within : action.Within (.logging P))
    {navigate : String → Run (World σ) Unit} {w w' : World σ} {answer : Except Stop Unit}
    (hrun : (action.execute s navigate).run w = Run.ending answer w') :
    w'.told tell = w.told tell := by
  rw [hstays.execute_bare] at hrun
  obtain ⟨followers, wanders⟩ := wanders_of_run within hrun
  have hnone : followers = [] :=
    List.eq_nil_iff_forall_not_mem.mpr fun hook hmem =>
      List.not_mem_nil (wanders.registered hook hmem)
  have htold := wanders.told_of_hooks (s := s.bare) hlogs hoverlooks hdebug nofun
  rw [htold, hnone]
  exact List.append_nil _

/-- On its way an action tells which registered actions are begun. -/
theorem Wanders.told (hdebug : s.options.debug = true)
    (hhooks : ∀ hook ∈ s.afterOpen, hook.Stays s ∧ hook.Logs P) {w w' : World σ}
    {followers : List (Asked σ)} (h : s.Wanders P w followers w') : w'.told tell
      = w.told tell ++ (followers.flatMap (Asked.announced .afterOpen)).filterMap tell :=
  h.told_of_hooks hlogs hoverlooks hdebug fun hook hmem =>
    ⟨(hhooks hook hmem).2, fun _ _ _ _ hrun =>
      told_of_stays hlogs hoverlooks hdebug (hhooks hook hmem).1 (hhooks hook hmem).2.within hrun⟩

end Setting

end Told

/-- What is executed until the next queued action: an action, and registered ones on its way. -/
structure Chapter (σ : Type) where
  head : Asked σ
  followers : List (Asked σ)
  /-- The outside when the action has come to its end. -/
  after : σ

namespace Chapter

/-- The queued action of a chapter. -/
def action (chapter : Chapter σ) : Action σ := chapter.head.action

/-- The actions that are executed in a chapter, in their order. -/
def asked (chapter : Chapter σ) : List (Asked σ) := chapter.head :: chapter.followers

/-- The entries with which they are begun in a session that logs. -/
def entries (chapter : Chapter σ) : List (Entry σ) :=
  chapter.head.announced .main ++ chapter.followers.flatMap (Asked.announced .afterOpen)

/-- What is told of chapters, by what is told of an action that is begun. -/
theorem filterMap_entries {tell : Entry σ → Option β} {f : Asked σ → List β}
    (h : ∀ role asked, (Asked.announced role asked).filterMap tell = f asked)
    (chapters : List (Chapter σ)) :
    (chapters.flatMap entries).filterMap tell = (chapters.flatMap asked).flatMap f := by
  have hchapter (chapter : Chapter σ) :
      chapter.entries.filterMap tell = chapter.asked.flatMap f := by
    rw [entries, List.filterMap_append, h, List.filterMap_flatMap, funext (h .afterOpen), asked,
      List.flatMap_cons]
  rw [List.filterMap_flatMap, funext hchapter, List.flatMap_assoc]

end Chapter

/-- The chapters of queued actions. All actions succeed but perhaps the last, whose stop is then the
answer and because of which the others are skipped. -/
inductive Setting.Recounts (s : Setting σ) (P : LogRecord → Prop) :
    World σ → List (Chapter σ) → (skipped : List (Action σ)) → Except Stop Unit → World σ → Prop
  | done {w : World σ} : Recounts s P w [] [] (.ok ()) w
  | next {w w₁ w₂ : World σ} {action : Action σ} {followers : List (Asked σ)}
      {chapters : List (Chapter σ)} {skipped : List (Action σ)} {answer : Except Stop Unit}
      (succeeds : (s.execute action).run (w.begin s.options.debug .main action) = .ok () w₁)
      (wanders : s.Wanders P (w.begin s.options.debug .main action) followers w₁)
      (rest : Recounts s P w₁ chapters skipped answer w₂) :
      Recounts s P w (⟨⟨action, w.host⟩, followers, w₁.host⟩ :: chapters) skipped answer w₂
  | stopped {w w₁ : World σ} {action : Action σ} {followers : List (Asked σ)}
      {skipped : List (Action σ)} {stop : Stop}
      (stops : (s.execute action).run (w.begin s.options.debug .main action) = .error stop w₁)
      (wanders : s.Wanders P (w.begin s.options.debug .main action) followers w₁) :
      Recounts s P w [⟨⟨action, w.host⟩, followers, w₁.host⟩] skipped (.error stop)
        (s.afterStop action skipped.length stop w₁)

/-- The line about the action with which a run fails, if it fails with one. The action is asked for
its own line once more. -/
def Chapter.failureLines (chapters : List (Chapter σ)) (skipped : Nat) :
    Except Stop Unit → List String
  | .error (.failed failure) => (chapters.getLast?.map fun chapter =>
      Setting.failureLine (chapter.action.line chapter.after) skipped failure).toList
  | .ok _ | .error .clockOverflow | .error .exhausted => []

namespace Setting

variable {s : Setting σ} {P : LogRecord → Prop}

/-- Every execution can be told in chapters. -/
theorem Executes.exists_chapters {w w' : World σ} {executed skipped : List (Action σ)}
    {answer : Except Stop Unit} (h : s.Executes w executed skipped answer w')
    (within : ∀ action ∈ executed, action.Within (.logging P)) :
    ∃ chapters : List (Chapter σ), chapters.map Chapter.action = executed ∧
      s.Recounts P w chapters skipped answer w' := by
  induction h with
  | done => exact ⟨[], rfl, .done⟩
  | @next w w₁ w₂ action executed skipped answer succeeds rest ih =>
    obtain ⟨hfirst, hrest⟩ := List.forall_mem_cons.mp within
    obtain ⟨chapters, rfl, recounts⟩ := ih hrest
    obtain ⟨followers, wanders⟩ := wanders_of_run hfirst (Run.ending_of_ok succeeds)
    exact ⟨⟨⟨action, w.host⟩, followers, w₁.host⟩ :: chapters, rfl,
      .next succeeds wanders recounts⟩
  | @stopped w w₁ action skipped stop stops =>
    obtain ⟨followers, wanders⟩ :=
      wanders_of_run (List.forall_mem_singleton.mp within) (Run.ending_of_error stops)
    exact ⟨[⟨⟨action, w.host⟩, followers, w₁.host⟩], rfl, .stopped stops wanders⟩

/-- The line about a failure is about the last chapter. -/
theorem Recounts.failureLines_cons {w w' : World σ} {chapters : List (Chapter σ)}
    {skipped : List (Action σ)} {answer : Except Stop Unit}
    (h : s.Recounts P w chapters skipped answer w') (chapter : Chapter σ) (n : Nat) :
    Chapter.failureLines (chapter :: chapters) n answer
      = Chapter.failureLines chapters n answer := by
  cases answer with
  | ok _ => rfl
  | error stop =>
    obtain ⟨second, rest, rfl⟩ : ∃ second rest, chapters = second :: rest := by
      cases h with
      | next _ _ _ => exact ⟨_, _, rfl⟩
      | stopped _ _ => exact ⟨_, _, rfl⟩
    cases stop <;> simp only [Chapter.failureLines, List.getLast?_cons_cons]

/-- What is told of the action at which a run ends: the line about its failure. -/
theorem told_failure {tell : Entry σ → Option β} (hoverlooks : Entry.Overlooks tell P)
    (hdebug : s.options.debug = true) {action : Action σ} (hlogs : action.Logs P)
    (host : σ) (followers : List (Asked σ)) (skipped : Nat) (stop : Stop) (w : World σ) :
    (s.afterStop action skipped stop w).told tell
      = w.told tell ++ ((Chapter.failureLines [⟨⟨action, host⟩, followers, w.host⟩] skipped
        (.error stop)).map fun text => Entry.logged ⟨.debug, text⟩).filterMap tell := by
  cases stop with
  | failed failure =>
    rw [afterStop, hdebug, World.told_logLine_true hoverlooks hlogs]
    rfl
  | clockOverflow => exact (List.append_nil _).symm
  | exhausted => exact (List.append_nil _).symm

/-- What is told of the chapters: which actions are begun, and which one has failed. -/
theorem Recounts.told {tell : Entry σ → Option β} (hlogs : s.env.Logs P)
    (hoverlooks : Entry.Overlooks tell P) (hdebug : s.options.debug = true)
    (hhooks : ∀ hook ∈ s.afterOpen, hook.Stays s ∧ hook.Logs P) {w w' : World σ}
    {chapters : List (Chapter σ)} {skipped : List (Action σ)} {answer : Except Stop Unit}
    (h : s.Recounts P w chapters skipped answer w')
    (hactions : ∀ chapter ∈ chapters, chapter.action.Logs P) : w'.told tell
      = w.told tell ++ (chapters.flatMap Chapter.entries ++
        (Chapter.failureLines chapters skipped.length answer).map
          fun text => Entry.logged ⟨.debug, text⟩).filterMap tell := by
  have hchapter {w w₁ : World σ} {action : Action σ} {followers : List (Asked σ)} (after : σ)
      (haction : action.Logs P)
      (wanders : s.Wanders P (w.begin s.options.debug .main action) followers w₁) :
      w₁.told tell = w.told tell
        ++ (Chapter.entries ⟨⟨action, w.host⟩, followers, after⟩).filterMap tell := by
    rw [wanders.told hlogs hoverlooks hdebug hhooks, hdebug,
      World.told_begin_true hoverlooks haction, Chapter.entries, List.filterMap_append,
      List.append_assoc]
  induction h with
  | done => exact (List.append_nil _).symm
  | @next w w₁ w₂ action followers chapters skipped answer succeeds wanders rest ih =>
    obtain ⟨hfirst, hrest⟩ := List.forall_mem_cons.mp hactions
    have hbegun := hchapter w₁.host (show action.Logs P from hfirst) wanders
    rw [ih hrest, hbegun, rest.failureLines_cons, List.flatMap_cons, List.append_assoc,
      List.append_assoc, List.filterMap_append (l := Chapter.entries _)]
  | @stopped w w₁ action followers skipped stop stops wanders =>
    have hfirst : action.Logs P := hactions _ List.mem_cons_self
    rw [told_failure hoverlooks hdebug hfirst w.host followers, hchapter w₁.host hfirst wanders,
      List.flatMap_singleton, List.append_assoc, List.filterMap_append]

end Setting

namespace Scene

/-- The launches that a run of the session attempts: one, unless the session is closed or its engine
is running. -/
def attempts (scene : Scene σ) : List LaunchParams :=
  if scene.session.isClosed || scene.session.hasEngine then []
  else [scene.session.options.launchParams]

/-- The course of a run, told in chapters. -/
inductive Recounts (env : Environment σ) (P : LogRecord → Prop) (budget : Nat) (scene : Scene σ) :
    List (Chapter σ) → (skipped : List (Action σ)) → Except Stop Unit → Scene σ → Prop
  /-- Engine and page cannot be got ready; there is nothing to tell. -/
  | unprepared {stop : Stop} {scene' : Scene σ}
      (prepares : scene.Prepares env (.error stop) scene') :
      Recounts env P budget scene [] scene.session.queue.toList (.error stop) scene'
  /-- The queue is emptied, and what was in it is told. -/
  | prepared {ready : Scene σ} {chapters : List (Chapter σ)} {skipped : List (Action σ)}
      {answer : Except Stop Unit} {w : World σ} (prepares : scene.Prepares env (.ok ()) ready)
      (queued : ready.session.queue.toList = chapters.map Chapter.action ++ skipped)
      (recounts : (setting env ready.session budget).Recounts P ready.world chapters skipped answer
        w) :
      Recounts env P budget scene chapters skipped answer ⟨{ ready.session with queue := {} }, w⟩

/-- The entries by which a run is to be told from what actions do by themselves: the launch with the
line before it, the actions that are begun with their lines, and the line about a failure. -/
def transcript (scene : Scene σ) (launched : Bool) (chapters : List (Chapter σ)) (skipped : Nat)
    (answer : Except Stop Unit) : List (Entry σ) :=
  (scene.attempts.flatMap fun params =>
      [.logged ⟨.debug, launchLine params⟩, .launched params launched]) ++
    (chapters.flatMap Chapter.entries ++
      (Chapter.failureLines chapters skipped answer).map fun text => Entry.logged ⟨.debug, text⟩)

variable {env : Environment σ} {P : LogRecord → Prop} {scene scene' : Scene σ}
  {chapters : List (Chapter σ)} {skipped : List (Action σ)} {answer : Except Stop Unit}

/-- Every run can be told in chapters, and what was queued has a chapter or is skipped. -/
theorem Runs.exists_chapters {budget : Nat} (h : scene.Runs env budget answer scene')
    (within : ∀ action ∈ scene.session.queue.toList, action.Within (.logging P)) :
    ∃ (chapters : List (Chapter σ)) (skipped : List (Action σ)),
      scene.session.queue.toList = chapters.map Chapter.action ++ skipped ∧
      scene.Recounts env P budget chapters skipped answer scene' := by
  cases h with
  | unprepared prepares => exact ⟨[], _, rfl, .unprepared prepares⟩
  | prepared prepares queued executes =>
    rw [prepares.queue_eq] at queued
    obtain ⟨chapters, rfl, recounts⟩ := executes.exists_chapters fun action hmem =>
      within action (queued ▸ List.mem_append_left _ hmem)
    exact ⟨chapters, _, queued, .prepared prepares (prepares.queue_eq ▸ queued) recounts⟩

section Told

variable {tell : Entry σ → Option β} (hlogs : env.Logs P)
  (hoverlooks : Entry.Overlooks tell P) (hdebug : scene.session.options.debug = true)

include hlogs hoverlooks hdebug

/-- A launch that is attempted tells of its line and of itself. -/
theorem told_doLaunch (hopen : scene.session.isClosed = false)
    (hengine : scene.session.hasEngine = false) {w : World σ}
    (h : (env.doLaunch scene.session.options.launchParams).run scene.launching
      = Run.ending answer w) :
    w.told tell
      = scene.world.told tell ++ (scene.transcript answer.isOk [] 0 (.ok ())).filterMap tell := by
  have hattempts : scene.attempts = [scene.session.options.launchParams] := by
    simp [attempts, hopen, hengine]
  rw [World.told_ask_of_logs (hlogs.launch _) hoverlooks.logged h, launching, hdebug,
    World.told_logDebug_true, transcript, hattempts, List.append_assoc]
  cases hlaunch : tell (.launched scene.session.options.launchParams answer.isOk) <;>
    cases hline : tell (.logged ⟨.debug, launchLine scene.session.options.launchParams⟩) <;>
    simp [Chapter.failureLines, hlaunch, hline]

theorem told_getsEngine (hopen : scene.session.isClosed = false) {w : World σ}
    (h : scene.GetsEngine env w) :
    w.told tell
      = scene.world.told tell ++ (scene.transcript true [] 0 (.ok ())).filterMap tell := by
  rcases h with ⟨hengine, rfl⟩ | ⟨hengine, launched⟩
  · have hattempts : scene.attempts = [] := by simp [attempts, hengine]
    rw [transcript, hattempts]
    exact (List.append_nil _).symm
  · exact told_doLaunch hlogs hoverlooks hdebug hopen hengine (Run.ending_of_ok launched)

/-- What is told of engine and page: the launch, if there is one. -/
theorem told_prepares (h : scene.Prepares env answer scene') : scene'.world.told tell
    = scene.world.told tell
      ++ (scene.transcript scene'.session.hasEngine [] 0 (.ok ())).filterMap tell := by
  have hpage {w w₁ : World σ} {answer : Except Stop Unit}
      (h : env.doCreatePage.run w = Run.ending answer w₁) : w₁.told tell = w.told tell := by
    rw [World.told_ask_of_logs hlogs.createPage hoverlooks.logged h, hoverlooks.createdPage]
    exact List.append_nil _
  cases h with
  | closed hclosed =>
    have hattempts : scene.attempts = [] := by simp [attempts, hclosed]
    rw [transcript, hattempts]
    exact (List.append_nil _).symm
  | unlaunched hopen hengine stops =>
    rw [told_doLaunch hlogs hoverlooks hdebug hopen hengine (Run.ending_of_error stops), hengine]
    rfl
  | unopened hopen engine _ stops =>
    rw [hpage (Run.ending_of_error stops), told_getsEngine hlogs hoverlooks hdebug hopen engine]
  | ready hopen engine page =>
    rw [← told_getsEngine hlogs hoverlooks hdebug hopen engine]
    rcases page with ⟨_, rfl⟩ | ⟨_, opened⟩
    · rfl
    · exact hpage (Run.ending_of_ok opened)

/-- What is told of a run. -/
theorem Recounts.told {budget : Nat}
    (hhooks : ∀ hook ∈ scene.session.afterOpen.toList,
      hook.Stays (setting env scene.session budget) ∧ hook.Logs P)
    (h : scene.Recounts env P budget chapters skipped answer scene')
    (hactions : ∀ chapter ∈ chapters, chapter.action.Logs P) : scene'.world.told tell
      = scene.world.told tell ++ (scene.transcript scene'.session.hasEngine chapters skipped.length
        answer).filterMap tell := by
  cases h with
  | @unprepared stop _ prepares =>
    rw [told_prepares hlogs hoverlooks hdebug prepares]
    cases stop <;> rfl
  | @prepared ready _ _ _ w prepares queued recounts =>
    have hready := told_prepares hlogs hoverlooks hdebug prepares
    rw [prepares.setting_eq] at recounts
    rw [recounts.told hlogs hoverlooks hdebug hhooks hactions, hready, List.append_assoc,
      ← List.filterMap_append, transcript, transcript]
    simp [Chapter.failureLines]

end Told

section Transcript

variable (scene : Scene σ) (launched : Bool) (chapters : List (Chapter σ)) (skipped : Nat)
  (answer : Except Stop Unit)

/-- What is told of a transcript, by what is told of a launch, an action and a line. -/
theorem filterMap_transcript {tell : Entry σ → Option β} {launches : LaunchParams → List β}
    {begins : Asked σ → List β} {logs : String → Option β}
    (hlaunch : ∀ params, [Entry.logged ⟨.debug, launchLine params⟩,
      .launched params launched].filterMap tell = launches params)
    (hbegin : ∀ role asked, (Asked.announced role asked).filterMap tell = begins asked)
    (hline : ∀ text, tell (.logged ⟨.debug, text⟩) = logs text) :
    (scene.transcript launched chapters skipped answer).filterMap tell
      = scene.attempts.flatMap launches ++ ((chapters.flatMap Chapter.asked).flatMap begins
        ++ (Chapter.failureLines chapters skipped answer).filterMap logs) := by
  rw [transcript, List.filterMap_append, List.filterMap_append, List.filterMap_flatMap,
    funext hlaunch, Chapter.filterMap_entries hbegin, List.filterMap_map]
  exact congrArg (fun logs => _ ++ (_ ++ List.filterMap logs _)) (funext hline)

/-- The lines of a transcript: the launch, the actions in their order, and the failure. -/
theorem debugLines_transcript :
    (scene.transcript launched chapters skipped answer).filterMap Entry.debugLine?
      = scene.attempts.map launchLine ++ ((chapters.flatMap Chapter.asked).map Asked.line
        ++ Chapter.failureLines chapters skipped answer) := by
  rw [scene.filterMap_transcript launched chapters skipped answer
    (fun params => show _ = [launchLine params] from rfl)
    (fun _ asked => show _ = [asked.line] from rfl) (fun text => show _ = some text from rfl)]
  simp only [List.map_eq_flatMap, List.filterMap_some]

/-- The actions of a transcript. -/
theorem begun_transcript :
    (scene.transcript launched chapters skipped answer).filterMap Entry.begun?
      = (chapters.flatMap Chapter.asked).map Asked.action := by
  rw [scene.filterMap_transcript launched chapters skipped answer (fun _ => show _ = [] from rfl)
    (fun _ asked => show _ = [asked.action] from rfl) (fun _ => show _ = none from rfl),
    List.flatMap_eq_nil_iff.mpr fun _ _ => rfl, List.filterMap_eq_nil_iff.mpr fun _ _ => rfl]
  simp only [List.map_eq_flatMap, List.nil_append, List.append_nil]

/-- The launches of a transcript. -/
theorem attempts_transcript :
    (scene.transcript launched chapters skipped answer).filterMap Entry.attempt?
      = scene.attempts := by
  rw [scene.filterMap_transcript launched chapters skipped answer
    (fun params => show _ = [params] from rfl) (fun _ _ => show _ = [] from rfl)
    (fun _ => show _ = none from rfl), List.filterMap_eq_nil_iff.mpr fun _ _ => rfl]
  simp

end Transcript

end Scene

namespace Entry

variable {P : LogRecord → Prop}

theorem overlooks_attempt : Overlooks (attempt? : Entry σ → Option LaunchParams) P where
  called _ _ := rfl
  slept _ _ := rfl
  createdPage _ := rfl
  logged _ _ := rfl

theorem overlooks_begun : Overlooks (begun? : Entry σ → Option (Action σ)) P where
  called _ _ := rfl
  slept _ _ := rfl
  createdPage _ := rfl
  logged _ _ := rfl

theorem overlooks_debugLine (hsilent : ∀ record, P record → record.level ≠ .debug) :
    Overlooks (debugLine? : Entry σ → Option String) P where
  called _ _ := rfl
  slept _ _ := rfl
  createdPage _ := rfl
  logged record hrecord := by
    obtain ⟨level, text⟩ := record
    cases level with
    | debug => exact absurd rfl (hsilent _ hrecord)
    | warn => rfl

end Entry

/-- What a session that logs what it does tells of a run, if no registered action opens a location,
and if neither the outside nor custom code writes lines for debugging: what was queued has been
executed in its order, up to the first action that has not succeeded, and what is behind that one
has been skipped. Moreover,

* every chapter is the course of a queued action, with the registered actions that have followed the
  locations it has opened;
* the engine has been launched unless it was running, and the actions of the chapters are all that
  have been begun;
* the lines for debugging are one about the launch, one for each action that has been executed, in
  their order, and if the run has failed at a queued action, one that has this action, the number of
  those that have been skipped, and the failure. -/
theorem run_narrated {env : Environment σ} {P : LogRecord → Prop} (hlogs : env.Logs P)
    (hsilent : ∀ record, P record → record.level ≠ .debug) (scene : Scene σ) (budget : Nat)
    (hdebug : scene.session.options.debug = true)
    (hqueue : ∀ action ∈ scene.session.queue.toList, action.Logs P)
    (hhooks : ∀ hook ∈ scene.session.afterOpen.toList,
      hook.Stays (Scene.setting env scene.session budget) ∧ hook.Logs P) :
    let step := scene.perform env (.run budget)
    ∃ (chapters : List (Chapter σ)) (skipped : List (Action σ)),
      scene.session.queue.toList = chapters.map Chapter.action ++ skipped ∧
      scene.Recounts env P budget chapters skipped step.answer step.after ∧
      step.after.world.attempts = scene.world.attempts ++ scene.attempts ∧
      step.after.world.begun
        = scene.world.begun ++ (chapters.flatMap Chapter.asked).map Asked.action ∧
      step.after.world.debugLines = scene.world.debugLines
        ++ (scene.attempts.map Scene.launchLine
          ++ ((chapters.flatMap Chapter.asked).map Asked.line
            ++ Chapter.failureLines chapters skipped.length step.answer)) := by
  intro step
  obtain ⟨answer, after, hstep, runs⟩ := scene.perform_run env budget
  obtain ⟨chapters, skipped, hqueued, recounts⟩ :=
    runs.exists_chapters fun action hmem => (hqueue action hmem).within
  have hactions (chapter : Chapter σ) (hmem : chapter ∈ chapters) : chapter.action.Logs P :=
    hqueue _ (hqueued ▸ List.mem_append_left _ (List.mem_map_of_mem hmem))
  rw [show step = ⟨.run budget, scene, answer, after⟩ from hstep]
  refine ⟨chapters, skipped, hqueued, recounts, ?_, ?_, ?_⟩
  · have htold := recounts.told hlogs Entry.overlooks_attempt hdebug hhooks hactions
    exact htold.trans (congrArg (_ ++ ·) (Scene.attempts_transcript _ _ _ _ _))
  · have htold := recounts.told hlogs Entry.overlooks_begun hdebug hhooks hactions
    exact htold.trans (congrArg (_ ++ ·) (Scene.begun_transcript _ _ _ _ _))
  · have htold := recounts.told hlogs (Entry.overlooks_debugLine hsilent) hdebug hhooks hactions
    exact htold.trans (congrArg (_ ++ ·) (Scene.debugLines_transcript _ _ _ _ _))

/-- A custom action that looks at the page; it has seen enough after three locations. -/
def Action.look : Action Simulation.EngineStage :=
  .custom "look" "look" (.observe fun stage =>
    if stage.events.size < 8 then .done else .fail .noSelection)

/-- A session on a simulated engine, with a custom action that opens two locations. -/
def Scene.tour : Scene Simulation.EngineStage where
  session :=
    { options := { debug := true }
      queue := ⟨[.custom "tour" "tour" (.perform (.navigate "/a") fun _ =>
          .perform (.navigate "/b") fun _ => .done), .navigate "/home", .screenshot "home.png"]⟩
      afterOpen := ⟨[.viewport 800 600, .look]⟩ }
  world := { host := { parts := {} } }

namespace Scene

/-- Nothing that is queued there writes to the log itself. -/
theorem tour_queue_logs (P : LogRecord → Prop) :
    ∀ action ∈ tour.session.queue.toList, action.Logs P := by
  intro action hmem
  simp only [tour, List.mem_cons, List.not_mem_nil, or_false] at hmem
  rcases hmem with rfl | rfl | rfl
  · exact ⟨⟨trivial, fun _ => ⟨trivial, fun _ => trivial⟩⟩, nofun⟩
  · exact ⟨trivial, nofun⟩
  · exact ⟨trivial, nofun⟩

/-- What is registered there stays, and does not write to the log either. -/
theorem tour_hooks_log (P : LogRecord → Prop) (env : Environment Simulation.EngineStage) :
    ∀ hook ∈ tour.session.afterOpen.toList,
      hook.Stays (setting env tour.session 1) ∧ hook.Logs P := by
  have hlook (L : Licence) : Action.look.Within L := by
    intro stage
    by_cases hearly : stage.events.size < 8 <;> simp only [hearly, if_true, if_false] <;> trivial
  intro hook hmem
  simp only [tour, List.mem_cons, List.not_mem_nil, or_false] at hmem
  rcases hmem with rfl | rfl
  · exact ⟨Action.stays_of_within trivial, trivial, nofun⟩
  · exact ⟨Action.stays_of_within (hlook .staying), hlook (.logging P), nofun⟩

end Scene

/-- After the third location a registered action fails. -/
theorem run_narrated_tour :
    let step := Scene.tour.perform Simulation.environment (.run 1)
    Simulation.environment.Logs (fun _ => False) ∧
    (∀ record : LogRecord, False → record.level ≠ .debug) ∧
    Scene.tour.session.options.debug = true ∧
    (∀ action ∈ Scene.tour.session.queue.toList, action.Logs fun _ => False) ∧
    (∀ hook ∈ Scene.tour.session.afterOpen.toList,
      hook.Stays (Scene.setting Simulation.environment Scene.tour.session 1) ∧
        hook.Logs fun _ => False) ∧
    (∃ (chapters : List (Chapter Simulation.EngineStage))
        (skipped : List (Action Simulation.EngineStage)),
      Scene.tour.session.queue.toList = chapters.map Chapter.action ++ skipped ∧
      step.after.world.debugLines = Scene.tour.world.debugLines
        ++ (Scene.tour.attempts.map Scene.launchLine
          ++ ((chapters.flatMap Chapter.asked).map Asked.line
            ++ Chapter.failureLines chapters skipped.length step.answer))) ∧
    step.after.world.debugLines.tail = ["tour", "viewport(800x600)", "look", "viewport(800x600)",
      "look", "open(/home)", "viewport(800x600)", "look",
      "open(/home) failed, skipping 1 queued action(s): Nothing is selected"] := by
  have hsilent (record : LogRecord) : False → record.level ≠ .debug := nofun
  have hqueue := Scene.tour_queue_logs fun _ => False
  have hhooks := Scene.tour_hooks_log (fun _ => False) Simulation.environment
  obtain ⟨chapters, skipped, hqueued, -, -, -, hlines⟩ :=
    run_narrated (Simulation.environment_logs _) hsilent Scene.tour 1 rfl hqueue hhooks
  exact ⟨Simulation.environment_logs _, hsilent, rfl, hqueue, hhooks,
    ⟨chapters, skipped, hqueued, hlines⟩, by decide +kernel⟩

/-- A session with a custom action that logs a line for debugging and opens a location. -/
def Scene.errand : Scene Simulation.EngineStage where
  session :=
    { options := { debug := true }
      queue := ⟨[.named "errand" (.log ⟨.debug, "inside"⟩
        (.perform (.navigate "/x") fun _ => .done))]⟩
      afterOpen := ⟨[.viewport 800 600]⟩ }
  world := { host := { parts := {} } }

/-- The run succeeds, it opens a location and begins two actions. But there is a line more than
these tell, and the line of the registered action follows none about the location. -/
theorem run_not_narrated_errand :
    let step := Scene.errand.perform Simulation.environment (.run 1)
    Scene.errand.session.options.debug = true ∧ step.answer.isOk = true ∧
    .called (.navigate "/x") true ∈ step.after.world.journal ∧
    step.after.world.begun.map Action.describe = ["errand", "viewport(800x600)"] ∧
    step.after.world.debugLines.tail = ["errand", "inside", "viewport(800x600)"] ∧
    (Action.navigate "/x" : Action Simulation.EngineStage).describe
      ∉ step.after.world.debugLines := by
  intro step
  have hvisit : step.after.world.journal[6]? = some (.called (.navigate "/x") true) := rfl
  exact ⟨rfl, by decide +kernel, Array.mem_of_getElem? hvisit, by decide +kernel⟩

end PagePilot
