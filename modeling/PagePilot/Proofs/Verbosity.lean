import Mathlib.Data.List.Forall2
import PagePilot.Proofs.Evaluation
import PagePilot.Proofs.Matching
import PagePilot.Proofs.Operation
import PagePilot.Proofs.Warnings

/-!
# Lines for debugging make no difference

A session that logs what it does, and its twin that keeps quiet, meet the same outside. Whatever is
done with both, they answer the same and do the same to the outside. Their journals differ in lines
for debugging only, and each line of the quiet one has been written by the outside or by custom
code.

This asks something of custom actions: they may not look at the flag, and to ask one for its line,
which only the session that logs does, may change nothing.

## Main definitions

- `World.doings`, `World.records` - what a journal tells but for lines for debugging, and its lines
- `Action.IgnoresDebug`, `Action.Discreet` - neither what an action does nor that its line is asked
  for makes a difference
- `Action.Unaware` - neither does, so that the action may as well be in a session that logs
- `Action.Unobtrusive`, `Session.Unobtrusive` - moreover, what is logged is of a kind
- `Operation.Brings` - custom actions and callbacks that come with an operation are of a kind
- `World.Quieter`, `Scene.Quieter` - two worlds, two sessions, of which the one keeps quiet
- `Step.Agrees` - the same has been done, in the same way

## Main statements

- `Operation.matches_toRun` - one operation, performed in both
- `debug_makes_no_difference` - all of them, one after the other
-/

namespace PagePilot

variable {σ α : Type}

/-- The entry, unless it is a line for debugging. -/
def Entry.doing? : Entry σ → Option (Entry σ)
  | .logged ⟨.debug, _⟩ => none
  | entry => some entry

/-- Everything that the journal tells but for lines for debugging. -/
def World.doings (w : World σ) : List (Entry σ) := w.told Entry.doing?

/-- The line of the log that an entry is. -/
def Entry.record? : Entry σ → Option LogRecord
  | .logged record => some record
  | _ => none

/-- The lines of the log. -/
def World.records (w : World σ) : List LogRecord := w.told Entry.record?

/-- The outside is the same to both worlds, and so are the journals but for lines for debugging. The
lines of the first one are of a kind. -/
structure World.Quieter (P : LogRecord → Prop) (quiet loud : World σ) : Prop where
  host_eq : loud.host = quiet.host
  doings_eq : loud.doings = quiet.doings
  kind : ∀ record ∈ quiet.records, P record

namespace World

variable {P : LogRecord → Prop} {quiet loud : World σ}

theorem Quieter.update (h : quiet.Quieter P loud) (change : σ → σ) :
    Quieter P { quiet with host := change quiet.host } { loud with host := change loud.host } :=
  ⟨congrArg change h.host_eq, h.doings_eq, h.kind⟩

/-- The same entries at the end of both journals. -/
theorem Quieter.append (h : quiet.Quieter P loud) (host : σ) (added : Array (Entry σ))
    (hadded : ∀ record, .logged record ∈ added → P record) :
    Quieter P ⟨host, quiet.journal ++ added⟩ ⟨host, loud.journal ++ added⟩ := by
  refine ⟨rfl, ?_, ?_⟩
  · rw [doings, doings, told_append, told_append]
    exact congrArg (· ++ _) h.doings_eq
  · intro record hrecord
    rw [records, told_append] at hrecord
    rcases List.mem_append.mp hrecord with hold | hnew
    · exact h.kind record hold
    · obtain ⟨entry, hentry, hlogged⟩ := List.mem_filterMap.mp hnew
      cases entry with
      | logged line =>
        cases hlogged
        exact hadded record (by simpa using hentry)
      | _ => cases hlogged

/-- Entries that only the second world takes down, all of them lines for debugging. -/
theorem Quieter.loud_append (h : quiet.Quieter P loud) (added : Array (Entry σ))
    (hadded : ∀ entry ∈ added, entry.doing? = none) :
    Quieter P quiet ⟨loud.host, loud.journal ++ added⟩ :=
  ⟨h.host_eq, (told_eq_of_added rfl hadded).trans h.doings_eq, h.kind⟩

/-- A line for debugging, which only the second world takes down. -/
theorem Quieter.logDebug (h : quiet.Quieter P loud) (text text' : String) :
    Quieter P (quiet.logDebug false text) (loud.logDebug true text') := by
  rw [logDebug_eq true]
  refine h.loud_append _ fun entry hentry => ?_
  rw [mem_debugEntries hentry]
  rfl

end World

/-- Asked for its line, the action leaves the outside alone and logs lines for debugging at most. -/
def Action.Discreet (action : Action σ) : Prop :=
  ∀ host, action.afterLine host = host ∧ ∀ record ∈ action.asides host, record.level = .debug

theorem Action.discreet_of_builtin {action : Action σ}
    (h : ∀ name line body, action ≠ .custom name line body) : action.Discreet := by
  intro host
  rw [afterLine, asides, action.tell_of_builtin h]
  exact ⟨rfl, fun _ hrecord => absurd hrecord List.not_mem_nil⟩

namespace World

variable {P : LogRecord → Prop} {quiet loud : World σ} {action : Action σ}

/-- A line about an action, which only the second world takes down. -/
theorem Quieter.logLine (h : quiet.Quieter P loud) (discreet : action.Discreet)
    (text text' : String → String) :
    Quieter P (quiet.logLine false action text) (loud.logLine true action text') := by
  obtain ⟨hhost, hasides⟩ := discreet loud.host
  rw [logLine_eq true, show lineHost true action loud.host = loud.host from hhost]
  refine h.loud_append _ fun entry hentry => ?_
  obtain ⟨record, rfl, hrecord⟩ := mem_lineEntries hentry
  have hlevel : record.level = .debug := by
    rcases hrecord with haside | rfl
    · exact hasides record haside
    · rfl
  obtain ⟨level, line⟩ := record
  cases hlevel
  rfl

theorem Quieter.begin (h : quiet.Quieter P loud) (role : Role) (discreet : action.Discreet) :
    Quieter P (quiet.begin false role action) (loud.begin true role action) := by
  have hbegan : ∀ record, Entry.logged record ∈ #[Entry.began role action] → P record := by
    simp
  refine Quieter.logLine ?_ discreet _ _
  rw [note, note, ← Array.append_singleton, ← Array.append_singleton, h.host_eq]
  exact h.append quiet.host _ hbegan

/-- A run that only depends on the outside, made in both worlds. -/
theorem matches_of_appends {run : Run (World σ) α}
    (h : run.Appends fun entry => ∀ record, entry = .logged record → P record) :
    Run.Matches (Quieter P) run run := by
  rintro ⟨host, journal⟩ ⟨host', journal'⟩ hquieter
  obtain rfl : host = host' := hquieter.host_eq.symm
  obtain ⟨answer, after, added, hadded, hends⟩ := h host
  exact ⟨answer, _, _, hends journal, hends journal',
    hquieter.append after added fun record hmem => hadded _ hmem record rfl⟩

/-- A call to the outside, made in both worlds. -/
theorem matches_ask {call : Host Failure σ α} {entry : Bool → Entry σ} (h : Host.Logs P call)
    (hentry : ∀ succeeded, (entry succeeded).record? = none) :
    Run.Matches (Quieter P) (World.ask call entry) (World.ask call entry) := by
  refine matches_of_appends fun host => ?_
  have hadded {lines : List LogRecord} (hlines : ∀ record ∈ lines, P record) (succeeded : Bool) :
      ∀ e ∈ (lines.map Entry.logged).toArray.push (entry succeeded),
        ∀ record, e = .logged record → P record := by
    rintro _ hmem record rfl
    rcases Array.mem_push.mp hmem with hline | heq
    · exact hlines record (by simpa using hline)
    · exact absurd ((congrArg Entry.record? heq).trans (hentry succeeded))
        (Option.some_ne_none record)
  cases hcall : call.run { host := host } with
  | ok a after =>
    exact ⟨.ok a, _, _, hadded (h.of_ok (by simp) hcall) true, ask_of_ok hcall entry⟩
  | error fault after =>
    exact ⟨.error (.ofFault fault), _, _, hadded (h.of_error (by simp) hcall) false,
      ask_of_error hcall entry⟩

end World

/-- Everything that an action does, done in both worlds. -/
theorem Environment.Logs.respects {P : LogRecord → Prop} {env : Environment σ} (h : env.Logs P) :
    (Licence.logging P).Respects env fun _ => Run.Matches (World.Quieter P) where
  pure a := .pure a
  fail failure := .throw (.failed failure)
  exhausted := .throw .exhausted
  bind hrun hnext := hrun.bind hnext
  attempt hrun := hrun.attempt
  call call _ := World.matches_ask (h.call call) fun _ => rfl
  read := World.matches_of_appends (.of_silent fun host =>
    ⟨.ok (env.now host).1, (env.now host).2, fun _ => rfl⟩)
  sleep d := World.matches_ask (h.sleep d) fun _ => rfl
  observe := World.matches_of_appends (.of_silent fun host => ⟨.ok host, host, fun _ => rfl⟩)
  aside _ hlogs := World.matches_of_appends (World.aside_appends fun host record hmem _ heq =>
    Entry.logged.inj heq ▸ hlogs host record hmem)

mutual

/-- The action takes no notice of whether the session logs what it does. -/
def Action.IgnoresDebug : Action σ → Prop
  | .custom _ _ body => body.IgnoresDebug
  | .click _ _ | .setValue _ _ | .navigate _ | .viewport _ _ | .screenshot _ | .delay _
  | .waitForSelector _ | .waitForFunction _ _ | .eval _ _ _ | .check _ | .refused _ => True

/-- The routine takes no notice of whether the session logs what it does. -/
def Routine.IgnoresDebug : Routine σ → Prop
  | .done | .fail _ => True
  | .call _ next => ∀ answer, (next answer).IgnoresDebug
  | .perform action next => action.IgnoresDebug ∧ ∀ result, (next result).IgnoresDebug
  | .options next => ∀ options : SessionOptions,
      (∀ on, next (options.withDebug on) = next options) ∧ (next options).IgnoresDebug
  | .now next => ∀ time, (next time).IgnoresDebug
  | .sleep _ next => next.IgnoresDebug
  | .observe next => ∀ host, (next host).IgnoresDebug
  | .update _ next => next.IgnoresDebug
  | .log _ next => next.IgnoresDebug

end

/-- The session may as well log what it does: the action takes no notice, and its line is
discreet. -/
structure Action.Unaware (action : Action σ) : Prop where
  ignores : action.IgnoresDebug
  discreet : action.Discreet

/-- An action of which the session may as well log what it does. What it logs itself is of a
kind. -/
structure Action.Unobtrusive (P : LogRecord → Prop) (action : Action σ) : Prop
    extends action.Unaware where
  within : action.Within (.logging P)

/-- The setting of a session that logs what it does, or of one that does not. -/
def Setting.withDebug (s : Setting σ) (on : Bool) : Setting σ :=
  { s with options := s.options.withDebug on }

section Equal

variable (s : Setting σ) (on : Bool) (navigate : String → Run (World σ) Unit)

mutual

/-- By itself, the action does not log. -/
theorem Action.execute_withDebug :
    ∀ action : Action σ, action.IgnoresDebug →
      action.execute (s.withDebug on) navigate = action.execute s navigate
  | .click _ _, _ | .setValue _ _, _ | .viewport _ _, _ | .screenshot _, _ | .delay _, _
  | .waitForSelector _, _ | .waitForFunction _ _, _ | .eval _ _ _, _ | .check _, _ => by
    rw [Action.execute, Action.execute]
    rfl
  | .navigate _, _ | .refused _, _ => by
    rw [Action.execute, Action.execute]
  | .custom _ _ body, ignores => by
    rw [Action.execute, Action.execute]
    exact body.execute_withDebug ignores

theorem Routine.execute_withDebug :
    ∀ routine : Routine σ, routine.IgnoresDebug →
      routine.execute (s.withDebug on) navigate = routine.execute s navigate
  | .done, _ | .fail _, _ => by
    rw [Routine.execute, Routine.execute]
  | .call call next, ignores => by
    rw [Routine.execute, Routine.execute]
    exact bind_congr fun answer => (next answer).execute_withDebug (ignores answer)
  | .perform action next, ignores => by
    rw [Routine.execute, Routine.execute, action.execute_withDebug ignores.1]
    exact bind_congr fun result => (next result).execute_withDebug (ignores.2 result)
  | .options next, ignores => by
    have hnext : next (s.withDebug on).options = next s.options := (ignores s.options).1 on
    rw [Routine.execute, Routine.execute, hnext]
    exact (next s.options).execute_withDebug (ignores s.options).2
  | .now next, ignores => by
    rw [Routine.execute, Routine.execute]
    exact bind_congr fun time => (next time).execute_withDebug (ignores time)
  | .sleep duration next, ignores => by
    rw [Routine.execute, Routine.execute]
    exact bind_congr fun _ => next.execute_withDebug ignores
  | .observe next, ignores => by
    rw [Routine.execute, Routine.execute]
    exact bind_congr fun host => (next host).execute_withDebug (ignores host)
  | .update _ next, ignores | .log _ next, ignores => by
    rw [Routine.execute, Routine.execute]
    exact bind_congr fun _ => next.execute_withDebug ignores

end

end Equal

namespace Setting

variable {P : LogRecord → Prop} {s : Setting σ}

theorem matches_trace (role : Role) {action : Action σ} (discreet : action.Discreet) :
    Run.Matches (World.Quieter P) ((s.withDebug false).trace role action)
      ((s.withDebug true).trace role action) :=
  .modify fun _ _ h => h.begin role discreet

theorem matches_followUp {execute execute' : Action σ → Run (World σ) Unit}
    {hooks : List (Action σ)}
    (h : ∀ action ∈ hooks, action.Discreet ∧
      Run.Matches (World.Quieter P) (execute action) (execute' action)) :
    Run.Matches (World.Quieter P) ((s.withDebug false).followUp execute hooks)
      ((s.withDebug true).followUp execute' hooks) := by
  induction hooks with
  | nil => exact .pure ()
  | cons hook rest ih =>
    obtain ⟨⟨discreet, hhook⟩, hrest⟩ := List.forall_mem_cons.mp h
    exact (matches_trace .afterOpen discreet).bind fun _ => hhook.bind fun _ => ih hrest

variable (h : s.env.Logs P)

include h

/-- An action does the same in both settings if its navigations do. -/
theorem matches_execute_of_navigate {navigate navigate' : String → Run (World σ) Unit}
    (hnavigate : ∀ location, Run.Matches (World.Quieter P) (navigate location) (navigate' location))
    {action : Action σ} (unaware : action.Unobtrusive P) :
    Run.Matches (World.Quieter P) (action.execute (s.withDebug false) navigate)
      (action.execute (s.withDebug true) navigate') := by
  rw [action.execute_withDebug s false navigate unaware.ignores,
    action.execute_withDebug s true navigate' unaware.ignores]
  exact action.execute_related h.respects rfl rfl rfl (fun location _ => hnavigate location)
    unaware.within

variable (hhooks : ∀ action ∈ s.afterOpen, action.Unobtrusive P)

include hhooks

theorem matches_navigate (rounds : Nat) (location : String) :
    Run.Matches (World.Quieter P) ((s.withDebug false).navigate rounds location)
      ((s.withDebug true).navigate rounds location) := by
  -- a registered action may navigate in its turn, with a round less
  induction rounds generalizing location with
  | zero => exact .throw .exhausted
  | succ rounds ih =>
    refine (World.matches_ask (h.call _) fun _ => rfl).bind fun _ => ?_
    exact matches_followUp fun action hmem =>
      ⟨(hhooks action hmem).discreet, matches_execute_of_navigate h ih (hhooks action hmem)⟩

theorem matches_executeMain {action : Action σ} (unaware : action.Unobtrusive P) (skipped : Nat) :
    Run.Matches (World.Quieter P) ((s.withDebug false).executeMain action skipped)
      ((s.withDebug true).executeMain action skipped) := by
  have hexecute := matches_execute_of_navigate h (matches_navigate h hhooks s.budget) unaware
  exact hexecute.onFailure fun failure _ _ hquieter => hquieter.logLine unaware.discreet _ _

theorem matches_executeAll {actions : List (Action σ)}
    (hactions : ∀ action ∈ actions, action.Unobtrusive P) :
    Run.Matches (World.Quieter P) ((s.withDebug false).executeAll actions)
      ((s.withDebug true).executeAll actions) := by
  induction actions with
  | nil => exact .pure ()
  | cons action rest ih =>
    obtain ⟨hfirst, hrest⟩ := List.forall_mem_cons.mp hactions
    refine (matches_trace .main hfirst.discreet).bind fun _ => ?_
    exact (matches_executeMain h hhooks hfirst rest.length).bind fun _ => ih hrest

end Setting

/-- The session, logging what it does or not. -/
def Session.withDebug (s : Session σ) (on : Bool) : Session σ :=
  { s with options := s.options.withDebug on }

/-- To all actions of the session it makes no difference whether it logs what it does. -/
structure Session.Unobtrusive (P : LogRecord → Prop) (s : Session σ) : Prop where
  queue : ∀ action ∈ s.queue.toList, action.Unobtrusive P
  afterOpen : ∀ action ∈ s.afterOpen.toList, action.Unobtrusive P

/-- The same session in both scenes, but that it keeps quiet in the first one. -/
inductive Scene.Quieter (P : LogRecord → Prop) : Scene σ → Scene σ → Prop
  | mk {session : Session σ} {w w' : World σ} (unaware : session.Unobtrusive P)
      (worlds : w.Quieter P w') :
      Quieter P ⟨session.withDebug false, w⟩ ⟨session.withDebug true, w'⟩

namespace Scene

variable {P : LogRecord → Prop}

theorem matches_inWorld {run run' : Run (World σ) α}
    (h : Run.Matches (World.Quieter P) run run') :
    Run.Matches (Quieter P) (inWorld run) (inWorld run') := by
  rintro _ _ ⟨unaware, worlds⟩
  obtain ⟨answer, v, v', hrun, hrun', hv⟩ := h _ _ worlds
  cases answer with
  | ok a => exact ⟨.ok a, _, _, run_inWorld_of_ok hrun, run_inWorld_of_ok hrun', .mk unaware hv⟩
  | error stop =>
    exact ⟨.error stop, _, _, run_inWorld_of_error hrun, run_inWorld_of_error hrun',
      .mk unaware hv⟩

/-- A change that does not concern the flag. -/
theorem matches_change {f : Session σ → Session σ}
    (hflag : ∀ session on, f (session.withDebug on) = (f session).withDebug on)
    (hunaware : ∀ session, session.Unobtrusive P → (f session).Unobtrusive P) :
    Run.Matches (Quieter P) (change f) (change f) := by
  refine .modify ?_
  rintro _ _ ⟨unaware, worlds⟩
  rw [hflag, hflag]
  exact .mk (hunaware _ unaware) worlds

theorem matches_enqueue {actions : List (Action σ)}
    (h : ∀ action ∈ actions, action.Unobtrusive P) :
    Run.Matches (Quieter P) (enqueue actions) (enqueue actions) :=
  matches_change (fun _ _ => rfl) fun _ unaware =>
    ⟨fun action hmem => (List.mem_append.mp hmem).elim (unaware.queue action) (h action),
      unaware.afterOpen⟩

theorem matches_afterOpen {action : Action σ} (h : action.Unobtrusive P) :
    Run.Matches (Quieter P) (afterOpen action) (afterOpen action) :=
  matches_change (fun _ _ => rfl) fun _ unaware =>
    ⟨unaware.queue, fun hook hmem => (List.mem_append.mp hmem).elim (unaware.afterOpen hook)
      fun hnew => List.mem_singleton.mp hnew ▸ h⟩

/-- A look at the session. -/
theorem matches_get_bind {next : Scene σ → Run (Scene σ) α}
    (h : ∀ (session : Session σ) w w', session.Unobtrusive P → Run.Matches (Quieter P)
      (next ⟨session.withDebug false, w⟩) (next ⟨session.withDebug true, w'⟩)) :
    Run.Matches (Quieter P) (get >>= next) (get >>= next) := by
  refine .get_bind ?_
  rintro _ _ ⟨unaware, -⟩
  exact h _ _ _ unaware

variable {env : Environment σ} (h : env.Logs P)

include h

theorem matches_ensureEngine : Run.Matches (Quieter P) (ensureEngine env) (ensureEngine env) := by
  refine matches_get_bind fun session w w' _ => .ite (fun _ => .pure ()) fun _ => ?_
  -- the line about the launch is the only difference
  refine (matches_inWorld (.modify fun _ _ worlds => worlds.logDebug _ _)).bind fun _ => ?_
  refine (matches_inWorld (World.matches_ask (h.launch _) fun _ => rfl)).bind fun _ => ?_
  exact matches_change (fun _ _ => rfl) fun _ unaware => ⟨unaware.queue, unaware.afterOpen⟩

theorem matches_ensurePage : Run.Matches (Quieter P) (ensurePage env) (ensurePage env) := by
  refine matches_get_bind fun session w w' _ => .ite (fun _ => .pure ()) fun _ =>
    .ite (fun _ => ?_) fun _ => .throw _
  refine (matches_inWorld (World.matches_ask h.createPage fun _ => rfl)).bind fun _ => ?_
  exact matches_change (fun _ _ => rfl) fun _ unaware => ⟨unaware.queue, unaware.afterOpen⟩

theorem matches_prepare : Run.Matches (Quieter P) (prepare env) (prepare env) :=
  matches_get_bind fun _ _ _ _ => .ite (fun _ => .throw _) fun _ =>
    (matches_ensureEngine h).bind fun _ => matches_ensurePage h

theorem matches_run (budget : Nat) : Run.Matches (Quieter P) (run env budget) (run env budget) := by
  refine (matches_prepare h).bind fun _ => matches_get_bind fun session w w' unaware => ?_
  simp only [Queue.drain]
  refine .bind (matches_change (fun _ _ => rfl) ?_) fun _ => .ite (fun _ => ?_) fun _ => .throw _
  · exact fun _ unaware => ⟨by simp, unaware.afterOpen⟩
  exact matches_inWorld (Setting.matches_executeAll (s := setting env session budget) h
    unaware.afterOpen unaware.queue)

theorem matches_exit : Run.Matches (Quieter P) (exit env) (exit env) := by
  refine matches_get_bind fun session w w' _ => ?_
  refine (matches_change (fun _ _ => rfl) fun _ _ => ⟨by simp, by simp⟩).bind fun _ => ?_
  exact .ite (fun _ => matches_inWorld (World.matches_ask h.exit fun _ => rfl)) fun _ => .pure ()

end Scene

/-- The action has no code of its creator's in it. -/
def Action.IsPlain : Action σ → Prop
  | .custom _ _ _ | .eval _ _ (some _) => False
  | .click _ _ | .setValue _ _ | .navigate _ | .viewport _ _ | .screenshot _ | .delay _
  | .waitForSelector _ | .waitForFunction _ _ | .eval _ _ none | .check _ | .refused _ => True

namespace Action.IsPlain

variable {action : Action σ} (h : action.IsPlain)

include h

theorem unaware : action.Unaware := by
  refine ⟨?_, discreet_of_builtin ?_⟩
  · cases action with
    | custom name line body => exact h.elim
    | _ => trivial
  · rintro name line body rfl
    exact h

theorem within_logging (P : LogRecord → Prop) : action.Within (.logging P) := by
  cases action with
  | custom name line body => exact h.elim
  | click mode selector =>
    cases mode with
    | dispatch => trivial
    | mouse => exact ⟨trivial, fun _ _ => trivial⟩
  | eval function args receive =>
    cases receive with
    | none => exact ⟨trivial, nofun⟩
    | some receive => exact h.elim
  | _ => trivial

end Action.IsPlain

/-- Custom actions and callbacks that come with the verb are of a kind. -/
def Verb.Brings (p : Action σ → Prop) : Verb σ → Prop
  | .enqueue action => p action
  | .eval function args receive => p (.eval function args receive)
  | .onSelection _ | .navigate _ | .viewport _ _ | .screenshot _ | .wait _ | .testElement _ _
  | .testFunction _ _ _ => True

/-- Custom actions and callbacks that come with the operation are of a kind. -/
def Operation.Brings (p : Action σ → Prop) : Operation σ → Prop
  | .enqueue action | .afterOpen action => p action
  | .tell _ verb => verb.Brings p
  | .run _ | .exit | .meanwhile _ => True

/-- Of two kinds together. -/
theorem Operation.Brings.and {p q r : Action σ → Prop} (hand : ∀ action, p action → q action →
    r action) {operation : Operation σ} (hp : operation.Brings p) (hq : operation.Brings q) :
    operation.Brings r := by
  cases operation with
  | enqueue action => exact hand action hp hq
  | afterOpen action => exact hand action hp hq
  | tell scope verb =>
    cases verb with
    | enqueue action => exact hand action hp hq
    | eval function args receive => exact hand _ hp hq
    | _ => trivial
  | _ => trivial

namespace Scope

theorem targeted_isPlain (scope : Scope) (explicit : Option String) (verb : ElementVerb) :
    (scope.targeted explicit verb : Action σ).IsPlain := by
  rw [targeted]
  cases scope.resolve explicit with
  | error failure => trivial
  | ok selector => cases verb <;> trivial

theorem wait_isPlain (scope : Scope) (target : WaitTarget) :
    (scope.wait target : Action σ).IsPlain := by
  cases target with
  | delay duration => trivial
  | selector selector => exact scope.targeted_isPlain _ _
  | function source =>
    rw [wait]
    split <;> trivial

variable (scope : Scope) (options : SessionOptions) (verb : Verb σ)

theorem actions_withDebug (on : Bool) :
    scope.actions (options.withDebug on) verb = scope.actions options verb := by
  cases verb <;> rfl

/-- What a verb becomes is of a kind that all plain actions are of, if what comes with it is. -/
theorem actions_of_brings {p : Action σ → Prop} (hplain : ∀ action : Action σ, action.IsPlain →
    p action) (h : verb.Brings p) : ∀ action ∈ scope.actions options verb, p action := by
  cases verb with
  | enqueue action => exact List.forall_mem_singleton.mpr h
  | onSelection verb =>
    exact List.forall_mem_singleton.mpr (hplain _ (scope.targeted_isPlain _ _))
  | eval function args receive => exact List.forall_mem_singleton.mpr h
  | navigate location =>
    exact List.forall_mem_cons.mpr
      ⟨hplain _ trivial, List.forall_mem_singleton.mpr (hplain _ trivial)⟩
  | viewport width height =>
    refine List.forall_mem_singleton.mpr (hplain _ ?_)
    rw [viewport]
    split <;> trivial
  | screenshot path => exact List.forall_mem_singleton.mpr (hplain _ trivial)
  | wait target => exact List.forall_mem_singleton.mpr (hplain _ (scope.wait_isPlain _))
  | testElement test check =>
    exact List.forall_mem_singleton.mpr (hplain _ (scope.targeted_isPlain _ _))
  | testFunction test function args => exact List.forall_mem_singleton.mpr (hplain _ trivial)

end Scope

section Histories

variable {P : LogRecord → Prop} {env : Environment σ}

theorem Operation.matches_toRun (h : env.Logs P) {operation : Operation σ}
    (brings : operation.Brings (Action.Unobtrusive P)) :
    Run.Matches (Scene.Quieter P) (operation.toRun env) (operation.toRun env) := by
  cases operation with
  | enqueue action => exact Scene.matches_enqueue (List.forall_mem_singleton.mpr brings)
  | afterOpen action => exact Scene.matches_afterOpen brings
  | tell scope verb =>
    refine Scene.matches_get_bind fun session w w' _ => ?_
    simp only [Session.withDebug, Scope.actions_withDebug]
    exact Scene.matches_enqueue (scope.actions_of_brings session.options verb
      (fun action hplain => ⟨hplain.unaware, hplain.within_logging P⟩) brings)
  | run budget => exact Scene.matches_run h budget
  | exit => exact Scene.matches_exit h
  | meanwhile change =>
    exact Scene.matches_inWorld (.modify fun _ _ worlds => worlds.update change)

/-- The same operation ends in the same way and leaves the same session, but for the flag, and the
same outside. By then, both have made the same calls with the same outcomes, executed the same
actions and logged the same lines but for those for debugging. -/
structure Step.Agrees (quiet loud : Step σ) : Prop where
  operation_eq : loud.operation = quiet.operation
  answer_eq : loud.answer = quiet.answer
  session_eq : loud.after.session = quiet.after.session.withDebug true
  host_eq : loud.after.world.host = quiet.after.world.host
  doings_eq : loud.after.world.doings = quiet.after.world.doings

namespace Scene

theorem perform_quieter (h : env.Logs P) {quiet loud : Scene σ} (hquieter : quiet.Quieter P loud)
    {operation : Operation σ} (brings : operation.Brings (Action.Unobtrusive P)) :
    (quiet.perform env operation).Agrees (loud.perform env operation) ∧
      (quiet.perform env operation).after.Quieter P (loud.perform env operation).after := by
  obtain ⟨answer, after, after', hrun, hrun', hafter⟩ :=
    operation.matches_toRun h brings quiet loud hquieter
  rw [perform_of_ending env hrun, perform_of_ending env hrun']
  refine ⟨?_, hafter⟩
  cases hafter with
  | mk _ worlds => exact ⟨rfl, rfl, rfl, worlds.host_eq, worlds.doings_eq⟩

theorem Quieter.kind {quiet loud : Scene σ} (h : quiet.Quieter P loud) :
    ∀ record ∈ quiet.world.records, P record := by
  cases h with
  | mk _ worlds => exact worlds.kind

/-- One operation after the other, performed in both scenes. -/
theorem history_quieter (h : env.Logs P) {quiet loud : Scene σ} (hquieter : quiet.Quieter P loud)
    {operations : List (Operation σ)}
    (brings : ∀ operation ∈ operations, operation.Brings (Action.Unobtrusive P)) :
    List.Forall₂
      (fun step step' => (∀ record ∈ step.after.world.records, P record) ∧ step.Agrees step')
      (quiet.history env operations) (loud.history env operations) := by
  induction operations generalizing quiet loud with
  | nil => exact .nil
  | cons operation rest ih =>
    obtain ⟨hfirst, hrest⟩ := List.forall_mem_cons.mp brings
    obtain ⟨agrees, hafter⟩ := perform_quieter h hquieter hfirst
    exact .cons ⟨hafter.kind, agrees⟩ (ih hafter hrest)

theorem start_quieter (P : LogRecord → Prop) (options : SessionOptions) (host : σ) :
    Quieter P (start (options.withDebug false) host) (start (options.withDebug true) host) := by
  have unobtrusive : Session.Unobtrusive P ({ options := options } : Session σ) := ⟨nofun, nofun⟩
  exact .mk unobtrusive ⟨rfl, rfl, nofun⟩

end Scene

/-- Two sessions that differ in whether they log what they do, over the same outside: whatever is
done with both, step by step they agree, if the actions that are brought along take no notice and
tell their lines discreetly. If what the outside and these actions log is of a kind, whatever the
quiet session has logged is. -/
theorem debug_makes_no_difference (env : Environment σ) (options : SessionOptions) (host : σ)
    (operations : List (Operation σ))
    (unaware : ∀ operation ∈ operations, operation.Brings Action.Unaware) :
    let quiet := (Scene.start (options.withDebug false) host).history env operations
    let loud := (Scene.start (options.withDebug true) host).history env operations
    List.Forall₂ Step.Agrees quiet loud ∧
      ∀ P : LogRecord → Prop, env.Logs P →
        (∀ operation ∈ operations, operation.Brings (Action.Within (.logging P))) →
          ∀ step ∈ quiet, ∀ record ∈ step.after.world.records, P record := by
  intro quiet loud
  have hsteps {P : LogRecord → Prop} (hlogs : env.Logs P)
      (within : ∀ operation ∈ operations, operation.Brings (Action.Within (.logging P))) :=
    (List.forall₂_and_left _ _).mp (Scene.history_quieter hlogs
      (Scene.start_quieter P options host) fun operation hmem =>
        (unaware operation hmem).and (fun _ => .mk) (within operation hmem))
  refine ⟨(hsteps env.logs_any fun operation hmem => ?_).2, fun P hlogs within =>
    (hsteps hlogs within).1⟩
  -- of lines of any kind, every action logs nothing else
  exact (unaware operation hmem).and (fun action _ _ => action.within_all) (unaware operation hmem)

/-- A custom action that gives the page the size in the options, with a warning. When it is asked
for its line, it has something to say for debugging. -/
def Action.fitting : Action σ :=
  .custom "Fit"
    (.code do
      Aside.log ⟨.debug, "asked"⟩
      return "fit the page")
    (.options fun options => .log ⟨.warn, "the page changes"⟩
      (.call (.setViewport options.width options.height) fun _ => .done))

/-- A visit that ends with a click in vain. -/
def Operation.visit : List (Operation σ) :=
  [.afterOpen .fitting, .tell .root (.navigate "/start"),
    .tell (Scope.root.select "#go") (.onSelection (.click .dispatch)), .run 1, .exit, .run 1]

theorem Operation.visit_unaware :
    ∀ operation ∈ (visit : List (Operation σ)), operation.Brings Action.Unaware := by
  have hfitting : (Action.fitting : Action σ).Unaware :=
    ⟨fun options => ⟨fun on => rfl, fun answer => trivial⟩,
      fun host => ⟨rfl, fun record hmem => by rw [List.mem_singleton.mp hmem]⟩⟩
  simp [visit, Operation.Brings, Verb.Brings, hfitting]

theorem Operation.visit_within : ∀ operation ∈ (visit : List (Operation σ)),
    operation.Brings (Action.Within (.logging fun record => record.level = .warn)) := by
  have hfitting :
      (Action.fitting : Action σ).Within (.logging fun record => record.level = .warn) :=
    fun options => ⟨rfl, trivial, fun answer => trivial⟩
  simp [visit, Operation.Brings, Verb.Brings, hfitting]

/-- The visit in a browser whose pages answer nothing. -/
def Operation.visited (debug : Bool) : List (Step (Chromium.Machine Unit)) :=
  (Scene.start (SessionOptions.withDebug { proxyAuth := some "guest:guest" } debug)
    ⟨(), none, none⟩).history
    (Chromium.environment (Chromium.Browser.answering none) {} (fun _ => (Duration.zero, ()))
      fun _ => pure ()) visit

/-- The quiet session logs a warning of the browser's and one of the custom action, and nothing
else. -/
theorem debug_makes_no_difference_to_visit :
    (∀ operation ∈ (Operation.visit : List (Operation (Chromium.Machine Unit))),
        operation.Brings Action.Unaware) ∧
      List.Forall₂ Step.Agrees (Operation.visited false) (Operation.visited true) ∧
      (∀ step ∈ Operation.visited false, ∀ record ∈ step.after.world.records,
        record.level = .warn) ∧
      (Operation.visited false).map (·.after.world.records.length) = [0, 0, 0, 2, 2, 2] ∧
      (Operation.visited true).map (·.after.world.records.length) = [0, 0, 0, 9, 9, 9] := by
  obtain ⟨hagrees, hlogged⟩ := debug_makes_no_difference _ { proxyAuth := some "guest:guest" }
    (Chromium.Machine.mk () none none) Operation.visit Operation.visit_unaware
  exact ⟨Operation.visit_unaware, hagrees,
    hlogged _ (Chromium.environment_logs _ _ _ _) Operation.visit_within, by decide +kernel⟩

/-- A custom action that logs a line for debugging, in any session. -/
def Action.chatty : Action σ := .named "chatty" (.log ⟨.debug, "inside"⟩ .done)

/-- A custom action that tells its line by doing something, of which it takes notice when it is
executed. -/
def Action.indiscreet : Action Simulation.EngineStage :=
  .custom "indiscreet"
    (.code do
      Aside.change (Simulation.Stage.noteEvent (.str "told"))
      return "indiscreet")
    (.observe fun stage => if stage.events.size = 2 then .done else .fail .noSelection)

/-- Both of them, on a simulated engine. -/
def Operation.indiscretions (debug : Bool) : List (Step Simulation.EngineStage) :=
  (Scene.start (SessionOptions.withDebug {} debug) { parts := {} }).history Simulation.environment
    [.enqueue .chatty, .enqueue .indiscreet, .run 1]

/-- To take no notice is not enough. The quiet session has a line for debugging, from a custom
action, and only the other one fails, as it has asked for a line. Also, each session has options of
its own. -/
theorem debug_makes_a_difference :
    Action.chatty.IgnoresDebug (σ := Simulation.EngineStage) ∧ Action.indiscreet.IgnoresDebug ∧
      (Operation.indiscretions false).map (·.answer.isOk) = [true, true, true] ∧
      (Operation.indiscretions true).map (·.answer.isOk) = [true, true, false] ∧
      (Operation.indiscretions false).map (·.after.world.records)
        = [[], [], [⟨.debug, "inside"⟩]] ∧
      (Operation.indiscretions false).map (·.after.session.options.debug)
        = [false, false, false] ∧
      (Operation.indiscretions true).map (·.after.session.options.debug) = [true, true, true] :=
  ⟨trivial, fun _ => by dsimp only; split <;> trivial, by decide +kernel⟩

end Histories

end PagePilot
