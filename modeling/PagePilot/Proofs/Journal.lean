import PagePilot.Proofs.Licence

/-!
# What runs add to the journal

No run looks at the journal, and none takes anything out of it. How a run ends and what it adds
depends on the outside alone, so that two runs from the same outside can be compared entry by
entry, whatever has been noted before.

## Main definitions

- `Run.ending` - an answer or a stop, in the state that a run has led to
- `Run.Appends` - a run adds entries of a certain kind to the journal and does nothing else to it
- `Action.line`, `Action.asides`, `Action.afterLine` - what comes of asking an action for its line
- `Entry.Admits` - a kind of entries that covers all that actions leave
- `Entry.IsWork` - the entries of an action that is being executed
- `World.told` - what a journal tells in the entries that are of interest
- `World.calls` - the calls to launcher, engine and page that it tells

## Main statements

- `Setting.execute_appends` - what an action leaves, navigations and their followers included
-/

namespace PagePilot

variable {σ ω α β : Type}

namespace Run

/-- An answer or a stop, in the state that a run has led to. -/
def ending : Except Stop α → ω → EStateM.Result Stop ω α
  | .ok a, w => .ok a w
  | .error stop, w => .error stop w

theorem ending_inj {answer answer' : Except Stop α} {w w' : ω}
    (h : ending answer w = ending answer' w') : answer = answer' ∧ w = w' := by
  cases answer <;> cases answer' <;> cases h <;> exact ⟨rfl, rfl⟩

theorem ending_of_ok {run : Run ω α} {a : α} {w w' : ω} (h : run.run w = .ok a w') :
    run.run w = ending (.ok a) w' := h

theorem ending_of_error {run : Run ω α} {stop : Stop} {w w' : ω} (h : run.run w = .error stop w') :
    run.run w = ending (.error stop) w' := h

theorem ending_eq_of_ok {run : Run ω α} {answer : Except Stop α} {a : α} {w w' w₁ : ω}
    (hrun : run.run w = ending answer w') (h : run.run w = .ok a w₁) :
    answer = .ok a ∧ w' = w₁ :=
  ending_inj (hrun.symm.trans (ending_of_ok h))

theorem ending_eq_of_error {run : Run ω α} {answer : Except Stop α} {stop : Stop} {w w' w₁ : ω}
    (hrun : run.run w = ending answer w') (h : run.run w = .error stop w₁) :
    answer = .error stop ∧ w' = w₁ :=
  ending_inj (hrun.symm.trans (ending_of_error h))

/-- Every run ends somehow. -/
theorem exists_ending (run : Run ω α) (w : ω) : ∃ answer w', run.run w = ending answer w' := by
  cases h : run.run w with
  | ok a w' => exact ⟨.ok a, w', rfl⟩
  | error stop w' => exact ⟨.error stop, w', rfl⟩

/-- From the same outside, the run ends in the same way and adds the same entries to the journal,
whatever the journal holds; each of the entries satisfies `P`. -/
def Appends (P : Entry σ → Prop) (run : Run (World σ) α) : Prop :=
  ∀ host, ∃ answer host' added, (∀ entry ∈ added, P entry) ∧
    ∀ journal, run.run ⟨host, journal⟩ = ending answer ⟨host', journal ++ added⟩

namespace Appends

variable {P Q : Entry σ → Prop} {run : Run (World σ) α}

/-- What a run that appends has done to a world. -/
theorem exists_added (h : run.Appends P) {w w' : World σ} {answer : Except Stop α}
    (hrun : run.run w = ending answer w') :
    ∃ added, (∀ entry ∈ added, P entry) ∧ w'.journal = w.journal ++ added := by
  obtain ⟨answer₀, host', added, hadded, hends⟩ := h w.host
  obtain ⟨-, rfl⟩ := ending_inj (hrun.symm.trans (hends w.journal))
  exact ⟨added, hadded, rfl⟩

/-- A run that adds nothing and only depends on the outside. -/
theorem of_silent (h : ∀ host, ∃ answer host', ∀ journal,
    run.run ⟨host, journal⟩ = ending answer ⟨host', journal⟩) : run.Appends P := by
  intro host
  obtain ⟨answer, host', hends⟩ := h host
  refine ⟨answer, host', #[], by simp, fun journal => ?_⟩
  rw [Array.append_empty]
  exact hends journal

theorem pure (a : α) : Appends P (Pure.pure a : Run (World σ) α) :=
  of_silent fun host => ⟨.ok a, host, fun _ => rfl⟩

theorem throw (stop : Stop) : Appends P (MonadExcept.throw stop : Run (World σ) α) :=
  of_silent fun host => ⟨.error stop, host, fun _ => rfl⟩

theorem bind {next : α → Run (World σ) β} (h : run.Appends P) (hnext : ∀ a, (next a).Appends P) :
    (run >>= next).Appends P := by
  intro host
  obtain ⟨answer, host₁, added₁, hadded₁, hends₁⟩ := h host
  cases answer with
  | error stop => exact ⟨.error stop, host₁, added₁, hadded₁, fun journal =>
      run_bind_of_error (hends₁ journal)⟩
  | ok a =>
    obtain ⟨answer, host₂, added₂, hadded₂, hends₂⟩ := hnext a host₁
    refine ⟨answer, host₂, added₁ ++ added₂, ?_, fun journal => ?_⟩
    · intro entry hentry
      rcases Array.mem_append.mp hentry with h₁ | h₂
      · exact hadded₁ entry h₁
      · exact hadded₂ entry h₂
    · rw [run_bind_of_ok (hends₁ journal), hends₂, Array.append_assoc]

theorem map (f : α → β) (h : run.Appends P) : (f <$> run).Appends P := by
  rw [map_eq_pure_bind]
  exact h.bind fun a => .pure (f a)

theorem attempt (h : run.Appends P) : run.attempt.Appends P := by
  intro host
  obtain ⟨answer, host', added, hadded, hends⟩ := h host
  match answer, hends with
  | .ok a, hends =>
    exact ⟨.ok (.ok a), host', added, hadded, fun journal => run_attempt_of_ok (hends journal)⟩
  | .error (.failed failure), hends =>
    exact ⟨.ok (.error failure), host', added, hadded, fun journal =>
      run_attempt_of_failed (hends journal)⟩
  | .error .clockOverflow, hends =>
    refine ⟨.error .clockOverflow, host', added, hadded, fun journal => ?_⟩
    exact run_attempt_of_stop (hends journal) (by simp)
  | .error .exhausted, hends =>
    refine ⟨.error .exhausted, host', added, hadded, fun journal => ?_⟩
    exact run_attempt_of_stop (hends journal) (by simp)

/-- A change of the world that adds entries and only depends on the outside. -/
theorem of_change {change : World σ → World σ} (f : σ → σ) (added : σ → Array (Entry σ))
    (hadded : ∀ host, ∀ entry ∈ added host, P entry)
    (hchange : ∀ w, change w = ⟨f w.host, w.journal ++ added w.host⟩) :
    Appends P (modify change : Run (World σ) Unit) := by
  intro host
  refine ⟨.ok (), f host, added host, hadded host, fun journal => ?_⟩
  rw [EStateM.run_modify, hchange]
  rfl

end Appends

end Run

section Ask

variable {call : Host Failure σ α} {entry : Bool → Entry σ} {host : σ} {hosted : Hosted σ}
  {w w₁ : World σ}

theorem World.run_ask_of_ok {a : α} (h : (World.ask call entry).run w = .ok a w₁) :
    ∃ after, call.run { host := w.host } = .ok a after ∧ w₁.host = after.host := by
  obtain ⟨host, journal⟩ := w
  simp only [World.ask, EStateM.run] at h ⊢
  split at h
  · next hcall =>
    cases h
    exact ⟨_, hcall, rfl⟩
  · cases h

theorem World.run_ask_of_error {stop : Stop}
    (h : (World.ask call entry).run w = .error stop w₁) :
    ∃ fault after, call.run { host := w.host } = .error fault after ∧ stop = .ofFault fault ∧
      w₁.host = after.host := by
  obtain ⟨host, journal⟩ := w
  simp only [World.ask, EStateM.run] at h ⊢
  split at h
  · cases h
  · next hcall =>
    cases h
    exact ⟨_, _, hcall, rfl, rfl⟩

theorem World.ask_of_ok {a : α} (h : call.run { host := host } = .ok a hosted)
    (entry : Bool → Entry σ) (journal : Array (Entry σ)) :
    (World.ask call entry).run ⟨host, journal⟩ = .ok a
      ⟨hosted.host, journal ++ (hosted.records.map Entry.logged).toArray.push (entry true)⟩ := by
  simp only [World.ask, EStateM.run] at h ⊢
  rw [h, Array.append_push]
  rfl

theorem World.ask_of_error {fault : Fault Failure}
    (h : call.run { host := host } = .error fault hosted) (entry : Bool → Entry σ)
    (journal : Array (Entry σ)) :
    (World.ask call entry).run ⟨host, journal⟩ = .error (.ofFault fault)
      ⟨hosted.host, journal ++ (hosted.records.map Entry.logged).toArray.push (entry false)⟩ := by
  simp only [World.ask, EStateM.run] at h ⊢
  rw [h, Array.append_push]
  rfl

end Ask

/-- A call to the outside notes what it has logged, and then itself. -/
theorem World.run_ask (call : Host Failure σ α) (entry : Bool → Entry σ) (host : σ) :
    ∃ (answer : Except Stop α) (host' : σ) (records : List LogRecord), ∀ journal,
      (World.ask call entry).run ⟨host, journal⟩ = Run.ending answer
        ⟨host', journal ++ (records.map Entry.logged).toArray.push (entry answer.isOk)⟩ := by
  cases h : call.run { host := host } with
  | ok a hosted => exact ⟨.ok a, hosted.host, hosted.records, World.ask_of_ok h entry⟩
  | error fault hosted =>
    exact ⟨.error (.ofFault fault), hosted.host, hosted.records, World.ask_of_error h entry⟩

theorem World.ask_appends {P : Entry σ → Prop} {call : Host Failure σ α} {entry : Bool → Entry σ}
    (hlogged : ∀ record, P (.logged record)) (hentry : ∀ succeeded, P (entry succeeded)) :
    (World.ask call entry).Appends P := by
  intro host
  obtain ⟨answer, host', records, hends⟩ := World.run_ask call entry host
  refine ⟨answer, host', _, ?_, hends⟩
  intro e he
  rcases Array.mem_push.mp he with hrecord | rfl
  · obtain ⟨record, -, rfl⟩ := by simpa using hrecord
    exact hlogged record
  · exact hentry _

theorem World.aside_appends {P : Entry σ → Prop} {code : Aside σ α}
    (hlogged : code.Logs fun record => P (.logged record)) : (World.aside code).Appends P := by
  intro host
  refine ⟨.ok _, _, _, fun entry hentry => ?_, fun journal => rfl⟩
  obtain ⟨record, hmem, rfl⟩ := by simpa using hentry
  exact hlogged host record hmem

/-- The entries that a line of the log leaves, if lines are written. -/
def World.debugEntries (on : Bool) (text : String) : Array (Entry σ) :=
  if on then #[.logged ⟨.debug, text⟩] else #[]

section Lines

variable (on : Bool) (action : Action σ) (text : String → String) (host : σ)

/-- The line that the action tells. -/
def Action.line : String := (action.tell.run { host := host }).1

/-- What the action logs while it tells its line. -/
def Action.asides : List LogRecord := (action.tell.run { host := host }).2.records

/-- The outside after the action has told its line. -/
def Action.afterLine : σ := (action.tell.run { host := host }).2.host

/-- Built-in actions tell the line that is known, and do nothing else. -/
theorem Action.tell_of_builtin (h : ∀ name line body, action ≠ .custom name line body) :
    action.tell = pure action.describe := by
  cases action with
  | custom name line body => exact absurd rfl (h name line body)
  | _ => rfl

theorem Action.afterLine_of_fixed (h : action.tell = pure action.describe) :
    action.afterLine host = host := by
  rw [Action.afterLine, h]
  rfl

/-- The entries that a line about an action leaves, if lines are written. -/
def World.lineEntries : Array (Entry σ) :=
  if on then
    ((action.asides host).map Entry.logged).toArray.push (.logged ⟨.debug, text (action.line host)⟩)
  else #[]

/-- The outside after a line about an action, if lines are written. -/
def World.lineHost : σ := if on then action.afterLine host else host

end Lines

namespace World

theorem logDebug_eq (on : Bool) (text : String) (w : World σ) :
    w.logDebug on text = ⟨w.host, w.journal ++ debugEntries on text⟩ := by
  cases on <;> rfl

theorem logLine_eq (on : Bool) (action : Action σ) (text : String → String) (w : World σ) :
    w.logLine on action text
      = ⟨lineHost on action w.host, w.journal ++ lineEntries on action text w.host⟩ := by
  cases on with
  | false => rfl
  | true =>
    rw [lineEntries, if_pos rfl, Array.append_push]
    rfl

theorem begin_eq (debug : Bool) (role : Role) (action : Action σ) (w : World σ) :
    w.begin debug role action = ⟨lineHost debug action w.host,
      w.journal ++ (#[.began role action] ++ lineEntries debug action id w.host)⟩ := by
  rw [World.begin, logLine_eq, ← Array.append_assoc]
  rfl

theorem lineHost_eq_self {action : Action σ} (h : ∀ host, action.afterLine host = host) (on : Bool)
    (host : σ) : lineHost on action host = host := by
  cases on with
  | false => rfl
  | true => exact h host

theorem host_begin {action : Action σ} (h : ∀ host, action.afterLine host = host) (debug : Bool)
    (role : Role) (w : World σ) : (w.begin debug role action).host = w.host := by
  rw [begin_eq]
  exact lineHost_eq_self h debug w.host

theorem mem_debugEntries {on : Bool} {text : String} {entry : Entry σ}
    (h : entry ∈ debugEntries on text) : entry = .logged ⟨.debug, text⟩ := by
  cases on with
  | false => simp [debugEntries] at h
  | true => simpa [debugEntries] using h

theorem mem_lineEntries {action : Action σ} {host : σ} {on : Bool} {text : String → String}
    {entry : Entry σ} (h : entry ∈ lineEntries on action text host) :
    ∃ record, entry = .logged record ∧
      (record ∈ action.asides host ∨ record = ⟨.debug, text (action.line host)⟩) := by
  cases on with
  | false => simp [lineEntries] at h
  | true =>
    rw [lineEntries, if_pos rfl] at h
    rcases Array.mem_push.mp h with hrecord | rfl
    · obtain ⟨record, hmem, rfl⟩ := by simpa using hrecord
      exact ⟨record, rfl, .inl hmem⟩
    · exact ⟨_, rfl, .inr rfl⟩

end World

/-- `P` holds of everything that an action with a licence can leave in the journal, unless it opens
a location. -/
structure Entry.Admits (P : Entry σ → Prop) (L : Licence) : Prop where
  called (call : PageCall) (succeeded : Bool) : L.calls call → P (.called call succeeded)
  slept (d : Duration) (succeeded : Bool) : P (.slept d succeeded)
  logged (record : LogRecord) : P (.logged record)

namespace Entry.Admits

variable {P : Entry σ → Prop} {L : Licence} {env : Environment σ}

/-- Every operation of an action within the licence appends entries of the kind. -/
theorem respects (h : Entry.Admits P L) : L.Respects env fun _ run _ => run.Appends P where
  pure a := .pure a
  fail failure := .throw (.failed failure)
  exhausted := .throw .exhausted
  bind hrun hnext := hrun.bind hnext
  attempt hrun := hrun.attempt
  call call hcall := World.ask_appends h.logged fun succeeded => h.called call succeeded hcall
  read := .of_silent fun host => ⟨.ok (env.now host).1, (env.now host).2, fun _ => rfl⟩
  sleep d := World.ask_appends h.logged (h.slept d)
  observe := .of_silent fun host => ⟨.ok host, host, fun _ => rfl⟩
  aside _ _ := World.aside_appends fun _ record _ => h.logged record

/-- Beginning an action leaves an entry for it and perhaps a line of the log. -/
theorem trace_appends (h : Entry.Admits P L) (s : Setting σ) {role : Role} {action : Action σ}
    (hbegan : P (.began role action)) : (s.trace role action).Appends P := by
  refine .of_change (World.lineHost s.options.debug action)
    (fun host => #[.began role action] ++ World.lineEntries s.options.debug action id host) ?_
    fun w => World.begin_eq s.options.debug role action w
  intro host entry hentry
  rcases Array.mem_append.mp hentry with hentry | hentry
  · obtain rfl := by simpa using hentry
    exact hbegan
  · obtain ⟨record, rfl, -⟩ := World.mem_lineEntries hentry
    exact h.logged record

/-- What an action within the licence leaves, if that holds of its navigations. -/
theorem execute_appends (h : Entry.Admits P L) {s : Setting σ}
    {navigate : String → Run (World σ) Unit}
    (hnavigate : ∀ location, L.opens location → (navigate location).Appends P)
    {action : Action σ} (within : action.Within L) : (action.execute s navigate).Appends P :=
  @Action.execute_related σ L _ s s navigate navigate h.respects rfl rfl rfl hnavigate action within

theorem followUp_appends (h : Entry.Admits P L) (s : Setting σ)
    {execute : Action σ → Run (World σ) Unit} (actions : List (Action σ))
    (hbegan : ∀ action ∈ actions, P (.began .afterOpen action))
    (hexecute : ∀ action ∈ actions, (execute action).Appends P) :
    (s.followUp execute actions).Appends P := by
  induction actions with
  | nil => exact .pure ()
  | cons action rest ih =>
    refine (h.trace_appends s (hbegan action List.mem_cons_self)).bind fun _ => ?_
    refine (hexecute action List.mem_cons_self).bind fun _ => ?_
    exact ih (fun a ha => hbegan a (List.mem_cons_of_mem action ha))
      fun a ha => hexecute a (List.mem_cons_of_mem action ha)

end Entry.Admits

namespace Setting

variable {P : Entry σ → Prop} {L : Licence} (s : Setting σ)

theorem navigate_appends (h : Entry.Admits P L)
    (hvisit : ∀ location, L.opens location →
      L.calls (.navigate (joinUrl s.options.baseUrl location)))
    (hfollowed : ∀ action ∈ s.afterOpen, P (.began .afterOpen action) ∧ action.Within L)
    (rounds : Nat) (location : String) (hopens : L.opens location) :
    (s.navigate rounds location).Appends P := by
  -- A registered action may navigate in its turn, with a round less.
  induction rounds generalizing location with
  | zero => exact .throw .exhausted
  | succ rounds ih =>
    have hcall (succeeded : Bool) := h.called (.navigate (joinUrl s.options.baseUrl location))
      succeeded (hvisit location hopens)
    refine (World.ask_appends h.logged hcall).bind fun _ => ?_
    refine h.followUp_appends s s.afterOpen (fun action hmem => (hfollowed action hmem).1)
      fun action hmem => ?_
    exact h.execute_appends ih (hfollowed action hmem).2

/-- What an action within a licence leaves, if the registered actions are within it, too. -/
theorem execute_appends_of_within (h : Entry.Admits P L)
    (hvisit : ∀ location, L.opens location →
      L.calls (.navigate (joinUrl s.options.baseUrl location)))
    (hfollowed : ∀ action ∈ s.afterOpen, P (.began .afterOpen action) ∧ action.Within L)
    {action : Action σ} (within : action.Within L) : (s.execute action).Appends P :=
  h.execute_appends (s.navigate_appends h hvisit hfollowed s.budget) within

/-- What an action leaves, navigations and the actions that follow them included. -/
theorem execute_appends (h : Entry.Admits P Licence.all)
    (hfollowed : ∀ action ∈ s.afterOpen, P (.began .afterOpen action)) (action : Action σ) :
    (s.execute action).Appends P :=
  s.execute_appends_of_within h (fun _ _ => trivial)
    (fun action hmem => ⟨hfollowed action hmem, action.within_all⟩) action.within_all

end Setting

/-- The entries that are left while an action is being executed: the action that a run has taken
from the queue has been begun before, and engine and page are there. -/
def Entry.IsWork : Entry σ → Prop
  | .called _ _ | .slept _ _ | .logged _ => True
  | .began role _ => role = .afterOpen
  | .launched _ _ | .createdPage _ | .exited _ => False

theorem Entry.isWork_admits : Entry.Admits (Entry.IsWork : Entry σ → Prop) Licence.all where
  called _ _ _ := trivial
  slept _ _ := trivial
  logged _ := trivial

/-- What a journal tells in those of its entries that are of interest, in their order. -/
def World.told (tell : Entry σ → Option β) (w : World σ) : List β :=
  w.journal.toList.filterMap tell

/-- The entry, if it is about a call to launcher, engine or page. -/
def Entry.call? : Entry σ → Option (Entry σ)
  | .launched params succeeded => some (.launched params succeeded)
  | .createdPage succeeded => some (.createdPage succeeded)
  | .exited succeeded => some (.exited succeeded)
  | .called call succeeded => some (.called call succeeded)
  | .began _ _ | .slept _ _ | .logged _ => none

/-- The calls to launcher, engine and page, in their order. -/
def World.calls (w : World σ) : List (Entry σ) := w.told Entry.call?

section Told

variable {tell : Entry σ → Option β}

theorem World.told_append (host : σ) (journal added : Array (Entry σ)) :
    told tell ⟨host, journal ++ added⟩
      = told tell ⟨host, journal⟩ ++ added.toList.filterMap tell := by
  simp [told]

/-- Entries of which none is of interest. -/
theorem World.told_eq_of_added {w w' : World σ} {added : Array (Entry σ)}
    (h : w'.journal = w.journal ++ added) (hadded : ∀ entry ∈ added, tell entry = none) :
    w'.told tell = w.told tell := by
  have hnone : added.toList.filterMap tell = [] :=
    List.filterMap_eq_nil_iff.mpr fun entry hentry => hadded entry (by simpa using hentry)
  simp only [told, h, Array.toList_append, List.filterMap_append, hnone, List.append_nil]

theorem World.told_logDebug (hlogged : ∀ record, tell (.logged record) = none) (on : Bool)
    (text : String) (w : World σ) : (w.logDebug on text).told tell = w.told tell := by
  rw [logDebug_eq]
  refine told_eq_of_added rfl fun entry hentry => ?_
  rw [mem_debugEntries hentry, hlogged]

theorem World.told_logLine (hlogged : ∀ record, tell (.logged record) = none) (on : Bool)
    (action : Action σ) (text : String → String) (w : World σ) :
    (w.logLine on action text).told tell = w.told tell := by
  rw [logLine_eq]
  refine told_eq_of_added rfl fun entry hentry => ?_
  obtain ⟨record, rfl, -⟩ := mem_lineEntries hentry
  exact hlogged record

theorem World.told_begin (hlogged : ∀ record, tell (.logged record) = none) (debug : Bool)
    (role : Role) (action : Action σ) (w : World σ) :
    (w.begin debug role action).told tell
      = w.told tell ++ (tell (.began role action)).toList := by
  rw [World.begin, told_logLine hlogged]
  cases h : tell (.began role action) <;> simp [told, note, h]

/-- What an action tells if that is nothing that it can leave. -/
theorem Setting.told_execute {s : Setting σ} {P : Entry σ → Prop}
    (h : Entry.Admits P Licence.all)
    (hfollowed : ∀ action ∈ s.afterOpen, P (.began .afterOpen action))
    (hnone : ∀ entry, P entry → tell entry = none) {action : Action σ} {w w' : World σ}
    {answer : Except Stop Unit} (hrun : (s.execute action).run w = Run.ending answer w') :
    w'.told tell = w.told tell := by
  obtain ⟨added, hadded, hjournal⟩ := (s.execute_appends h hfollowed action).exists_added hrun
  exact World.told_eq_of_added hjournal fun entry hentry => hnone entry (hadded entry hentry)

end Told

namespace World

theorem calls_begin (debug : Bool) (role : Role) (action : Action σ) (w : World σ) :
    (w.begin debug role action).calls = w.calls :=
  (told_begin (fun _ => rfl) debug role action w).trans (List.append_nil _)

/-- What the entries of a call tell, if the lines that it has logged are of no interest. -/
theorem told_records {tell : Entry σ → Option β} {records : List LogRecord}
    (h : ∀ record ∈ records, tell (.logged record) = none) (host : σ) (journal : Array (Entry σ))
    (entry : Entry σ) :
    told tell ⟨host, journal ++ (records.map Entry.logged).toArray.push entry⟩
      = told tell ⟨host, journal⟩ ++ (tell entry).toList := by
  have hrecords : (records.map Entry.logged).filterMap tell = [] := by
    rw [List.filterMap_eq_nil_iff]
    intro logged hmem
    obtain ⟨record, hrecord, rfl⟩ := List.mem_map.mp hmem
    exact h record hrecord
  rw [told_append, Array.toList_push, List.filterMap_append, hrecords]
  cases hentry : tell entry <;> simp [hentry]

/-- What a call tells, if it is of no interest what the outside logs. -/
theorem told_ask {tell : Entry σ → Option β} (hlogged : ∀ record, tell (.logged record) = none)
    {call : Host Failure σ α} {entry : Bool → Entry σ} {w w' : World σ} {answer : Except Stop α}
    (h : (World.ask call entry).run w = Run.ending answer w') :
    w'.told tell = w.told tell ++ (tell (entry answer.isOk)).toList := by
  obtain ⟨answer₀, host', records, hends⟩ := World.run_ask call entry w.host
  obtain ⟨rfl, rfl⟩ := Run.ending_inj (h.symm.trans (hends w.journal))
  exact told_records (fun record _ => hlogged record) _ _ _

/-- A call to launcher, engine or page is one call, whatever the outside logs. -/
theorem calls_ask {call : Host Failure σ α} {entry : Bool → Entry σ}
    (hentry : ∀ succeeded, (entry succeeded).call? = some (entry succeeded)) {w w' : World σ}
    {answer : Except Stop α} (h : (World.ask call entry).run w = Run.ending answer w') :
    w'.calls = w.calls ++ [entry answer.isOk] := by
  rw [calls, told_ask (fun _ => rfl) h, hentry]
  rfl

end World

end PagePilot
