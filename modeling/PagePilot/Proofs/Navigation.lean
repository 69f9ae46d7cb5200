import PagePilot.Proofs.Viewport

/-!
# Navigations and the size of the page

A verb that opens a location queues two actions: back to the default size, and then the navigation.
Nothing comes between the two, neither in the queue nor on the page, so that every navigation finds
the page in its default size, whatever size it has been given before.

## Main definitions

- `World.pageCalls`, `World.urls` - the calls to the page, and where it has been told to go
- `Licence.lingering` - everything is allowed but to leave the page
- `Restored` - every navigation comes right behind a return to the default size
- `Paired` - so does every navigation in a queue
- `World.Travels` - a world is reached from another one by navigations to certain locations

## Main statements

- `Setting.travels_executeAll` - what the execution of such a queue does
- `navigations_restore_size` - what all histories do
-/

namespace PagePilot

variable {σ : Type}

/-- The URL to which a call takes the page. -/
def PageCall.url? : PageCall → Option String
  | .navigate url => some url
  | .evaluate _ _ | .setViewport _ _ | .render _ | .clickAt _ _ => none

/-- The call to the page that an entry is about, and whether it has succeeded. -/
def Entry.pageCall? : Entry σ → Option (PageCall × Bool)
  | .called call succeeded => some (call, succeeded)
  | .began _ _ | .launched _ _ | .createdPage _ | .exited _ | .slept _ _ | .logged _ => none

namespace World

/-- The calls to the page, in their order. -/
def pageCalls (w : World σ) : List (PageCall × Bool) := w.told Entry.pageCall?

/-- The URLs to which the page has been told to go, in their order. -/
def urls (w : World σ) : List String := w.pageCalls.filterMap fun called => called.1.url?

end World

/-- Everything is allowed but to leave the page, by opening a location or by a call. -/
def Licence.lingering : Licence where
  calls call := call.url? = none
  opens _ := False

/-- What an operation brings in by hand never leaves the page. -/
def Operation.Lingers : Operation σ → Prop
  | .enqueue action | .afterOpen action | .tell _ (.enqueue action) => action.Within .lingering
  | .tell _ _ | .run _ | .exit | .meanwhile _ => True

/-- The location that a verb opens. -/
def Verb.locations : Verb σ → List String
  | .navigate location => [location]
  | .enqueue _ | .onSelection _ | .eval _ _ _ | .viewport _ _ | .screenshot _ | .wait _
  | .testElement _ _ | .testFunction _ _ _ => []

/-- The location that a scope is told to open. -/
def Operation.locations : Operation σ → List String
  | .tell _ verb => verb.locations
  | .enqueue _ | .afterOpen _ | .run _ | .exit | .meanwhile _ => []

/-- Right before every navigation the page has been given its default size. -/
def Restored (options : SessionOptions) (calls : List (PageCall × Bool)) : Prop :=
  ∀ before url succeeded after, calls = before ++ (.navigate url, succeeded) :: after →
    ∃ earlier, before = earlier ++ [(.setViewport options.width options.height, true)]

/-- In the actions, right before every navigation comes a return to the default size; the locations
are those of the navigations. -/
inductive Paired (options : SessionOptions) : List (Action σ) → (locations : List String) → Prop
  | nil : Paired options [] []
  | other {action : Action σ} {rest : List (Action σ)} {locations : List String}
      (within : action.Within .lingering) (paired : Paired options rest locations) :
      Paired options (action :: rest) locations
  | navigate {location : String} {rest : List (Action σ)} {locations : List String}
      (paired : Paired options rest locations) :
      Paired options (.viewport options.width options.height :: .navigate location :: rest)
        (location :: locations)

namespace Restored

variable {options : SessionOptions} {calls made : List (PageCall × Bool)}

theorem nil (options : SessionOptions) : Restored options [] := by
  intro before url succeeded after heq
  cases before <;> cases heq

/-- A call may be added that does not leave the page, or comes right behind a return to the default
size. -/
theorem concat {called : PageCall × Bool} (h : Restored options calls)
    (hcalled : called.1.url? = none ∨
      ∃ earlier, calls = earlier ++ [(.setViewport options.width options.height, true)]) :
    Restored options (calls ++ [called]) := by
  intro before url succeeded after heq
  rcases List.eq_nil_or_concat after with rfl | ⟨between, last, rfl⟩
  · obtain ⟨rfl, rfl⟩ := List.append_singleton_inj.mp heq
    exact hcalled.resolve_left (by simp [PageCall.url?])
  · rw [List.concat_eq_append, ← List.cons_append, ← List.append_assoc] at heq
    exact h before url succeeded between (List.append_singleton_inj.mp heq).1

theorem linger (h : Restored options calls) (hmade : ∀ called ∈ made, called.1.url? = none) :
    Restored options (calls ++ made) := by
  induction made generalizing calls with
  | nil => rwa [List.append_nil]
  | cons called made ih =>
    obtain ⟨hfirst, hrest⟩ := List.forall_mem_cons.mp hmade
    rw [List.append_cons]
    exact ih (h.concat (.inl hfirst)) hrest

end Restored

namespace Paired

variable {options : SessionOptions} {actions more : List (Action σ)}
  {locations further : List String}

theorem of_within (h : ∀ action ∈ actions, action.Within .lingering) :
    Paired options actions [] := by
  induction actions with
  | nil => exact .nil
  | cons action rest ih =>
    obtain ⟨hfirst, hrest⟩ := List.forall_mem_cons.mp h
    exact .other hfirst (ih hrest)

theorem append (h : Paired options actions locations) (hmore : Paired options more further) :
    Paired options (actions ++ more) (locations ++ further) := by
  induction h with
  | nil => exact hmore
  | other within _ ih => exact .other within ih
  | navigate _ ih => exact .navigate ih

end Paired

/-- From the one world the other is reached by calls that go to some of the locations, in their
order and right behind a return to the default size. -/
structure World.Travels (options : SessionOptions) (locations : List String) (w w' : World σ) :
    Prop where
  restored : Restored options w.pageCalls → Restored options w'.pageCalls
  urls : ∃ visited, List.Sublist visited locations ∧
    w'.urls = w.urls ++ visited.map (options.baseUrl ++ ·)

namespace World.Travels

variable {options : SessionOptions} {locations further : List String} {w w₁ w₂ : World σ}

/-- Calls that do not leave the page. -/
theorem of_lingering {made : List (PageCall × Bool)} (hcalls : w₁.pageCalls = w.pageCalls ++ made)
    (hmade : ∀ called ∈ made, called.1.url? = none) : w.Travels options locations w₁ := by
  refine ⟨fun h => hcalls ▸ h.linger hmade, [], List.nil_sublist _, ?_⟩
  have hnone : (made.filterMap fun called => called.1.url?) = [] :=
    List.filterMap_eq_nil_iff.mpr hmade
  rw [World.urls, hcalls, List.filterMap_append, hnone, List.map_nil]
  rfl

theorem of_eq (hcalls : w₁.pageCalls = w.pageCalls) : w.Travels options locations w₁ :=
  of_lingering (by rw [hcalls, List.append_nil]) (by simp)

theorem trans (h : w.Travels options locations w₁) (hfurther : w₁.Travels options further w₂) :
    w.Travels options (locations ++ further) w₂ := by
  obtain ⟨visited, hvisited, hurls⟩ := h.urls
  obtain ⟨visited₁, hvisited₁, hurls₁⟩ := hfurther.urls
  refine ⟨fun hw => hfurther.restored (h.restored hw), visited ++ visited₁,
    hvisited.append hvisited₁, ?_⟩
  rw [hurls₁, hurls, List.map_append, List.append_assoc]

/-- A navigation right behind a return to the default size. -/
theorem of_navigate {location : String} {earlier : List (PageCall × Bool)} {succeeded : Bool}
    (hsize : w.pageCalls = earlier ++ [(.setViewport options.width options.height, true)])
    (hcalls : w₁.pageCalls
      = w.pageCalls ++ [(.navigate (options.baseUrl ++ location), succeeded)]) :
    w.Travels options [location] w₁ := by
  refine ⟨fun h => hcalls ▸ h.concat (.inr ⟨earlier, hsize⟩), [location], .refl _, ?_⟩
  rw [World.urls, hcalls, List.filterMap_append]
  rfl

end World.Travels

theorem World.pageCalls_begin (debug : Bool) (role : Role) (action : Action σ) (w : World σ) :
    (w.begin debug role action).pageCalls = w.pageCalls :=
  (told_begin (fun _ => rfl) debug role action w).trans (List.append_nil _)

theorem World.pageCalls_doCall_of_ok {env : Environment σ} {call : PageCall} {w w₁ : World σ}
    {answer : call.Answer} (h : (env.doCall call).run w = .ok answer w₁) :
    w₁.pageCalls = w.pageCalls ++ [(call, true)] :=
  told_ask (fun _ => rfl) (Run.ending_of_ok h)

theorem World.pageCalls_doCall_of_error {env : Environment σ} {call : PageCall} {w w₁ : World σ}
    {stop : Stop} (h : (env.doCall call).run w = .error stop w₁) :
    w₁.pageCalls = w.pageCalls ++ [(call, false)] :=
  told_ask (fun _ => rfl) (Run.ending_of_error h)

namespace Setting

variable {s : Setting σ} {w w₁ : World σ} {answer : Except Stop Unit} {location : String}
  {actions : List (Action σ)} {locations : List String}

/-- What never leaves the page goes nowhere. -/
theorem travels_of_appends {run : Run (World σ) Unit}
    (happends : run.Appends (Entry.Licensed .lingering)) (hrun : run.run w = Run.ending answer w₁) :
    w.Travels s.options locations w₁ := by
  obtain ⟨added, hadded, hjournal⟩ := happends.exists_added hrun
  have hcalls : w₁.pageCalls = w.pageCalls ++ added.toList.filterMap Entry.pageCall? := by
    simp [World.pageCalls, World.told, hjournal]
  refine .of_lingering hcalls fun called hmade => ?_
  obtain ⟨entry, hentry, hcalled⟩ := List.mem_filterMap.mp hmade
  have hlicensed := hadded entry (by simpa using hentry)
  cases entry with
  | called call succeeded =>
    cases hcalled
    exact hlicensed
  | _ => cases hcalled

/-- One action, and if it succeeds the others. -/
theorem travels_cons (locations further : List String) {action : Action σ}
    (hfirst : ∀ answer w₂, (s.execute action).run (w.begin s.options.debug .main action)
      = Run.ending answer w₂ → w.Travels s.options locations w₂)
    (hrest : ∀ w₂, (s.execute action).run (w.begin s.options.debug .main action) = .ok () w₂ →
      (s.executeAll actions).run w₂ = Run.ending answer w₁ → w₂.Travels s.options further w₁)
    (hrun : (s.executeAll (action :: actions)).run w = Run.ending answer w₁) :
    w.Travels s.options (locations ++ further) w₁ := by
  cases h : (s.execute action).run (w.begin s.options.debug .main action) with
  | ok a w₂ =>
    rw [s.executeAll_cons_of_ok h] at hrun
    exact (hfirst (.ok ()) w₂ h).trans (hrest w₂ h hrun)
  | error stop w₂ =>
    have hstop : (s.executeAll (action :: actions)).run w = Run.ending (.error stop)
        (s.afterStop action actions.length stop w₂) := s.executeAll_cons_of_stop h
    obtain ⟨-, rfl⟩ := Run.ending_inj (hrun.symm.trans hstop)
    exact (hfirst (.error stop) w₂ h).trans (.of_eq (told_afterStop (fun _ => rfl) _ _ _ _))

variable (hhooks : ∀ action ∈ s.afterOpen, action.Within .lingering)

include hhooks

theorem travels_execute {action : Action σ} (within : action.Within .lingering)
    (hrun : (s.execute action).run (w.begin s.options.debug .main action) = Run.ending answer w₁) :
    w.Travels s.options locations w₁ := by
  have happends := s.execute_appends_of_within (Entry.licensed_admits .lingering)
    (fun _ hopens => hopens.elim) (fun action hmem => ⟨trivial, hhooks action hmem⟩) within
  have htravels : World.Travels s.options locations _ w₁ := travels_of_appends happends hrun
  have hbegin : w.Travels s.options [] (w.begin s.options.debug .main action) :=
    .of_eq (World.pageCalls_begin _ _ _ w)
  exact hbegin.trans htravels

/-- A navigation takes the page to its location at most, and the actions that follow it let the page
stay there. -/
theorem travels_navigate {earlier : List (PageCall × Bool)}
    (hsize : w.pageCalls = earlier ++ [(.setViewport s.options.width s.options.height, true)])
    (hrun : (s.execute (.navigate location)).run
      (w.begin s.options.debug .main (.navigate location)) = Run.ending answer w₁) :
    w.Travels s.options [location] w₁ := by
  have hbegin := World.pageCalls_begin s.options.debug .main (.navigate location) w
  cases opens_of_run hrun with
  | exhausted _ => exact .of_eq hbegin
  | unreached stops =>
    have hcalls := World.pageCalls_doCall_of_error stops
    rw [hbegin] at hcalls
    exact .of_navigate hsize hcalls
  | @reached rounds _ w₂ _ visits follows =>
    have hcalls := World.pageCalls_doCall_of_ok visits
    rw [hbegin] at hcalls
    have htravels : w.Travels s.options [location] w₂ := .of_navigate hsize hcalls
    have hadmits : Entry.Admits (Entry.Licensed (σ := σ) .lingering) .lingering :=
      Entry.licensed_admits .lingering
    refine htravels.trans (travels_of_appends (hadmits.followUp_appends s s.afterOpen
      (fun _ _ => trivial) fun action hmem => ?_) follows)
    exact hadmits.execute_appends (fun _ hopens => hopens.elim) (hhooks action hmem)

/-- The execution of a queue in which every navigation comes right behind a return to the default
size. -/
theorem travels_executeAll (paired : Paired s.options actions locations)
    (hrun : (s.executeAll actions).run w = Run.ending answer w₁) :
    w.Travels s.options locations w₁ := by
  induction paired generalizing w with
  | nil =>
    obtain ⟨-, rfl⟩ := Run.ending_eq_of_ok hrun rfl
    exact .of_eq rfl
  | @other action rest locations within _ ih =>
    exact travels_cons [] locations (fun _ _ => travels_execute hhooks within) (fun _ _ => ih) hrun
  | @navigate location rest locations _ ih =>
    refine travels_cons [] (location :: locations) (fun _ _ => travels_execute hhooks (by trivial))
      (fun w₂ hsized hrest => ?_) hrun
    have hsize : w₂.pageCalls = w.pageCalls
        ++ [(.setViewport s.options.width s.options.height, true)] := by
      have hcalls := World.pageCalls_doCall_of_ok hsized
      rwa [World.pageCalls_begin] at hcalls
    exact travels_cons [location] locations (fun _ _ => travels_navigate hhooks hsize)
      (fun _ _ => ih) hrest

end Setting

theorem Licence.lingering_lenient : Licence.lingering.Lenient where
  evaluate _ _ := rfl
  render _ := rfl
  clickAt _ _ := rfl
  logs _ := trivial

/-- What a scope makes of a verb navigates only behind a return to the default size. -/
theorem Paired.of_verb (options : SessionOptions) (scope : Scope) {verb : Verb σ}
    (hlingers : (Operation.tell scope verb).Lingers) :
    Paired options (scope.actions options verb) verb.locations := by
  cases verb with
  | enqueue action => exact .of_within (List.forall_mem_singleton.mpr hlingers)
  | navigate location => exact .navigate .nil
  | _ =>
    exact .of_within (scope.actions_within_of_lenient Licence.lingering_lenient options
      (fun _ hnavigate => nomatch hnavigate) (fun _ henqueue => nomatch henqueue)
      fun _ _ _ _ _ => rfl)

namespace Scene

/-- A session that has been told to go to certain locations. Some of them have been visited, some
are queued behind them, and in both cases the page is given its default size first. -/
structure Itinerant (options : SessionOptions) (locations : List String) (scene : Scene σ) :
    Prop where
  options_eq : scene.session.options = options
  hooks : ∀ action ∈ scene.session.afterOpen.toList, action.Within .lingering
  restored : Restored options scene.world.pageCalls
  itinerary : ∃ visited pending, List.Sublist (visited ++ pending) locations ∧
    scene.world.urls = visited.map (options.baseUrl ++ ·) ∧
    Paired options scene.session.queue.toList pending

namespace Itinerant

variable {env : Environment σ} {options : SessionOptions} {locations : List String}
  {scene : Scene σ}

theorem start (options : SessionOptions) (host : σ) :
    (Scene.start options host).Itinerant options [] where
  options_eq := rfl
  hooks _ hmem := absurd hmem List.not_mem_nil
  restored := .nil options
  itinerary := ⟨[], [], .slnil, rfl, .nil⟩

/-- More actions in the queue. -/
theorem queueing (h : scene.Itinerant options locations) {actions : List (Action σ)}
    {further : List String} (hactions : Paired options actions further) :
    Itinerant options (locations ++ further)
      ⟨{ scene.session with queue := scene.session.queue.append actions }, scene.world⟩ where
  options_eq := h.options_eq
  hooks := h.hooks
  restored := h.restored
  itinerary := by
    obtain ⟨visited, pending, hvisited, hurls, paired⟩ := h.itinerary
    refine ⟨visited, pending ++ further, ?_, hurls, paired.append hactions⟩
    rw [← List.append_assoc]
    exact hvisited.append (.refl further)

/-- One more registered action. -/
theorem registering (h : scene.Itinerant options locations) {action : Action σ}
    (haction : action.Within .lingering) : Itinerant options locations
      ⟨{ scene.session with afterOpen := scene.session.afterOpen.push action }, scene.world⟩ where
  options_eq := h.options_eq
  hooks := List.forall_mem_append.mpr ⟨h.hooks, List.forall_mem_singleton.mpr haction⟩
  restored := h.restored
  itinerary := h.itinerary

/-- A session that has called its page no more and has kept its queue and registered actions, or has
dropped them. -/
theorem of_quiet {scene' : Scene σ} (h : scene.Itinerant options locations)
    (hoptions : scene'.session.options = scene.session.options)
    (hcalls : scene'.world.pageCalls = scene.world.pageCalls)
    (hkept : (scene'.session.queue = scene.session.queue ∧
        scene'.session.afterOpen = scene.session.afterOpen) ∨
      (scene'.session.queue = {} ∧ scene'.session.afterOpen = {})) :
    scene'.Itinerant options locations := by
  have hurls' : scene'.world.urls = scene.world.urls := by rw [World.urls, World.urls, hcalls]
  obtain ⟨visited, pending, hvisited, hurls, paired⟩ := h.itinerary
  refine ⟨hoptions.trans h.options_eq, ?_, hcalls ▸ h.restored, ?_⟩
  · rcases hkept with ⟨-, hhooks⟩ | ⟨-, hhooks⟩
    · rw [hhooks]
      exact h.hooks
    · rw [hhooks]
      exact fun _ hmem => absurd hmem List.not_mem_nil
  · rcases hkept with ⟨hqueue, -⟩ | ⟨hqueue, -⟩
    · exact ⟨visited, pending, hvisited, hurls'.trans hurls, hqueue ▸ paired⟩
    · refine ⟨visited, [], ?_, hurls'.trans hurls, hqueue ▸ .nil⟩
      rw [List.append_nil]
      exact (List.sublist_append_left visited pending).trans hvisited

/-- A run that gets engine and page ready visits some of the pending locations and gives the others
up. -/
theorem executes (h : scene.Itinerant options locations) {budget : Nat}
    {executed skipped : List (Action σ)} {answer : Except Stop Unit} {w : World σ}
    (queued : scene.session.queue.toList = executed ++ skipped)
    (executes : (setting env scene.session budget).Executes scene.world executed skipped answer w) :
    Itinerant options locations ⟨{ scene.session with queue := {} }, w⟩ := by
  obtain ⟨rfl, hhooks, hrestored, visited, pending, hvisited, hurls, paired⟩ := h
  rw [queued] at paired
  have htravels : scene.world.Travels scene.session.options pending w :=
    Setting.travels_executeAll hhooks paired executes.run
  obtain ⟨visited', hvisited', hurls'⟩ := htravels.urls
  refine ⟨rfl, hhooks, htravels.restored hrestored, visited ++ visited', [], ?_, ?_, .nil⟩
  · rw [List.append_nil]
    exact ((List.Sublist.refl visited).append hvisited').trans hvisited
  · rw [hurls', hurls, List.map_append]

theorem prepares (h : scene.Itinerant options locations) {scene' : Scene σ}
    {answer : Except Stop Unit} (prepares : scene.Prepares env answer scene') :
    scene'.Itinerant options locations := by
  have hoptions : scene'.session.options = scene.session.options := by cases prepares <;> rfl
  have hcalls : scene'.world.pageCalls = scene.world.pageCalls :=
    prepares.told (fun _ => rfl) (fun _ _ => rfl) fun _ => rfl
  exact h.of_quiet hoptions hcalls (.inl ⟨prepares.queue_eq, prepares.afterOpen_eq⟩)

theorem exits (h : scene.Itinerant options locations) {scene' : Scene σ}
    {answer : Except Stop Unit} (exits : scene.Exits env answer scene') :
    scene'.Itinerant options locations := by
  cases exits with
  | @engine answer w _ calls =>
    have hcalls : w.pageCalls = scene.world.pageCalls ++ [] :=
      World.told_ask (fun _ => rfl) calls
    exact h.of_quiet rfl (hcalls.trans (List.append_nil _)) (.inr ⟨rfl, rfl⟩)
  | no_engine _ => exact h.of_quiet rfl rfl (.inr ⟨rfl, rfl⟩)

/-- Every operation that brings in nothing by hand that leaves the page. -/
theorem goes {step : Step σ} (h : step.before.Itinerant options locations)
    (goes : Goes env step) (hlingers : step.operation.Lingers) :
    step.after.Itinerant options (locations ++ step.operation.locations) := by
  have hnil : locations ++ [] = locations := List.append_nil locations
  cases goes with
  | enqueue scene action => exact h.queueing (.of_within (List.forall_mem_singleton.mpr hlingers))
  | tell scene scope verb =>
    have hoptions : scene.session.options = options := h.options_eq
    have hactions : Paired options (scope.actions scene.session.options verb) verb.locations := by
      rw [hoptions]
      exact .of_verb options scope hlingers
    exact h.queueing hactions
  | afterOpen scene action => exact hnil.symm ▸ h.registering hlingers
  | run scene budget runs =>
    refine hnil.symm ▸ ?_
    cases runs with
    | unprepared prepares => exact h.prepares prepares
    | prepared prepares queued executes => exact (h.prepares prepares).executes queued executes
  | exit scene exits => exact hnil.symm ▸ h.exits exits
  | meanwhile scene change => exact hnil.symm ▸ h.of_quiet rfl rfl (.inl ⟨rfl, rfl⟩)

end Itinerant

/-- A history of such operations. -/
theorem after_itinerant (env : Environment σ) (options : SessionOptions) (host : σ)
    {operations : List (Operation σ)} (hlingers : ∀ operation ∈ operations, operation.Lingers) :
    ((start options host).after env operations).Itinerant options
      (operations.flatMap Operation.locations) := by
  -- from the end, since the last operation meets the session that the others have left
  induction operations using List.reverseRecOn with
  | nil => exact .start options host
  | append_singleton operations operation ih =>
    obtain ⟨hbefore, hlast⟩ := List.forall_mem_append.mp hlingers
    let scene := (start options host).after env operations
    have hgoes := perform_goes env scene operation
    have hstep : ((scene.perform env operation).before).Itinerant options
        (operations.flatMap Operation.locations) := by
      rw [before_perform]
      exact ih hbefore
    have hafter := hstep.goes hgoes (by
      rw [operation_perform]
      exact hlast operation (List.mem_singleton_self operation))
    rw [operation_perform] at hafter
    rw [after_append, List.flatMap_append, List.flatMap_singleton]
    exact hafter

end Scene

/-- Over every history of scopes that are told what to do, of runs and exits, in which the actions
that are made by hand never leave the page themselves,

* every navigation, whether it gets there or not, comes right behind a return of the page to the
  default size of the options, and the page has taken this size;
* the URLs that are gone to are the base URL with locations behind it that scopes have been told to
  open, in the order in which they have been told. -/
theorem navigations_restore_size (env : Environment σ) (options : SessionOptions) (host : σ)
    (operations : List (Operation σ)) (hlingers : ∀ operation ∈ operations, operation.Lingers) :
    let world := ((Scene.start options host).after env operations).world
    (∀ before url succeeded after,
      world.pageCalls = before ++ (.navigate url, succeeded) :: after →
        ∃ earlier, before = earlier ++ [(.setViewport options.width options.height, true)]) ∧
    List.Sublist world.urls
      ((operations.flatMap Operation.locations).map (options.baseUrl ++ ·)) := by
  intro world
  obtain ⟨-, -, hrestored, visited, pending, hvisited, hurls, -⟩ :=
    Scene.after_itinerant env options host hlingers
  refine ⟨hrestored, ?_⟩
  rw [hurls]
  exact ((List.sublist_append_left visited pending).trans hvisited).map _

/-- Two chains of verbs and an action made by hand give the page other sizes, and so does what
follows every navigation. A third navigation is given up because of a refused verb. -/
def interleavedChains : List (Operation Unit) :=
  [.afterOpen (.viewport 375 667), .tell .root (.navigate "/a"),
    .tell (.nest .root "ul") (.viewport 800 600),
    .enqueue (.ofRoutine (.call (.setViewport 320 480) fun _ => .done)),
    .tell .root (.navigate "/b"), .run 1, .tell .root (.viewport 0 0), .tell .root (.navigate "/c"),
    .run 1, .exit]

theorem navigations_restore_size_interleaved :
    let baseUrl := "http://localhost"
    let scene := (Scene.start { baseUrl := baseUrl } ()).after .granting interleavedChains
    (∀ operation ∈ interleavedChains, operation.Lingers) ∧
    scene.world.pageCalls = [(.setViewport 1920 1080, true), (.navigate (baseUrl ++ "/a"), true),
      (.setViewport 375 667, true), (.setViewport 800 600, true), (.setViewport 320 480, true),
      (.setViewport 1920 1080, true), (.navigate (baseUrl ++ "/b"), true),
      (.setViewport 375 667, true)] ∧
    List.Sublist scene.world.urls (["/a", "/b", "/c"].map (baseUrl ++ ·)) := by
  have hlingers : ∀ operation ∈ interleavedChains, operation.Lingers := by
    simp only [interleavedChains, List.forall_mem_cons]
    exact ⟨rfl, trivial, trivial, ⟨rfl, fun _ => trivial⟩, trivial, trivial, trivial, trivial,
      trivial, trivial, fun _ hmem => absurd hmem List.not_mem_nil⟩
  exact ⟨hlingers, rfl, (navigations_restore_size .granting _ () interleavedChains hlingers).2⟩

end PagePilot
