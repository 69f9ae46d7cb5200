import PagePilot.Chromium.History
import PagePilot.Proofs.Evaluation

/-!
# Releasing the browser

An engine that is asked to exit for the first time closes the tabs of its browser one after the
other, whether those before could be closed or not, and warns of each that could not. Its browser is
gone after that, whatever has come of it; to what it is asked from then on it answers by itself.

The calls to the browser are read off the notes of a browser that takes them down. Taking them down
changes nothing else, which is a part of what is proved of each step.

## Main definitions

- `Chromium.Makes` - the calls to the browser that a call makes, and what it comes to
- `Chromium.Closing` - how the calls go that are to close tabs
- `Chromium.Note.warning?` - the warning that is due for a call

## Main statements

- `Chromium.closeTabs_makes` - closing tabs, by induction on their list
- `Chromium.exit_makes`, `Chromium.engine_of_exit` - what an exit does, and that it takes the
  browser
- `Chromium.history_of_exited` - what an engine does without a browser
- `Chromium.browser_is_released_once` - the first exit, and all that comes after it
-/

namespace PagePilot

variable {ε σ τ α : Type}

namespace Host

/-- An answer or a fault, in the outside that a call has led to. -/
def ending : Except (Fault ε) α → Hosted σ → EStateM.Result (Fault ε) (Hosted σ) α
  | .ok a, w => .ok a w
  | .error fault, w => .error fault w

theorem exists_ending (call : Host ε σ α) (w : Hosted σ) :
    ∃ answer w₁, call.run w = ending answer w₁ := by
  cases h : call.run w with
  | ok a w₁ => exact ⟨.ok a, w₁, rfl⟩
  | error fault w₁ => exact ⟨.error fault, w₁, rfl⟩

variable {call : Host ε σ α} {w w₁ : Hosted σ} {answer : Except (Fault ε) α}

theorem outcome_of_ending (h : call.run w = ending answer w₁) : call.outcome w = answer := by
  rw [outcome, h]
  cases answer <;> rfl

theorem leaves_of_ending (h : call.run w = ending answer w₁) : call.leaves w = w₁ := by
  rw [leaves, h]
  cases answer <;> rfl

end Host

namespace Chromium

open Host (ending)

section Operations

/-- The fault that an operation runs into. -/
def faultOf (op : Op τ α) (host : τ) : Option (Fault String) :=
  match op.run host with
  | .ok _ _ => none
  | .error fault _ => some fault

/-- What an operation leaves. -/
def leftBy (op : Op τ α) (host : τ) : τ :=
  match op.run host with
  | .ok _ host | .error _ host => host

theorem run_noted_of_ok (call : BrowserCall) {op : Op τ α} {host host₁ : τ} {a : α}
    (h : op.run host = .ok a host₁) (notes : List Note) :
    (noted call op).run (host, notes) = .ok a (host₁, notes ++ [⟨call, none⟩]) := by
  simp only [noted, EStateM.run] at h ⊢
  rw [h]

theorem run_noted_of_error (call : BrowserCall) {op : Op τ α} {host host₁ : τ}
    {fault : Fault String} (h : op.run host = .error fault host₁) (notes : List Note) :
    (noted call op).run (host, notes) = .error fault (host₁, notes ++ [⟨call, some fault⟩]) := by
  simp only [noted, EStateM.run] at h ⊢
  rw [h]

theorem faultOf_noted (call : BrowserCall) (op : Op τ α) (host : τ) (notes : List Note) :
    faultOf (noted call op) (host, notes) = faultOf op host := by
  simp only [faultOf, noted, EStateM.run]
  cases op host <;> rfl

theorem leftBy_noted (call : BrowserCall) (op : Op τ α) (host : τ) (notes : List Note) :
    leftBy (noted call op) (host, notes)
      = (leftBy op host, notes ++ [⟨call, faultOf op host⟩]) := by
  simp only [leftBy, faultOf, noted, EStateM.run]
  cases op host <;> rfl

/-- What has been attempted after an answer leaves the answer as it is, if there is time for it. -/
def settle (fault : Option (Fault String)) (answer : Except (Fault Failure) α) :
    Except (Fault Failure) α :=
  match fault with
  | some .clockOverflow => .error .clockOverflow
  | _ => answer

theorem settle_of_ne {fault : Option (Fault String)} (h : fault ≠ some .clockOverflow)
    (answer : Except (Fault Failure) α) : settle fault answer = answer :=
  match fault, h with
  | none, _ | some (.failed _), _ => rfl
  | some .clockOverflow, h => absurd rfl h

theorem settle_ne_failed (fault : Option (Fault String)) {answer : Except (Fault Failure) α}
    (h : ∀ failure, answer ≠ .error (.failed failure)) (failure : Failure) :
    settle fault answer ≠ .error (.failed failure) :=
  match fault with
  | none | some (.failed _) => h failure
  | some .clockOverflow => nofun

end Operations

section Calls

/-- The outside with notes beside it. -/
def beside (w : Hosted τ) (notes : List Note) : Hosted (τ × List Note) :=
  ⟨(w.host, notes), w.records⟩

/-- The call ends with an answer and has made calls to the browser. Taking them down has changed
nothing else. -/
structure Makes (noting : Host ε (τ × List Note) α) (call : Host ε τ α) (w : Hosted τ)
    (calls : List Note) (answer : Except (Fault ε) α) (w₁ : Hosted τ) : Prop where
  ends : call.run w = ending answer w₁
  notes (notes : List Note) :
    noting.run (beside w notes) = ending answer (beside w₁ (notes ++ calls))

end Calls

section Closing

/-- The warning that is due for a call that is to close a tab. -/
def Note.warning? (note : Note) : Option LogRecord :=
  match note.fault with
  | some (.failed cause) => some ⟨.warn, "Failed to close tab: " ++ cause⟩
  | _ => none

/-- How the calls go that are to close tabs, and what they come to. -/
inductive Closing : List TabId → List Note → Except (Fault Failure) Unit → Prop
  | done : Closing [] [] (.ok ())
  /-- The tab is closed, or cannot be closed; the others have their turn. -/
  | next {tab : TabId} {rest : List TabId} {fault : Option (Fault String)} {closes : List Note}
      {answer : Except (Fault Failure) Unit} (hfault : fault ≠ some .clockOverflow)
      (h : Closing rest closes answer) :
      Closing (tab :: rest) (⟨.close tab, fault⟩ :: closes) answer
  /-- The end of the clock. -/
  | overflow {tab : TabId} {rest : List TabId} :
      Closing (tab :: rest) [⟨.close tab, some .clockOverflow⟩] (.error .clockOverflow)

variable {tabs : List TabId} {closes : List Note} {answer : Except (Fault Failure) Unit}

theorem Closing.calls_prefix (h : Closing tabs closes answer) :
    closes.map Note.call <+: tabs.map .close := by
  induction h with
  | done => exact List.prefix_rfl
  | next hfault h ih => exact (List.prefix_cons_inj _).mpr ih
  | overflow => exact (List.prefix_cons_inj _).mpr (List.nil_prefix)

/-- As long as there is time, every tab has its turn. -/
theorem Closing.all (h : Closing tabs closes answer)
    (hclock : ∀ note ∈ closes, note.fault ≠ some .clockOverflow) :
    closes.map Note.call = tabs.map .close ∧ answer = .ok () := by
  induction h with
  | done => exact ⟨rfl, rfl⟩
  | next hfault h ih =>
    obtain ⟨hcalls, hanswer⟩ := ih fun note hmem => hclock note (List.mem_cons_of_mem _ hmem)
    exact ⟨congrArg (_ :: ·) hcalls, hanswer⟩
  | overflow => exact absurd rfl (hclock _ List.mem_cons_self)

theorem Closing.ne_failed (h : Closing tabs closes answer) (failure : Failure) :
    answer ≠ .error (.failed failure) := by
  induction h with
  | done => nofun
  | next hfault h ih => exact ih
  | overflow => nofun

variable (browser : Browser τ)

/-- One tab, and then the others. -/
theorem run_closeTabs_next {tab : TabId} (rest : List TabId) {w : Hosted τ}
    (hfault : faultOf (browser.close tab) w.host ≠ some .clockOverflow) :
    (Engine.closeTabs browser (tab :: rest)).run w
      = (Engine.closeTabs browser rest).run ⟨leftBy (browser.close tab) w.host, w.records
          ++ (Note.warning? ⟨.close tab, faultOf (browser.close tab) w.host⟩).toList⟩ := by
  rw [Engine.closeTabs, EStateM.run_bind]
  simp only [faultOf, leftBy, Host.attempt, EStateM.run] at hfault ⊢
  cases hclose : browser.close tab w.host with
  | ok _ host => simp [Note.warning?]
  | error fault host =>
    rw [hclose] at hfault
    cases fault with
    | failed cause => rfl
    | clockOverflow => exact absurd rfl hfault

theorem run_closeTabs_overflow {tab : TabId} (rest : List TabId) {w : Hosted τ}
    (hfault : faultOf (browser.close tab) w.host = some .clockOverflow) :
    (Engine.closeTabs browser (tab :: rest)).run w
      = .error .clockOverflow ⟨leftBy (browser.close tab) w.host, w.records⟩ := by
  rw [Engine.closeTabs, EStateM.run_bind]
  simp only [faultOf, leftBy, Host.attempt, EStateM.run] at hfault ⊢
  cases hclose : browser.close tab w.host with
  | ok _ host =>
    rw [hclose] at hfault
    cases hfault
  | error fault host =>
    rw [hclose] at hfault
    cases hfault
    rfl

variable {browser} {w w₁ : Hosted τ} {tab : TabId} {rest : List TabId}

theorem makes_next (hfault : faultOf (browser.close tab) w.host ≠ some .clockOverflow)
    (h : Makes (Engine.closeTabs browser.noting rest) (Engine.closeTabs browser rest)
      ⟨leftBy (browser.close tab) w.host, w.records
        ++ (Note.warning? ⟨.close tab, faultOf (browser.close tab) w.host⟩).toList⟩
      closes answer w₁) :
    Makes (Engine.closeTabs browser.noting (tab :: rest)) (Engine.closeTabs browser (tab :: rest)) w
      (⟨.close tab, faultOf (browser.close tab) w.host⟩ :: closes) answer w₁ := by
  refine ⟨(run_closeTabs_next browser rest hfault).trans h.ends, fun notes => ?_⟩
  have hnoted : faultOf (browser.noting.close tab) (beside w notes).host
      = faultOf (browser.close tab) w.host := faultOf_noted _ _ _ _
  have hleft : leftBy (browser.noting.close tab) (beside w notes).host
      = (leftBy (browser.close tab) w.host,
        notes ++ [⟨.close tab, faultOf (browser.close tab) w.host⟩]) := leftBy_noted _ _ _ _
  have hrest := h.notes (notes ++ [⟨.close tab, faultOf (browser.close tab) w.host⟩])
  rw [List.append_assoc notes, List.singleton_append] at hrest
  rw [run_closeTabs_next browser.noting rest (hnoted.trans_ne hfault), hleft, hnoted]
  exact hrest

theorem makes_overflow (hfault : faultOf (browser.close tab) w.host = some .clockOverflow) :
    Makes (Engine.closeTabs browser.noting (tab :: rest)) (Engine.closeTabs browser (tab :: rest)) w
      [⟨.close tab, some .clockOverflow⟩] (.error .clockOverflow)
      ⟨leftBy (browser.close tab) w.host, w.records⟩ := by
  refine ⟨run_closeTabs_overflow browser rest hfault, fun notes => ?_⟩
  have hnoted : faultOf (browser.noting.close tab) (beside w notes).host
      = some .clockOverflow := (faultOf_noted _ _ _ _).trans hfault
  have hleft : leftBy (browser.noting.close tab) (beside w notes).host
      = (leftBy (browser.close tab) w.host, notes ++ [⟨.close tab, some .clockOverflow⟩]) :=
    hfault ▸ leftBy_noted _ _ _ _
  rw [run_closeTabs_overflow browser.noting rest hnoted, hleft]
  rfl

variable (browser)

/-- Closing tabs makes one call for each of them, in order, and warns of each that has failed. -/
theorem closeTabs_makes (tabs : List TabId) (w : Hosted τ) : ∃ closes answer w₁,
    Makes (Engine.closeTabs browser.noting tabs) (Engine.closeTabs browser tabs) w
        closes answer w₁ ∧
      w₁.records = w.records ++ closes.filterMap Note.warning? ∧ Closing tabs closes answer := by
  induction tabs generalizing w with
  | nil =>
    refine ⟨[], .ok (), w, ⟨rfl, fun notes => ?_⟩, (List.append_nil _).symm, .done⟩
    rw [List.append_nil]
    rfl
  | cons tab rest ih =>
    by_cases hfault : faultOf (browser.close tab) w.host = some .clockOverflow
    · exact ⟨_, _, _, makes_overflow hfault, (List.append_nil _).symm, .overflow⟩
    · obtain ⟨closes, answer, w₁, hmakes, hrecords, hclosing⟩ :=
        ih ⟨leftBy (browser.close tab) w.host, w.records
          ++ (Note.warning? ⟨.close tab, faultOf (browser.close tab) w.host⟩).toList⟩
      refine ⟨_, _, _, makes_next hfault hmakes, ?_, .next hfault hclosing⟩
      -- the warning for this tab, if one is due, comes before those for the others
      rw [hrecords, List.append_assoc, List.filterMap_cons]
      cases Note.warning? ⟨.close tab, faultOf (browser.close tab) w.host⟩ <;> rfl

end Closing

section Exit

variable (browser : Browser τ) (id : BrowserId)

/-- What an exit does before the browser is released. -/
def closeAll : Host Failure τ Unit := do
  let tabs ← Host.lift (fun cause => Failure.engine ("Failed to get tabs: " ++ cause))
    (browser.tabs id)
  Engine.closeTabs browser tabs

theorem run_closeAll {w : Hosted τ} {host : τ} {tabs : List TabId}
    (htabs : (browser.tabs id).run w.host = .ok tabs host) :
    (closeAll browser id).run w = (Engine.closeTabs browser tabs).run ⟨host, w.records⟩ := by
  rw [closeAll, EStateM.run_bind]
  simp only [Host.lift, EStateM.run] at htabs ⊢
  rw [htabs]

theorem run_closeAll_of_refused {w : Hosted τ} {host : τ} {fault : Fault String}
    (htabs : (browser.tabs id).run w.host = .error fault host) :
    (closeAll browser id).run w
      = .error (fault.map fun cause => .engine ("Failed to get tabs: " ++ cause))
        ⟨host, w.records⟩ := by
  rw [closeAll, EStateM.run_bind]
  simp only [Host.lift, EStateM.run] at htabs ⊢
  rw [htabs]

/-- An attempt to release the browser. -/
def release : Host Failure τ Unit := do
  let _ ← Host.attempt (browser.release id)
  pure ()

theorem run_release (w : Hosted τ) : (release browser id).run w
    = ending (settle (faultOf (browser.release id) w.host) (.ok ()))
      ⟨leftBy (browser.release id) w.host, w.records⟩ := by
  rw [release, EStateM.run_bind]
  simp only [faultOf, leftBy, Host.attempt, EStateM.run]
  cases browser.release id w.host with
  | ok _ host => rfl
  | error fault host => cases fault <;> rfl

/-- The browser is released whatever closing its tabs has come to. -/
theorem run_exit {w w₁ : Hosted τ} {answer : Except (Fault Failure) Unit}
    (h : (closeAll browser id).run w = ending answer w₁) :
    (Engine.exit browser ⟨some id⟩).run w
      = ending (settle (faultOf (browser.release id) w₁.host) answer)
        ⟨leftBy (browser.release id) w₁.host, w₁.records⟩ := by
  have hexit : Engine.exit browser ⟨some id⟩
      = Host.andThen (closeAll browser id) (release browser id) := rfl
  have hrelease := run_release browser id w₁
  rw [hexit]
  simp only [Host.andThen, EStateM.run] at h hrelease ⊢
  rw [h]
  -- only the end of the clock at the release takes the place of what there was to say
  match answer, faultOf (browser.release id) w₁.host, hrelease with
  | .ok _, none, hrelease | .ok _, some (.failed _), hrelease | .ok _, some .clockOverflow, hrelease
  | .error _, none, hrelease | .error _, some (.failed _), hrelease
  | .error _, some .clockOverflow, hrelease =>
    simp only [ending, settle, hrelease]

variable {browser id} {w w₁ : Hosted τ} {host : τ} {calls : List Note}
  {answer : Except (Fault Failure) Unit}

theorem closeAll_makes {tabs : List TabId}
    (htabs : (browser.tabs id).run w.host = .ok tabs host)
    (h : Makes (Engine.closeTabs browser.noting tabs) (Engine.closeTabs browser tabs)
      ⟨host, w.records⟩ calls answer w₁) :
    Makes (closeAll browser.noting id) (closeAll browser id) w (⟨.tabs id, none⟩ :: calls)
      answer w₁ := by
  refine ⟨(run_closeAll browser id htabs).trans h.ends, fun notes => ?_⟩
  have hrest := h.notes (notes ++ [⟨.tabs id, none⟩])
  rw [List.append_assoc, List.singleton_append] at hrest
  have hnoted : (browser.noting.tabs id).run (beside w notes).host
      = .ok tabs (host, notes ++ [⟨.tabs id, none⟩]) := run_noted_of_ok _ htabs notes
  exact (run_closeAll browser.noting id hnoted).trans hrest

theorem closeAll_makes_of_refused {fault : Fault String}
    (htabs : (browser.tabs id).run w.host = .error fault host) :
    Makes (closeAll browser.noting id) (closeAll browser id) w [⟨.tabs id, some fault⟩]
      (.error (fault.map fun cause => .engine ("Failed to get tabs: " ++ cause)))
      ⟨host, w.records⟩ := by
  refine ⟨run_closeAll_of_refused browser id htabs, fun notes => ?_⟩
  have hnoted : (browser.noting.tabs id).run (beside w notes).host
      = .error fault (host, notes ++ [⟨.tabs id, some fault⟩]) := run_noted_of_error _ htabs notes
  exact run_closeAll_of_refused browser.noting id hnoted

/-- The call that releases the browser is the last one. -/
theorem exit_makes
    (h : Makes (closeAll browser.noting id) (closeAll browser id) w calls answer w₁) :
    Makes (Engine.exit browser.noting ⟨some id⟩) (Engine.exit browser ⟨some id⟩) w
      (calls ++ [⟨.release id, faultOf (browser.release id) w₁.host⟩])
      (settle (faultOf (browser.release id) w₁.host) answer)
      ⟨leftBy (browser.release id) w₁.host, w₁.records⟩ := by
  refine ⟨run_exit browser id h.ends, fun notes => ?_⟩
  have hfault : faultOf (browser.noting.release id) (beside w₁ (notes ++ calls)).host
      = faultOf (browser.release id) w₁.host := faultOf_noted _ _ _ _
  have hleft : leftBy (browser.noting.release id) (beside w₁ (notes ++ calls)).host
      = (leftBy (browser.release id) w₁.host,
        notes ++ calls ++ [⟨.release id, faultOf (browser.release id) w₁.host⟩]) :=
    leftBy_noted _ _ _ _
  rw [run_exit browser.noting id (h.notes notes), hfault, hleft, List.append_assoc]
  rfl

end Exit

section Requests

/-- What a request is answered by an engine that has no browser any more. -/
def Request.withoutBrowser : (request : Request) → Except (Fault Failure) request.Answer
  | .createPage => .error (.failed .sessionClosed)
  | .exit => .ok ()

variable (browser : Browser τ) {w : Hosted (Held τ)}

/-- Operations on the browser leave the engine alone. -/
theorem run_within {op : Host Failure τ α} {answer : Except (Fault Failure) α} {w₁ : Hosted τ}
    (h : op.run ⟨w.host.inner, w.records⟩ = ending answer w₁) :
    (Held.within op).run w = ending answer ⟨⟨w₁.host, w.host.engine⟩, w₁.records⟩ := by
  simp only [Held.within, EStateM.run] at h ⊢
  rw [h]
  cases answer <;> rfl

/-- Whatever an exit comes to, the engine has no browser after it. -/
theorem run_fulfil_exit {answer : Except (Fault Failure) Unit} {w₁ : Hosted τ}
    (h : (w.host.engine.exit browser).run ⟨w.host.inner, w.records⟩ = ending answer w₁) :
    (fulfil browser .exit).run w = ending answer ⟨⟨w₁.host, .exited⟩, w₁.records⟩ :=
  run_within (w := ⟨⟨w.host.inner, .exited⟩, w.records⟩) h

theorem engine_of_exit (w : Hosted (Held τ)) :
    (serve browser w .exit).after.host.engine = .exited := by
  obtain ⟨answer, w₁, h⟩ := Host.exists_ending (w.host.engine.exit browser)
    ⟨w.host.inner, w.records⟩
  exact congrArg (·.host.engine) (Host.leaves_of_ending (run_fulfil_exit browser h))

theorem engine_of_createPage (w : Hosted (Held τ)) :
    (serve browser w .createPage).after.host.engine = w.host.engine := by
  obtain ⟨answer, w₁, h⟩ := Host.exists_ending (w.host.engine.createPage browser)
    ⟨w.host.inner, w.records⟩
  have hrun : (fulfil browser .createPage).run w
      = ending answer ⟨⟨w₁.host, w.host.engine⟩, w₁.records⟩ := run_within h
  exact congrArg (·.host.engine) (Host.leaves_of_ending hrun)

/-- What is noted of an exit is what happens without notes, and the calls that this makes. -/
theorem serve_exit {calls : List Note} {answer : Except (Fault Failure) Unit} {w₁ : Hosted τ}
    (h : Makes (w.host.engine.exit browser.noting) (w.host.engine.exit browser)
      ⟨w.host.inner, w.records⟩ calls answer w₁) :
    (serve browser w .exit).calls = calls ∧ (serve browser w .exit).answer = answer ∧
      (serve browser w .exit).after = ⟨⟨w₁.host, .exited⟩, w₁.records⟩ := by
  have hrun := run_fulfil_exit browser h.ends
  refine ⟨?_, Host.outcome_of_ending hrun, Host.leaves_of_ending hrun⟩
  have hnoted := run_fulfil_exit browser.noting
    (w := ⟨w.host.beside [], w.records⟩) (h.notes [])
  rw [serve, Host.leaves_of_ending hnoted]
  rfl

/-- Opening pages leaves an engine its browser. -/
theorem engine_after (w : Hosted (Held τ)) {requests : List Request} (h : .exit ∉ requests) :
    (after browser w requests).host.engine = w.host.engine := by
  induction requests generalizing w with
  | nil => rfl
  | cons request requests ih =>
    rw [List.mem_cons, not_or] at h
    refine (ih (serve browser w request).after h.2).trans ?_
    cases request with
    | exit => exact absurd rfl h.1
    | createPage => exact engine_of_createPage browser w

/-- An engine without a browser answers by itself. -/
theorem serve_of_exited (h : w.host.engine = .exited) (request : Request) :
    serve browser w request = ⟨request, w, request.withoutBrowser, [], w⟩ := by
  obtain ⟨⟨inner, engine⟩, records⟩ := w
  obtain rfl : engine = .exited := h
  cases request <;> rfl

theorem history_of_exited (h : w.host.engine = .exited) (requests : List Request) :
    history browser w requests
      = requests.map fun request => ⟨request, w, request.withoutBrowser, [], w⟩ := by
  induction requests with
  | nil => rfl
  | cons request requests ih =>
    rw [history, serve_of_exited browser h, List.map_cons]
    exact congrArg (_ :: ·) ih

end Requests

section History

variable (browser : Browser τ)

/-- An engine that has been launched has its browser for as long as it is only asked for pages. When
it is asked to exit for the first time, it asks the browser for the list of its tabs.

* If the browser gives the list, one call is made to close each of the tabs, in the order of the
  list, whether the calls before have failed or not, and then the browser is released. For each call
  that has failed the log gets one warning, which tells why, and nothing else. The engine does not
  fail; it could only run into the end of the clock, and if no call does, every tab has its turn and
  the engine answers that all is well.
* If the browser refuses the list, no tab is closed, the browser is released at once, and the engine
  fails and tells why.

Whatever the first exit has come to, every request after it leaves all as it is and makes no call to
the browser: further exits answer that all is well, and pages are refused, as the session is
closed. -/
theorem browser_is_released_once (id : BrowserId) (inner : τ) (records : List LogRecord)
    (earlier later : List Request) (hearlier : .exit ∉ earlier) :
    let held := after browser ⟨⟨inner, ⟨some id⟩⟩, records⟩ earlier
    let first := serve browser held .exit
    held.host.engine = ⟨some id⟩ ∧
    (∀ tabs inner₁, (browser.tabs id).run held.host.inner = .ok tabs inner₁ → ∃ closes freed,
      first.calls = ⟨.tabs id, none⟩ :: closes ++ [⟨.release id, freed⟩] ∧
      closes.map Note.call <+: tabs.map .close ∧
      first.after.records = held.records ++ closes.filterMap Note.warning? ∧
      (∀ failure, first.answer ≠ .error (.failed failure)) ∧
      ((∀ note ∈ first.calls, note.fault ≠ some .clockOverflow) →
        closes.map Note.call = tabs.map .close ∧ first.answer = .ok ())) ∧
    (∀ cause inner₁, (browser.tabs id).run held.host.inner = .error (.failed cause) inner₁ →
      ∃ freed, first.calls = [⟨.tabs id, some (.failed cause)⟩, ⟨.release id, freed⟩] ∧
        first.after.records = held.records ∧
        (freed ≠ some .clockOverflow →
          first.answer = .error (.failed (.engine ("Failed to get tabs: " ++ cause))))) ∧
    first.after.host.engine = .exited ∧
    history browser first.after later = later.map fun request =>
      ⟨request, first.after, request.withoutBrowser, [], first.after⟩ := by
  intro held first
  have hengine : held.host.engine = ⟨some id⟩ :=
    engine_after browser ⟨⟨inner, ⟨some id⟩⟩, records⟩ hearlier
  have hserved {calls : List Note} {answer : Except (Fault Failure) Unit} {w₁ : Hosted τ}
      (h : Makes (Engine.exit browser.noting ⟨some id⟩) (Engine.exit browser ⟨some id⟩)
        ⟨held.host.inner, held.records⟩ calls answer w₁) :
      first.calls = calls ∧ first.answer = answer ∧
        first.after = ⟨⟨w₁.host, .exited⟩, w₁.records⟩ := by
    rw [← hengine] at h
    exact serve_exit browser h
  have hexited : first.after.host.engine = .exited := engine_of_exit browser held
  refine ⟨hengine, fun tabs inner₁ htabs => ?_, fun cause inner₁ htabs => ?_, hexited,
    history_of_exited browser hexited later⟩
  · obtain ⟨closes, answer, w₁, hmakes, hrecords, hclosing⟩ :=
      closeTabs_makes browser tabs ⟨inner₁, held.records⟩
    obtain ⟨hcalls, hanswer, hafter⟩ := hserved (exit_makes (closeAll_makes htabs hmakes))
    rw [hcalls, hafter]
    refine ⟨closes, _, rfl, hclosing.calls_prefix, hrecords, fun failure hfailure => ?_,
      fun hclock => ?_⟩
    · exact settle_ne_failed _ hclosing.ne_failed failure (hanswer.symm.trans hfailure)
    · obtain ⟨hall, hdone⟩ := hclosing.all fun note hmem =>
        hclock note (List.mem_append_left _ (List.mem_cons_of_mem _ hmem))
      have hfreed := hclock _ (List.mem_append_right _ (List.mem_singleton_self _))
      exact ⟨hall, hanswer.trans ((settle_of_ne hfreed answer).trans hdone)⟩
  · obtain ⟨hcalls, hanswer, hafter⟩ := hserved (exit_makes (closeAll_makes_of_refused htabs))
    rw [hcalls, hafter]
    exact ⟨_, rfl, rfl, fun hfreed => hanswer.trans (settle_of_ne hfreed _)⟩

/-- A browser with three tabs, of which the second cannot be closed, and one that does not give its
list of tabs. -/
theorem browser_is_released_once_stubborn :
    let stubborn := { Browser.answering none with
      tabs := fun _ => pure [7, 8, 9]
      close := fun tab => if tab = 8 then throw (.failed "detached") else pure () }
    let silent := { Browser.answering none with tabs := fun _ => throw (.failed "poisoned") }
    let first (browser : Browser Unit) :=
      serve browser (after browser ⟨⟨(), ⟨some 0⟩⟩, []⟩ [.createPage]) .exit
    ((first stubborn).calls.map Note.call = [.tabs 0, .close 7, .close 8, .close 9, .release 0] ∧
      (first stubborn).answer = .ok () ∧
      (first stubborn).after.records = [⟨.warn, "Failed to close tab: detached"⟩]) ∧
    (first silent).answer = .error (.failed (.engine "Failed to get tabs: poisoned")) ∧
    ∀ browser ∈ [stubborn, silent], history browser (first browser).after [.exit, .createPage]
      = [⟨.exit, (first browser).after, .ok (), [], (first browser).after⟩,
        ⟨.createPage, (first browser).after, .error (.failed .sessionClosed), [],
          (first browser).after⟩] := by
  intro stubborn silent first
  have hreleased (browser : Browser Unit) := browser_is_released_once browser 0 () []
    [.createPage] [.exit, .createPage] (by decide)
  have hcalls : (first stubborn).calls = [⟨.tabs 0, none⟩, ⟨.close 7, none⟩,
    ⟨.close 8, some (.failed "detached")⟩, ⟨.close 9, none⟩, ⟨.release 0, none⟩] := rfl
  refine ⟨⟨?_, ?_, ?_⟩, ?_, fun browser _ => (hreleased browser).2.2.2.2⟩
  · rw [hcalls]
    rfl
  · obtain ⟨closes, freed, -, -, -, -, hall⟩ := (hreleased stubborn).2.1 [7, 8, 9] () rfl
    have hclock : ∀ note ∈ (first stubborn).calls, note.fault ≠ some .clockOverflow := by
      rw [hcalls]
      simp
    exact (hall hclock).2
  · rfl
  · obtain ⟨freed, hcalls, -, hrefused⟩ := (hreleased silent).2.2.1 "poisoned" () rfl
    cases hcalls
    exact hrefused nofun

end History

end Chromium

end PagePilot
