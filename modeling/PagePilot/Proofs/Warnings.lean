import PagePilot.Chromium.Engine
import PagePilot.Simulation.Engine

/-!
# What the outside logs

Calls to the outside may write to the log. What they write is of a kind if whatever they are put
together from writes lines of that kind only.

## Main definitions

- `Host.Logs`, `Environment.Logs` - whatever the outside logs is of a kind

## Main statements

- `Chromium.environment_logs` - Chromium logs warnings only
- `Simulation.environment_logs` - the simulated engine logs nothing
-/

namespace PagePilot

variable {σ τ ε α β : Type}

/-- If all lines of the log are of a kind, they still are after the call, whether it succeeds or
not. -/
def Host.Logs (P : LogRecord → Prop) (call : Host ε σ α) : Prop :=
  ∀ w, (∀ record ∈ w.records, P record) →
    match call.run w with
    | .ok _ w₁ | .error _ w₁ => ∀ record ∈ w₁.records, P record

namespace Host.Logs

variable {P : LogRecord → Prop}

theorem of_ok {call : Host ε σ α} (h : Logs P call) {w w₁ : Hosted σ} {a : α}
    (hw : ∀ record ∈ w.records, P record) (hcall : call.run w = .ok a w₁) :
    ∀ record ∈ w₁.records, P record := by
  have hcalled := h w hw
  rwa [hcall] at hcalled

theorem of_error {call : Host ε σ α} (h : Logs P call) {w w₁ : Hosted σ} {fault : Fault ε}
    (hw : ∀ record ∈ w.records, P record) (hcall : call.run w = .error fault w₁) :
    ∀ record ∈ w₁.records, P record := by
  have hcalled := h w hw
  rwa [hcall] at hcalled

theorem pure (a : α) : Logs P (Pure.pure a : Host ε σ α) :=
  fun _ hw => hw

theorem throw (fault : Fault ε) : Logs P (MonadExcept.throw fault : Host ε σ α) :=
  fun _ hw => hw

theorem get : Logs P (get : Host ε σ (Hosted σ)) :=
  fun _ hw => hw

theorem bind {call : Host ε σ α} {next : α → Host ε σ β} (h : Logs P call)
    (hnext : ∀ a, Logs P (next a)) : Logs P (call >>= next) := by
  intro w hw
  rw [EStateM.run_bind]
  cases hcall : call.run w with
  | ok a w₁ => exact hnext a w₁ (h.of_ok hw hcall)
  | error fault w₁ => exact h.of_error hw hcall

theorem forM {call : α → Host ε σ Unit} (h : ∀ a, Logs P (call a)) (as : List α) :
    Logs P (as.forM call) := by
  induction as with
  | nil => exact .pure _
  | cons a rest ih => exact (h a).bind fun _ => ih

theorem warn {text : String} (h : P ⟨.warn, text⟩) : Logs P (Host.warn text : Host ε σ Unit) := by
  intro w hw record hrecord
  rcases List.mem_append.mp hrecord with hold | hnew
  · exact hw record hold
  · rw [List.mem_singleton.mp hnew]
    exact h

theorem lift {δ : Type} (tell : ε → δ) (op : EStateM (Fault ε) σ α) :
    Logs P (Host.lift tell op) := by
  rintro ⟨host, records⟩ hw
  simp only [Host.lift, EStateM.run]
  cases op host <;> exact hw

theorem attempt (op : EStateM (Fault ε) σ α) : Logs P (Host.attempt op : Host δ σ _) := by
  intro w hw
  simp only [Host.attempt, EStateM.run]
  match op w.host with
  | .ok _ _ | .error (.failed _) _ | .error .clockOverflow _ => exact hw

theorem andThen {body : Host ε σ α} {cleanup : Host ε σ Unit} (hbody : Logs P body)
    (hcleanup : Logs P cleanup) : Logs P (Host.andThen body cleanup) := by
  intro w hw
  simp only [Host.andThen, EStateM.run]
  cases hb : body w with
  | ok a w₁ =>
    have hdone := hbody.of_ok hw hb
    cases hc : cleanup w₁ with
    | ok _ w₂ => simpa only [hc] using hcleanup.of_ok hdone hc
    | error fault w₂ => simpa only [hc] using hcleanup.of_error hdone hc
  | error fault w₁ =>
    have hdone := hbody.of_error hw hb
    cases hc : cleanup w₁ with
    | ok _ w₂ => simpa only [hc] using hcleanup.of_ok hdone hc
    | error fault₁ w₂ => cases fault₁ <;> simpa only [hc] using hcleanup.of_error hdone hc

theorem any (call : Host ε σ α) : Logs (fun _ => True) call := by
  intro w _
  cases call.run w <;> exact fun _ _ => trivial

end Host.Logs

/-- Whatever the outside logs is of a kind. -/
structure Environment.Logs (env : Environment σ) (P : LogRecord → Prop) : Prop where
  launch (params : LaunchParams) : Host.Logs P (env.launch params)
  createPage : Host.Logs P env.createPage
  exit : Host.Logs P env.exit
  call (call : PageCall) : Host.Logs P (env.call call)
  sleep (d : Duration) : Host.Logs P (env.sleep d)

/-- Of lines of any kind, every outside logs nothing else. -/
theorem Environment.logs_any (env : Environment σ) : env.Logs fun _ => True where
  launch _ := .any _
  createPage := .any _
  exit := .any _
  call _ := .any _
  sleep _ := .any _

namespace Chromium

variable {P : LogRecord → Prop}

theorem logs_onInner {op : Host Failure τ α} (h : Host.Logs P op) : Host.Logs P (onInner op) := by
  intro w hw
  simp only [onInner, EStateM.run]
  cases hop : op ⟨w.host.inner, w.records⟩ with
  | ok a after => exact h.of_ok (w := ⟨w.host.inner, w.records⟩) hw hop
  | error fault after => exact h.of_error (w := ⟨w.host.inner, w.records⟩) hw hop

theorem logs_change (f : Machine τ → Machine τ) : Host.Logs P (change f) :=
  fun _ hw => hw

variable (browser : Browser τ)

theorem logs_perform (tab : TabId) (call : PageCall) : Host.Logs P (perform browser tab call) := by
  cases call with
  | navigate url => exact (Host.Logs.lift _ _).bind fun _ => .lift _ _
  | evaluate function args =>
    refine (Host.Logs.lift _ _).bind fun answer => ?_
    cases decodeAnswer answer with
    | ok value => exact .pure _
    | error failure => exact .throw _
  | setViewport width height => exact .lift _ _
  | render path => exact (Host.Logs.lift _ _).bind fun _ => .lift _ _
  | clickAt x y => exact .lift _ _

variable (hwarn : ∀ text, P ⟨.warn, text⟩)

include hwarn

theorem logs_launch (options : Options) (params : LaunchParams) :
    Host.Logs P (launch browser options params) := by
  have hwarned : Host.Logs P (warnUnsupported params : Host Failure τ Unit) :=
    .forM (fun name => .warn (hwarn _)) _
  exact hwarned.bind fun _ => (Host.Logs.lift _ _).bind fun _ => .pure _

theorem logs_closeTabs (tabs : List TabId) : Host.Logs P (Engine.closeTabs browser tabs) := by
  induction tabs with
  | nil => exact .pure _
  | cons tab rest ih =>
    rw [Engine.closeTabs]
    refine (Host.Logs.attempt _).bind fun closed => ?_
    cases closed with
    | ok _ => exact ih
    | error cause => exact (Host.Logs.warn (hwarn _)).bind fun _ => ih

theorem logs_exit (engine : Engine) : Host.Logs P (engine.exit browser) := by
  rw [Engine.exit]
  cases engine.running with
  | none => exact .pure _
  | some id =>
    refine .andThen ?_ ?_
    · exact (Host.Logs.lift _ _).bind fun tabs => logs_closeTabs browser hwarn tabs
    · exact (Host.Logs.attempt _).bind fun _ => .pure _

omit hwarn in
/-- Chromium logs warnings only. -/
theorem environment_logs (options : Options) (now : τ → Duration × τ)
    (sleep : Duration → Op τ Unit) :
    (environment browser options now sleep).Logs (·.level = .warn) where
  launch params :=
    (logs_onInner (logs_launch browser (fun _ => rfl) options params)).bind fun _ => logs_change _
  createPage := by
    refine Host.Logs.get.bind fun w => ?_
    cases w.host.engine with
    | none => exact .throw _
    | some engine =>
      refine (logs_onInner ?_).bind fun _ => logs_change _
      rw [Engine.createPage]
      cases engine.running with
      | none => exact .throw _
      | some id => exact .lift _ _
  exit := by
    refine Host.Logs.get.bind fun w => ?_
    cases w.host.engine with
    | none => exact .pure _
    | some engine =>
      exact (logs_change _).bind fun _ => logs_onInner (logs_exit browser (fun _ => rfl) engine)
  call call := by
    refine Host.Logs.get.bind fun w => ?_
    cases w.host.page with
    | none => exact .throw _
    | some tab => exact logs_onInner (logs_perform browser tab call)
  sleep d := logs_onInner (.lift _ _)

end Chromium

/-- The simulated engine logs nothing. -/
theorem Simulation.environment_logs (P : LogRecord → Prop) : environment.Logs P where
  launch _ := .lift _ _
  createPage := .lift _ _
  exit := .lift _ _
  call _ := .lift _ _
  sleep _ := .lift _ _

end PagePilot
