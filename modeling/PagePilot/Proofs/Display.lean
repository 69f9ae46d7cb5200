import Mathlib.Logic.Function.Basic
import PagePilot.Simulation.Engine

/-!
# Pages that show a document

A page that answers the page functions as a document in memory does, and a simulated engine with
such a page.

## Main definitions

- `Simulation.Dom` - a document, reduced to the elements that match each selector
- `Environment.Shows` - the page of an environment answers from a document in memory
- `Simulation.EngineStage.Plays` - nothing is prepared for a simulated engine but its document

## Main statements

- `PageFunction.source_injective` - the text of a page function tells which one it is
- `Simulation.environment_shows` - the page of a simulated engine answers from its document
-/

namespace PagePilot

open Simulation (Element Document)

variable {σ : Type}

/-- The elements that match each selector. -/
abbrev Simulation.Dom := String → List Element

/-- The page of an environment answers the page functions as a document in memory does, which it
shows, and can be started without a change of the document. -/
structure Environment.Shows (env : Environment σ) (shows : σ → Simulation.Dom → Prop) : Prop where
  evaluate {before : Hosted σ} {dom : Simulation.Dom} (f : PageFunction) (args : List Json) :
    shows before.host dom →
      let selector := Document.textArg args 0
      let seen := Document.answerSeen f (dom selector) args
      ∃ after, (env.call (.evaluate f.source args)).run before = .ok seen.1 after ∧
        shows after.host (Function.update dom selector seen.2)
  launch {before : Hosted σ} {dom : Simulation.Dom} (params : LaunchParams) :
    shows before.host dom →
      ∃ after, (env.launch params).run before = .ok () after ∧ shows after.host dom
  createPage {before : Hosted σ} {dom : Simulation.Dom} :
    shows before.host dom →
      ∃ after, env.createPage.run before = .ok () after ∧ shows after.host dom

namespace PageFunction

/-- The number of characters of the text of a function. -/
def length : PageFunction → Nat
  | .click => 253
  | .clickTarget => 220
  | .setValue => 358
  | .count => 78
  | .hasClass => 157
  | .visible => 197
  | .value => 200
  | .text => 274
  | .checked => 136

set_option maxRecDepth 4000 in
theorem exists_chars (f : PageFunction) :
    ∃ chars, f.source = String.ofList chars ∧ chars.length = f.length := by
  cases f <;> exact ⟨_, rfl, rfl⟩

/-- The texts are as different as their lengths. -/
theorem source_injective : Function.Injective source := by
  intro f g h
  obtain ⟨chars, hf, hlength⟩ := f.exists_chars
  obtain ⟨chars', hg, hlength'⟩ := g.exists_chars
  rw [hf, hg] at h
  obtain rfl := String.ofList_inj.mp h
  have hsame : f.length = g.length := hlength.symm.trans hlength'
  cases f <;> cases g <;> first | rfl | exact absurd hsame (by decide)

theorem ofSource?_source (f : PageFunction) : ofSource? f.source = some f := by
  have hsame : (fun g : PageFunction => g.source == f.source) = fun g => g == f := by
    funext g
    rw [Bool.eq_iff_iff, beq_iff_eq, beq_iff_eq, source_injective.eq_iff]
  rw [ofSource?, hsame]
  cases f <;> rfl

theorem ofLabel?_label (f : PageFunction) : ofLabel? f.label = some f := by
  cases f <;> decide

end PageFunction

namespace Simulation

/-- What is found in an association list in which a key has been put. -/
theorem find?_put {α : Type} (entries : List (String × α)) (key other : String) (value : α) :
    ((key, value) :: entries.filter fun (name, _) => name != key).find?
        (fun (name, _) => name == other)
      = if key = other then some (key, value)
        else entries.find? fun (name, _) => name == other := by
  by_cases h : key = other
  · rw [if_pos h, List.find?_cons_of_pos (by simpa using h)]
  · rw [if_neg h, List.find?_cons_of_neg (by simpa using h), List.find?_filter]
    congr 1
    funext entry
    grind

theorem Document.elements_put (document : Document) (selector : String)
    (elements : List Element) :
    (document.put selector elements).elements
      = Function.update document.elements selector elements := by
  funext other
  rw [Document.elements, Document.put, find?_put, Function.update_apply]
  by_cases h : selector = other
  · rw [if_pos h, if_pos h.symm]
  · rw [if_neg h, if_neg (Ne.symm h)]
    rfl

theorem Script.get_put_nil {ε : Type} {script : Script ε} (h : ∀ name, script.get name = [])
    (name other : String) : (script.put name []).get other = [] := by
  have hother := h other
  rw [Script.get] at hother
  rw [Script.get, Script.put, find?_put]
  by_cases heq : name = other
  · rw [if_pos heq]
  · rw [if_neg heq]
    exact hother

theorem functionName_source (f : PageFunction) : functionName f.source = f.label := by
  unfold functionName
  rw [PageFunction.ofSource?_source]

/-- Nothing is prepared, all elements are there from the start, and the document is this. -/
structure EngineStage.Plays (stage : EngineStage) (dom : Dom) : Prop where
  script (name : String) : stage.script.get name = []
  appearsAt : stage.parts.appearsAt = []
  elements : stage.parts.document.elements = dom

namespace EngineStage.Plays

variable {stage : EngineStage} {dom : Dom} (h : EngineStage.Plays stage dom)

include h

/-- Events are noted. -/
theorem record (name : String) (details : List Json) :
    ∃ after, (Stage.record name details : Call Unit).run stage = .ok () after ∧
      EngineStage.Plays after dom :=
  ⟨stage.noteEvent (.arr (.str name :: details)), rfl, h.script, h.appearsAt, h.elements⟩

/-- No outcome is found, and none is there afterwards. -/
theorem outcome (name : String) :
    ∃ after, (Stage.outcome name : Call (Option Json)).run stage = .ok none after ∧
      EngineStage.Plays after dom := by
  refine ⟨{ stage with script := stage.script.put name [] }, ?_,
    Script.get_put_nil h.script name, h.appearsAt, h.elements⟩
  simp only [Stage.outcome, EStateM.run_bind, EStateM.run_get, h.script name, nextOutcome]
  rfl

theorem announce (name : String) (details : List Json) :
    ∃ after, (Simulation.announce name details).run stage = .ok () after ∧
      EngineStage.Plays after dom := by
  obtain ⟨noted, hrecord, hnoted⟩ := h.record name details
  obtain ⟨after, houtcome, hafter⟩ := hnoted.outcome name
  refine ⟨after, ?_, hafter⟩
  simp only [Simulation.announce, EStateM.run_bind, hrecord, houtcome]
  rfl

theorem answer (f : PageFunction) (args : List Json) :
    let selector := Document.textArg args 0
    let seen := Document.answerSeen f (dom selector) args
    let given := stage.parts.document.answer (EngineStage.appeared stage) f args
    given.1 = seen.1 ∧ given.2.elements = Function.update dom selector seen.2 := by
  have hthere (selector : String) : EngineStage.appeared stage selector = true := by
    rw [EngineStage.appeared, h.appearsAt]
    rfl
  simp only [Document.answer, hthere, if_true, h.elements]
  -- all functions but one leave what they have seen
  cases f with
  | setValue => exact ⟨rfl, by rw [Document.elements_put, h.elements]⟩
  | _ => exact ⟨rfl, h.elements.trans (Function.update_eq_self _ _).symm⟩

/-- A page function is answered from the document. -/
theorem consult (f : PageFunction) (args : List Json) :
    let selector := Document.textArg args 0
    let seen := Document.answerSeen f (dom selector) args
    ∃ after, (Simulation.consult f.label args).run stage = .ok seen.1 after ∧
      EngineStage.Plays after (Function.update dom selector seen.2) := by
  obtain ⟨hanswer, helements⟩ := h.answer f args
  let document := (stage.parts.document.answer (EngineStage.appeared stage) f args).2
  refine ⟨{ stage with parts := { stage.parts with document := document } }, ?_,
    h.script, h.appearsAt, helements⟩
  rw [Simulation.consult, PageFunction.ofLabel?_label, ← hanswer]
  rfl

/-- Nothing is prepared that would come before the document. -/
theorem evaluate (f : PageFunction) (args : List Json) :
    let selector := Document.textArg args 0
    let seen := Document.answerSeen f (dom selector) args
    ∃ after, (Simulation.evaluate f.source args).run stage = .ok seen.1 after ∧
      EngineStage.Plays after (Function.update dom selector seen.2) := by
  obtain ⟨noted, hrecord, hnoted⟩ := h.record "evaluate" [.str f.label, .arr args]
  obtain ⟨special, hspecial, hnone⟩ := hnoted.outcome ("evaluate:" ++ f.label)
  obtain ⟨general, hgeneral, hnone⟩ := hnone.outcome "evaluate"
  obtain ⟨after, hconsult, hafter⟩ := hnone.consult f args
  refine ⟨after, ?_, hafter⟩
  simp only [Simulation.evaluate, functionName_source, EStateM.run_bind, hrecord, hspecial,
    hgeneral]
  exact hconsult

end EngineStage.Plays

theorem run_lift_of_ok {α : Type} {op : Call α} {before : Hosted EngineStage} {answer : α}
    {after : EngineStage} (h : op.run before.host = .ok answer after) :
    (Host.lift (δ := Failure) id op).run before = .ok answer ⟨after, before.records⟩ := by
  obtain ⟨host, records⟩ := before
  simp only [Host.lift, EStateM.run] at h ⊢
  rw [h]

/-- The page of a simulated engine for which nothing is prepared answers from its document. -/
theorem environment_shows : environment.Shows EngineStage.Plays where
  evaluate f args h := by
    obtain ⟨after, hrun, hafter⟩ := h.evaluate f args
    exact ⟨_, run_lift_of_ok hrun, hafter⟩
  launch params h := by
    obtain ⟨after, hrun, hafter⟩ := h.announce "launch" _
    exact ⟨_, run_lift_of_ok hrun, hafter⟩
  createPage h := by
    obtain ⟨after, hrun, hafter⟩ := h.announce "create_page" []
    exact ⟨_, run_lift_of_ok hrun, hafter⟩

end Simulation

end PagePilot
