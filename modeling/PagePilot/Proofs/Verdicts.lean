import PagePilot.Proofs.Journal
import PagePilot.Proofs.Json.Grammar

/-!
# What element actions make of an answer

Clicks and setting a value ask the page once. Every answer is either the one that is hoped for, or
a failure that is told by its kind; what the page stops with is passed on. The mouse is moved only
to a point that the answer describes.

## Main definitions

- `Json.PointsAt` - a value describes a point
- `Setting.AsksOnce` - a run asks the page once, and acts on the answer

## Main statements

- `ClickPoint.ofJson_eq_ok_iff` - the values that are taken for points
- `element_actions_judge` - what clicks and setting a value make of every answer
-/

namespace PagePilot

variable {σ : Type}

/-- The value describes a point: an object that gives `left` and `top` once each, as numbers, or a
list of these two numbers. -/
inductive Json.PointsAt : Json → Float → Float → Prop
  | members {members : List (String × Json)} {left top : Json.Number}
      (hleft : members.filter (·.1 = "left") = [("left", .num left)])
      (htop : members.filter (·.1 = "top") = [("top", .num top)]) :
      PointsAt (.obj members) left.toFloat top.toFloat
  | items (left top : Json.Number) : PointsAt (.arr [.num left, .num top]) left.toFloat top.toFloat

namespace ClickPoint

variable {members : List (String × Json)} {x y : Float}

theorem coordinate_eq_ok_iff {value : Json} :
    coordinate value = .ok x ↔ ∃ n, value = .num n ∧ n.toFloat = x := by
  constructor
  · intro h
    cases value with
    | num n =>
      cases h
      exact ⟨n, rfl, rfl⟩
    | _ => cases h
  · rintro ⟨n, rfl, rfl⟩
    rfl

/-- A coordinate that has been read is not given again; one that has not is given once. -/
def Supplies (members : List (String × Json)) (key : String) : Option Float → Float → Prop
  | none, x => ∃ n, members.filter (·.1 = key) = [(key, .num n)] ∧ n.toFloat = x
  | some given, x => members.filter (·.1 = key) = [] ∧ given = x

theorem supplies_cons_of_ne {key other : String} (h : other ≠ key) {value : Json}
    (given : Option Float) :
    Supplies ((other, value) :: members) key given x ↔ Supplies members key given x := by
  have hfilter : ((other, value) :: members).filter (·.1 = key)
      = members.filter (·.1 = key) := List.filter_cons_of_neg (by simpa using h)
  cases given <;> simp only [Supplies, hfilter]

theorem supplies_cons_self {key : String} {value : Json} (given : Option Float) :
    Supplies ((key, value) :: members) key given x ↔
      given = none ∧ ∃ c, coordinate value = .ok c ∧ Supplies members key (some c) x := by
  have hfilter : ((key, value) :: members).filter (·.1 = key)
      = (key, value) :: members.filter (·.1 = key) := List.filter_cons_of_pos (by simp)
  cases given with
  | some given => simp [Supplies, hfilter]
  | none =>
    simp only [Supplies, hfilter, coordinate_eq_ok_iff, List.cons.injEq, Prod.mk.injEq, true_and]
    constructor
    · rintro ⟨n, ⟨rfl, hnone⟩, rfl⟩
      exact ⟨_, ⟨n, rfl, rfl⟩, hnone, rfl⟩
    · rintro ⟨_, ⟨n, rfl, rfl⟩, hnone, rfl⟩
      exact ⟨n, ⟨rfl, hnone⟩, rfl⟩

/-- Reading a coordinate succeeds if it has not been read, and is a number. -/
theorem take_eq_ok_iff {given : Option Float} {value : Json} {reason : Json.Reason}
    {next : Float → Except Json.Reason (Float × Float)} {point : Float × Float} :
    (if given.isSome then .error reason else coordinate value >>= next) = .ok point ↔
      given = none ∧ ∃ c, coordinate value = .ok c ∧ next c = .ok point := by
  cases given with
  | some given => simp
  | none =>
    rw [if_neg (by simp)]
    cases hvalue : coordinate value with
    | error reason =>
      refine iff_of_false (fun h => ?_) ?_
      · cases h
      · rintro ⟨-, c, hc, -⟩
        cases hc
    | ok c =>
      show next c = .ok point ↔ _
      simp

/-- A point is read from members that supply both coordinates. -/
theorem ofMembers_eq_ok_iff (left top : Option Float) : ofMembers members left top = .ok (x, y) ↔
    Supplies members "left" left x ∧ Supplies members "top" top y := by
  induction members generalizing left top with
  | nil => cases left <;> cases top <;> simp [ofMembers, Supplies]
  | cons member members ih =>
    obtain ⟨key, value⟩ := member
    have hne : "left" ≠ "top" := by decide
    rw [ofMembers]
    by_cases hleft : key = "left"
    · subst hleft
      rw [if_pos rfl, take_eq_ok_iff, supplies_cons_self, supplies_cons_of_ne hne]
      simp only [ih, and_assoc, ← exists_and_right]
    · rw [if_neg hleft, supplies_cons_of_ne hleft]
      by_cases htop : key = "top"
      · subst htop
        rw [if_pos rfl, take_eq_ok_iff, supplies_cons_self]
        simp only [ih]
        constructor
        · rintro ⟨hnone, c, hc, hx, hy⟩
          exact ⟨hx, hnone, c, hc, hy⟩
        · rintro ⟨hx, hnone, c, hc, hy⟩
          exact ⟨hnone, c, hc, hx, hy⟩
      · rw [if_neg htop, supplies_cons_of_ne htop]
        exact ih left top

theorem ofItems_eq_ok_iff {items : List Json} : ofItems items = .ok (x, y) ↔
    ∃ left top, items = [.num left, .num top] ∧ left.toFloat = x ∧ top.toFloat = y := by
  constructor
  · intro h
    rw [ofItems.eq_def] at h
    split at h
    · cases h
    · obtain ⟨_, -, h⟩ := Json.bind_eq_ok h
      cases h
    · next first second rest =>
      obtain ⟨x', hfirst, h⟩ := Json.bind_eq_ok h
      obtain ⟨y', hsecond, h⟩ := Json.bind_eq_ok h
      split at h
      · next hempty =>
        cases h
        obtain ⟨left, rfl, rfl⟩ := coordinate_eq_ok_iff.mp hfirst
        obtain ⟨top, rfl, rfl⟩ := coordinate_eq_ok_iff.mp hsecond
        rw [List.isEmpty_iff.mp hempty]
        exact ⟨left, top, rfl, rfl, rfl⟩
      · cases h
  · rintro ⟨left, top, rfl, rfl, rfl⟩
    rfl

/-- The values that are taken for points. -/
theorem ofJson_eq_ok_iff {value : Json} : ofJson value = .ok (x, y) ↔ value.PointsAt x y := by
  constructor
  · intro h
    cases value with
    | obj members =>
      obtain ⟨⟨left, hleft, rfl⟩, top, htop, rfl⟩ := (ofMembers_eq_ok_iff none none).mp h
      exact .members hleft htop
    | arr items =>
      obtain ⟨left, top, rfl, rfl, rfl⟩ := ofItems_eq_ok_iff.mp h
      exact .items left top
    | _ => cases h
  · rintro (⟨hleft, htop⟩ | ⟨left, top⟩)
    · exact (ofMembers_eq_ok_iff none none).mpr ⟨⟨_, hleft, rfl⟩, _, htop, rfl⟩
    · rfl

theorem clickPoint_of_pointsAt {answer : Json} (selector : String) (h : answer.PointsAt x y) :
    clickPoint selector answer = .ok (x, y) := by
  have hnull : answer.isNull = false := by cases h <;> rfl
  simp only [clickPoint, hnull, Bool.false_eq_true, if_false, ofJson_eq_ok_iff.mpr h]

theorem clickPoint_of_not_pointsAt {answer : Json} (selector : String) (hnull : answer ≠ .null)
    (h : ∀ x y, ¬ answer.PointsAt x y) : ∃ reason, clickPoint selector answer
      = .error (.engine ("Bad click target for " ++ selector ++ ": " ++ reason)) := by
  have hsome : answer.isNull = false := by
    cases answer with
    | null => exact absurd rfl hnull
    | _ => rfl
  cases hpoint : ofJson answer with
  | ok point => exact absurd (ofJson_eq_ok_iff.mp hpoint) (h point.1 point.2)
  | error reason =>
    refine ⟨reason.message, ?_⟩
    simp only [clickPoint, hsome, Bool.false_eq_true, if_false, hpoint]

end ClickPoint

section Verdicts

variable {selector : String} {answer : Json}

theorem clickVerdict_of_ne (selector : String) (h : answer ≠ .bool true) :
    clickVerdict selector answer = .error (.elementNotFound selector) := by
  rw [clickVerdict.eq_def]
  split
  · exact absurd rfl h
  · rfl

theorem setValueVerdict_of_ne (selector : String) (hok : answer ≠ .str "ok")
    (hinput : answer ≠ .str "not-input") (hmissing : answer ≠ .str "missing") :
    setValueVerdict selector answer = .error (.engine
      ("Unexpected set_value result for " ++ selector ++ ": " ++ answer.text)) := by
  have htext {s : String} (h : answer.asText? = some s) : answer = .str s := by
    cases answer with
    | str _ =>
      cases h
      rfl
    | _ => cases h
  rw [setValueVerdict]
  split
  · next h => exact absurd (htext h) hok
  · next h => exact absurd (htext h) hinput
  · next h => exact absurd (htext h) hmissing
  · rfl

end Verdicts

namespace Setting

variable (s : Setting σ)

/-- A run asks the page once. What the page stops with, the run stops with; for each answer, it goes
on as stated for the world that the answer leaves. -/
def AsksOnce (function : String) (args : List Json) (run : Run (World σ) Unit) (w : World σ)
    (judges : Json → World σ → Prop) : Prop :=
  ∃ answered w₁, (s.evaluate function args).run w = Run.ending answered w₁ ∧
    w₁.calls = w.calls ++ [.called (.evaluate function args) answered.isOk] ∧
    match answered with
    | .error stop => run.run w = .error stop w₁
    | .ok answer => judges answer w₁

theorem asksOnce_of_bind {function : String} {args : List Json} {next : Json → Run (World σ) Unit}
    {w : World σ} {judges : Json → World σ → Prop}
    (h : ∀ answer w₁, (s.evaluate function args >>= next).run w = (next answer).run w₁ →
      judges answer w₁) :
    s.AsksOnce function args (s.evaluate function args >>= next) w judges := by
  obtain ⟨answered, w₁, hasked⟩ := Run.exists_ending (s.evaluate function args) w
  refine ⟨answered, w₁, hasked, World.calls_ask (fun _ => rfl) hasked, ?_⟩
  cases answered with
  | error stop => exact Run.run_bind_of_error hasked
  | ok answer => exact h answer w₁ (Run.run_bind_of_ok hasked)

end Setting

/-- The three actions that change an element ask the page once, and nothing but its answer decides
what they come to; what the page stops with, they stop with. In a world that the answer leaves,

* a dispatched click succeeds if the answer is `true`, and otherwise there is no element;
* setting a value succeeds on one text, and gives the two kinds of failure that two other texts
  stand for; any other answer makes no sense;
* a click of the mouse finds no element if the answer is `null`. If the answer describes a point,
  the mouse is clicked there, and that is what the action comes to. Any other answer makes no sense,
  and nothing is clicked. -/
theorem element_actions_judge (s : Setting σ) (selector value : String) (w : World σ) :
    (let click := s.execute (.click .dispatch selector)
    s.AsksOnce PageFunction.click.source [.str selector] click w fun answer w₁ =>
      (answer = .bool true → click.run w = .ok () w₁) ∧
      (answer ≠ .bool true → click.run w = .error (.failed (.elementNotFound selector)) w₁)) ∧
    (let set := s.execute (.setValue selector value)
    s.AsksOnce PageFunction.setValue.source [.str selector, .str value] set w fun answer w₁ =>
      (answer = .str "ok" → set.run w = .ok () w₁) ∧
      (answer = .str "not-input" → set.run w = .error (.failed (.notAnInput selector)) w₁) ∧
      (answer = .str "missing" → set.run w = .error (.failed (.elementNotFound selector)) w₁) ∧
      (answer ≠ .str "ok" → answer ≠ .str "not-input" → answer ≠ .str "missing" →
        set.run w = .error (.failed (.engine
          ("Unexpected set_value result for " ++ selector ++ ": " ++ answer.text))) w₁)) ∧
    (let click := s.execute (.click .mouse selector)
    s.AsksOnce PageFunction.clickTarget.source [.str selector] click w fun answer w₁ =>
      (answer = .null → click.run w = .error (.failed (.elementNotFound selector)) w₁) ∧
      (∀ x y, answer.PointsAt x y → ∃ clicked w₂,
        (s.env.doCall (.clickAt x y)).run w₁ = Run.ending clicked w₂ ∧
        click.run w = Run.ending clicked w₂ ∧
        w₂.calls = w₁.calls ++ [.called (.clickAt x y) clicked.isOk]) ∧
      (answer ≠ .null → (∀ x y, ¬ answer.PointsAt x y) → ∃ reason,
        click.run w = .error (.failed (.engine
          ("Bad click target for " ++ selector ++ ": " ++ reason))) w₁)) := by
  refine ⟨?_, ?_, ?_⟩
  · refine s.asksOnce_of_bind fun answer w₁ hrun => ⟨fun htrue => ?_, fun hfalse => ?_⟩
    · rw [htrue] at hrun
      exact hrun
    · rw [clickVerdict_of_ne selector hfalse] at hrun
      exact hrun
  · refine s.asksOnce_of_bind fun answer w₁ hrun => ⟨fun hok => ?_, fun hinput => ?_,
      fun hmissing => ?_, fun hok hinput hmissing => ?_⟩
    · rw [hok] at hrun
      exact hrun
    · rw [hinput] at hrun
      exact hrun
    · rw [hmissing] at hrun
      exact hrun
    · rw [setValueVerdict_of_ne selector hok hinput hmissing] at hrun
      exact hrun
  · refine s.asksOnce_of_bind fun answer w₁ hrun => ⟨fun hnull => ?_, fun x y hpoint => ?_,
      fun hnull hpoint => ?_⟩
    · rw [hnull] at hrun
      exact hrun
    · obtain ⟨clicked, w₂, hclicked⟩ := Run.exists_ending (s.env.doCall (.clickAt x y)) w₁
      refine ⟨clicked, w₂, hclicked, ?_, World.calls_ask (fun _ => rfl) hclicked⟩
      rw [ClickPoint.clickPoint_of_pointsAt selector hpoint] at hrun
      exact hrun.trans hclicked
    · obtain ⟨reason, hreason⟩ := ClickPoint.clickPoint_of_not_pointsAt selector hnull hpoint
      rw [hreason] at hrun
      exact ⟨reason, hrun⟩

end PagePilot
