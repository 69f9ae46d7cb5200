import PagePilot.Action.Basic

/-!
# Queues of actions

Actions in the order in which they were added. A queue only grows until it is drained or cleared.

## Main definitions

- `Queue` - the actions, oldest first
- `Queue.push`, `Queue.drain` - adding one, taking all
- `Queue.report`, `Queue.tell` - the lines of the actions, as far as they are known and as they are
  told
-/

namespace PagePilot

/-- Actions waiting for their turn, oldest first. -/
structure Queue (σ : Type) where
  toList : List (Action σ) := []

namespace Queue

variable {σ : Type}

def empty : Queue σ := {}

instance : Inhabited (Queue σ) := ⟨empty⟩

/-- Adds an action behind the others. -/
def push (q : Queue σ) (action : Action σ) : Queue σ := ⟨q.toList ++ [action]⟩

/-- Adds actions behind the others, in their order. -/
def append (q : Queue σ) (actions : List (Action σ)) : Queue σ := ⟨q.toList ++ actions⟩

/-- The number of actions. -/
def size (q : Queue σ) : Nat := q.toList.length

def isEmpty (q : Queue σ) : Bool := q.toList.isEmpty

/-- All actions, and the queue without them. -/
def drain (q : Queue σ) : List (Action σ) × Queue σ := (q.toList, empty)

/-- Lines in one line. -/
def listed (lines : List String) : String := Text.listed (lines.map Text.quoted)

/-- The lines of the actions. -/
def report (q : Queue σ) : String := listed (q.toList.map Action.describe)

/-- Asks the actions for their lines, one after the other. -/
def tell (q : Queue σ) : Aside σ String := listed <$> q.toList.mapM Action.tell

@[simp] theorem toList_empty : (empty : Queue σ).toList = [] := rfl

@[simp] theorem toList_push (q : Queue σ) (action : Action σ) :
    (q.push action).toList = q.toList ++ [action] := rfl

@[simp] theorem toList_append (q : Queue σ) (actions : List (Action σ)) :
    (q.append actions).toList = q.toList ++ actions := rfl

/-- Actions that tell the lines that are known. -/
theorem tell_eq_report {q : Queue σ} (h : ∀ action ∈ q.toList, action.tell = pure action.describe) :
    q.tell = pure q.report := by
  obtain ⟨actions⟩ := q
  have hlines : actions.mapM Action.tell = pure (actions.map Action.describe) := by
    induction actions with
    | nil => rfl
    | cons action rest ih =>
      obtain ⟨haction, hrest⟩ := List.forall_mem_cons.mp h
      rw [List.mapM_cons, haction, ih hrest]
      rfl
  rw [tell, hlines]
  rfl

end Queue

end PagePilot
