import PagePilot.Chromium.Evaluation
import PagePilot.Proofs.Json.RoundTrip

/-!
# The arguments of a page function

The script that calls a page function has two slots, for the function and for the arguments. The
text in the second one ends where the list of the arguments ends, whatever texts and keys the
arguments hold: whoever reads a value from its beginning gets the arguments and is left with the
wrapper's tail. So nothing in them can become a part of the script, and no two lists of arguments
share one.

## Main statements

- `Chromium.readValue_arguments` - what is read from the beginning of the slot
- `Chromium.evaluationScript_arguments` - the arguments stay in their slot
-/

namespace PagePilot.Chromium

/-- The call of the function is closed right behind its arguments. -/
theorem exists_scriptTail_eq : ∃ behind, scriptTail = ") \x7d);" ++ behind :=
  ⟨"
            \x7d catch (e) \x7b
                return JSON.stringify(\x7b error: String(e && e.stack ? e.stack : e) \x7d);
            \x7d
        \x7d)()", by simp [scriptTail]⟩

/-- Whoever reads a value from the beginning of the slot gets the arguments and is left with what
stands behind them, unless they are nested deeper than is allowed. -/
theorem readValue_arguments {args : List Json} (h : Json.IntegralItems args) (depth : Nat) :
    (Json.readValue depth ((Json.arr args).text ++ scriptTail).toList).toOption
      = if (Json.arr args).nesting ≤ depth then some ((Json.arr args).ordered, scriptTail.toList)
        else none := by
  obtain ⟨behind, htail⟩ := exists_scriptTail_eq
  rw [String.toList_append, Json.text, String.toList_ofList, htail, String.toList_append]
  -- the parenthesis behind the arguments is no part of a number
  exact Json.toOption_readValue_print (.arr args) h depth (')' :: _)
    ⟨rfl, by decide, by decide, by decide⟩

variable {args : List Json}

theorem readValue_arguments_of_le (h : Json.IntegralItems args) (hkeys : Json.AscendingItems args)
    {depth : Nat} (hdepth : (Json.arr args).nesting ≤ depth) :
    Json.readValue depth ((Json.arr args).text ++ scriptTail).toList
      = .ok (.arr args, scriptTail.toList) := by
  have hread := readValue_arguments h depth
  rw [if_pos hdepth, Json.ordered_eq_self (.arr args) hkeys] at hread
  exact Json.eq_ok_of_toOption hread

/-- Scripts that call the same function have the same text in the slot of the arguments. -/
theorem text_of_evaluationScript {function : String} {args' : List Json}
    (h : evaluationScript function args = evaluationScript function args') :
    (Json.arr args).text = (Json.arr args').text := by
  rw [evaluationScript, evaluationScript, String.append_left_inj, String.append_right_inj] at h
  exact h

/-- The arguments stay in their slot. For every list of arguments without floating-point numbers
there is one text that stands in the slot behind every function, which the wrapper calls with it;
whoever reads a value from its beginning, no matter how deep values may be nested, gets the
arguments and is left with the rest of the script, which closes the call, unless the arguments are
nested deeper than is allowed. Scripts that call the same function with other arguments are
different. -/
theorem evaluationScript_arguments (args : List Json) (h : Json.IntegralItems args)
    (hkeys : Json.AscendingItems args) :
    ∃ slot : String,
      (∀ function, evaluationScript function args
        = scriptHead ++ function ++ scriptMiddle ++ slot ++ scriptTail) ∧
      scriptHead = "(function () \x7b
            try \x7b
                return JSON.stringify(\x7b value: (" ∧
      scriptMiddle = ").apply(null, " ∧
      (∃ behind, scriptTail = ") \x7d);" ++ behind) ∧
      (∀ depth, (Json.arr args).nesting ≤ depth →
        Json.readValue depth (slot ++ scriptTail).toList
          = .ok (.arr args, scriptTail.toList)) ∧
      (∀ depth, depth < (Json.arr args).nesting →
        (Json.readValue depth (slot ++ scriptTail).toList).toOption = none) ∧
      ∀ function args', Json.IntegralItems args' → Json.AscendingItems args' →
        evaluationScript function args' = evaluationScript function args → args' = args := by
  refine ⟨(Json.arr args).text, fun function => rfl, rfl, rfl, exists_scriptTail_eq,
    fun depth => readValue_arguments_of_le h hkeys, fun depth hdepth => ?_,
    fun function args' h' hkeys' hsame => ?_⟩
  · rw [readValue_arguments h, if_neg (Nat.not_le_of_lt hdepth)]
  · -- both lists are what is read from the same slot, if it may be as deep as the deeper of them
    have hread := readValue_arguments_of_le h hkeys (Nat.le_max_left _ (Json.arr args').nesting)
    have hread' := readValue_arguments_of_le h' hkeys' (Nat.le_max_right (Json.arr args).nesting _)
    rw [← text_of_evaluationScript hsame, hread'] at hread
    cases hread
    rfl

/-- Arguments that look like the end of the call, and a key with marks of all kinds. -/
theorem evaluationScript_arguments_lookalike :
    let args : List Json := [.str "\"]) \x7d);", .obj [("\\\"\x7d\u0001é", .arr [.int (-1)])]]
    (Json.IntegralItems args ∧ Json.AscendingItems args) ∧
    (∃ slot,
      evaluationScript "f" args = scriptHead ++ "f" ++ scriptMiddle ++ slot ++ scriptTail ∧
      Json.readValue 3 (slot ++ scriptTail).toList = .ok (.arr args, scriptTail.toList) ∧
      (Json.readValue 2 (slot ++ scriptTail).toList).toOption = none) ∧
    evaluationScript "f" [] ≠ evaluationScript "f" args := by
  intro args
  have hintegral : Json.IntegralItems args :=
    ⟨trivial, ⟨⟨⟨by decide, by decide⟩, trivial⟩, trivial⟩, trivial⟩
  have hkeys : Json.AscendingItems args :=
    ⟨trivial, ⟨List.pairwise_singleton _ _, ⟨trivial, trivial⟩, trivial⟩, trivial⟩
  have hnesting : (Json.arr args).nesting = 3 := rfl
  obtain ⟨slot, hscript, -, -, -, hread, hrefused, hapart⟩ :=
    evaluationScript_arguments args hintegral hkeys
  refine ⟨⟨hintegral, hkeys⟩, ⟨slot, hscript "f", hread 3 (Nat.le_of_eq hnesting), hrefused 2 ?_⟩,
    fun hsame => ?_⟩
  · rw [hnesting]
    decide
  · exact absurd (hapart "f" [] trivial trivial hsame) (by simp [args])

end PagePilot.Chromium
