import PagePilot.Proofs.Script.Text

/-!
# Reading what a page has written

The text that a page has written for a value is read as a value that is taken for true if what is
left of the page's value is, unless half a character stands alone in it or it is nested too deep.

## Main definitions

- `Script.Reads` - what is left of a value is read as a certain value

## Main statements

- `Script.exists_reads` - there is such a value, and it has the same truth
-/

namespace PagePilot.Script

open Json (Ends)

section Values

theorem print_eq_cons (form : Form) : ∃ c cs, form.print = c :: cs ∧ Json.Begins c := by
  cases form with
  | null => exact ⟨_, _, rfl, by decide⟩
  | bool b => cases b <;> exact ⟨_, _, rfl, by decide⟩
  | number x =>
    obtain ⟨⟨c, cs, hprint, hbegins, -⟩, -⟩ := readsScalar_printNumber x
    exact ⟨c, cs, hprint, hbegins⟩
  | text units => exact ⟨_, _, rfl, by decide⟩
  | list items => cases items <;> exact ⟨_, _, rfl, by decide⟩
  | object members => cases members <;> exact ⟨_, _, rfl, by decide⟩

theorem ends_printItems (items : List Form) (rest : List Char) :
    Ends (printItems items ++ rest) := by
  cases items <;> exact ⟨rfl, by decide, by decide, by decide⟩

theorem ends_printMembers (members : List (List UInt16 × Form)) (rest : List Char) :
    Ends (printMembers members ++ rest) := by
  cases members <;> exact ⟨rfl, by decide, by decide, by decide⟩

theorem length_lt_printItems (items : List Form) : items.length < (printItems items).length := by
  induction items with
  | nil => decide
  | cons item items ih => simp [printItems]; omega

theorem length_lt_printMembers (members : List (List UInt16 × Form)) :
    members.length < (printMembers members).length := by
  induction members with
  | nil => decide
  | cons member members ih => simp [printMembers]; omega

/-- The text of what is left of a value is read as the given value, if it is sound and not nested
too deep, and refused if not. -/
def Reads (form : Form) (json : Json) : Prop :=
  ∀ depth rest, Ends rest → (Json.readValue depth (form.print ++ rest)).toOption
    = if form.isSound = true ∧ form.nesting ≤ depth then some (json, rest) else none

theorem exists_reads_of_readsScalar (form : Form) (h : ReadsScalar form.print form.isTruthy)
    (hsound : form.isSound = true) (hnesting : form.nesting = 0) :
    ∃ json : Json, (form.isSound = true → json.isTruthy = form.isTruthy) ∧ Reads form json := by
  obtain ⟨⟨c, cs, hprint, hbegins, hopening⟩, json, htruthy, hread⟩ := h
  refine ⟨json, fun _ => htruthy, fun depth rest hrest => ?_⟩
  have hscalar := hread rest hrest
  rw [if_pos ⟨hsound, hnesting.trans_le (Nat.zero_le depth)⟩]
  rw [hprint, List.cons_append] at hscalar ⊢
  rw [Json.readValue_of_scalar hbegins.1 hopening, hscalar]
  rfl

theorem reads_text (units : List UInt16) :
    Reads (.text units) (.str (decoded units)) := by
  intro depth rest _
  have hread := toOption_readText units rest
  have hcond : ((Form.text units).isSound = true ∧ (Form.text units).nesting ≤ depth)
      ↔ isSound units = true := and_iff_left (Nat.zero_le depth)
  rw [if_congr hcond rfl rfl, Form.print, printUnits]
  simp only [List.cons_append, List.append_assoc, List.nil_append]
  rw [Json.readValue_of_scalar rfl rfl]
  exact Json.toOption_bind_of_ite hread rfl

section Steps

variable {depth fuel : Nat} {rest : List Char}

/-- An item of a list and those behind it. -/
theorem toOption_readItemAndRest {item : Form} {items : List Form} {json : Json} {jsons : List Json}
    (hitem : Reads item json)
    (hitems : (Json.readItems (Json.readValue depth) fuel false (printItems items ++ rest)).toOption
      = if areSoundItems items = true ∧ nestingItems items ≤ depth then some (jsons, rest)
        else none) :
    (Json.readItemAndRest (Json.readValue depth) fuel
        (item.print ++ (printItems items ++ rest))).toOption
      = if areSoundItems (item :: items) = true ∧ nestingItems (item :: items) ≤ depth
        then some (json :: jsons, rest) else none := by
  have hboth := Json.toOption_readItemAndRest (hitem depth _ (ends_printItems items rest)) hitems
  rw [hboth]
  refine if_congr ?_ rfl rfl
  rw [areSoundItems, nestingItems, Bool.and_eq_true, Nat.max_le, and_and_and_comm]

/-- A member of an object and those behind it. -/
theorem toOption_readMemberAndRest (key : List UInt16) {value : Form}
    {members : List (List UInt16 × Form)} {json : Json} {jsons : List (String × Json)}
    (hvalue : Reads value json)
    (hmembers : (Json.readMembers (Json.readValue depth) fuel false
        (printMembers members ++ rest)).toOption
      = if areSoundMembers members = true ∧ nestingMembers members ≤ depth
        then some (jsons, rest) else none) :
    (Json.readMemberAndRest (Json.readValue depth) fuel ((points key).flatMap Point.print
        ++ '"' :: ':' :: (value.print ++ (printMembers members ++ rest)))).toOption
      = if areSoundMembers ((key, value) :: members) = true ∧
          nestingMembers ((key, value) :: members) ≤ depth
        then some ((decoded key, json) :: jsons, rest) else none := by
  have hall := Json.toOption_readMemberAndRest_of_key (toOption_readText key _)
    (hvalue depth _ (ends_printMembers members rest)) hmembers
  rw [hall]
  refine if_congr ?_ rfl rfl
  rw [areSoundMembers, nestingMembers, Bool.and_eq_true, Bool.and_eq_true, Nat.max_le]
  constructor
  · rintro ⟨hkey, ⟨hvalue, hdepth⟩, hmembers, hdepth'⟩
    exact ⟨⟨⟨hkey, hvalue⟩, hmembers⟩, hdepth, hdepth'⟩
  · rintro ⟨⟨⟨hkey, hvalue⟩, hmembers⟩, hdepth, hdepth'⟩
    exact ⟨hkey, ⟨hvalue, hdepth⟩, hmembers, hdepth'⟩

end Steps

mutual

/-- What a page has written is read as a value with the truth of what it has been written for. -/
theorem exists_reads : ∀ form : Form, ∃ json : Json,
    (form.isSound = true → json.isTruthy = form.isTruthy) ∧ Reads form json
  | .null => exists_reads_of_readsScalar .null
      ⟨⟨'n', _, rfl, by decide, rfl⟩, .null, rfl, fun _ _ => rfl⟩ rfl rfl
  | .bool true => exists_reads_of_readsScalar (.bool true)
      ⟨⟨'t', _, rfl, by decide, rfl⟩, .bool true, rfl, fun _ _ => rfl⟩ rfl rfl
  | .bool false => exists_reads_of_readsScalar (.bool false)
      ⟨⟨'f', _, rfl, by decide, rfl⟩, .bool false, rfl, fun _ _ => rfl⟩ rfl rfl
  | .number x => exists_reads_of_readsScalar (.number x) (readsScalar_printNumber x) rfl rfl
  | .text units => ⟨.str (decoded units), decoded_ne_empty, reads_text units⟩
  | .list [] => ⟨.arr [], fun _ => rfl, fun depth rest _ => by
      refine Json.toOption_readValue_opening_of_ite rfl rfl
        fun depth => Json.toOption_readNested_list ?_
      exact Eq.trans (congrArg Except.toOption (Json.readItems_close _ true rest))
        (if_pos ⟨rfl, Nat.zero_le depth⟩).symm⟩
  | .list (item :: items) => by
    obtain ⟨json, -, hitem⟩ := exists_reads item
    obtain ⟨jsons, hitems⟩ := exists_readItems items
    refine ⟨.arr (json :: jsons), fun _ => rfl, fun depth rest _ => ?_⟩
    rw [Form.print]
    simp only [List.cons_append, List.append_assoc]
    refine Json.toOption_readValue_opening_of_ite rfl rfl
      fun depth => Json.toOption_readNested_list ?_
    obtain ⟨c, cs, hprint, hbegins⟩ := print_eq_cons item
    -- the fuel is the length of the text, in which every item takes a character at least
    have hfuel : items.length < (item.print ++ (printItems items ++ rest)).length := by
      have hitems := length_lt_printItems items
      simp only [List.length_append]
      omega
    have hboth := toOption_readItemAndRest hitem (hitems depth _ rest hfuel)
    rw [hprint, List.cons_append] at hboth ⊢
    rw [Json.readItems_first hbegins, hboth]
    rfl
  | .object [] => ⟨.obj (Json.sortMembers []), fun _ => rfl, fun depth rest _ => by
      refine Json.toOption_readValue_opening_of_ite rfl rfl
        fun depth => Json.toOption_readNested_object ?_
      exact Eq.trans (congrArg Except.toOption (Json.readMembers_close _ true rest))
        (if_pos ⟨rfl, Nat.zero_le depth⟩).symm⟩
  | .object ((key, value) :: members) => by
    obtain ⟨json, -, hvalue⟩ := exists_reads value
    obtain ⟨jsons, hmembers⟩ := exists_readMembers members
    refine ⟨.obj (Json.sortMembers ((decoded key, json) :: jsons)), fun _ => rfl,
      fun depth rest _ => ?_⟩
    rw [Form.print, printUnits]
    simp only [List.cons_append, List.append_assoc, List.nil_append]
    refine Json.toOption_readValue_opening_of_ite rfl rfl
      fun depth => Json.toOption_readNested_object ?_
    have hfuel : members.length < ('"' :: ((points key).flatMap Point.print
        ++ '"' :: ':' :: (value.print ++ (printMembers members ++ rest)))).length := by
      have hmembers := length_lt_printMembers members
      simp only [List.length_append, List.length_cons]
      omega
    rw [Json.readMembers_first, toOption_readMemberAndRest key hvalue (hmembers depth _ rest hfuel)]
    rfl

theorem exists_readItems : ∀ items : List Form, ∃ jsons : List Json,
    ∀ (depth fuel : Nat) (rest : List Char), items.length < fuel →
      (Json.readItems (Json.readValue depth) fuel false (printItems items ++ rest)).toOption
        = if areSoundItems items = true ∧ nestingItems items ≤ depth then some (jsons, rest)
          else none
  | [] => ⟨[], fun depth fuel rest hfuel => by
      obtain ⟨fuel, rfl⟩ := Nat.exists_eq_succ_of_ne_zero (Nat.ne_of_gt hfuel)
      exact Eq.trans (congrArg Except.toOption (Json.readItems_close fuel false rest))
        (if_pos ⟨rfl, Nat.zero_le depth⟩).symm⟩
  | item :: items => by
    obtain ⟨json, -, hitem⟩ := exists_reads item
    obtain ⟨jsons, hitems⟩ := exists_readItems items
    refine ⟨json :: jsons, fun depth fuel rest hfuel => ?_⟩
    obtain ⟨fuel, rfl⟩ := Nat.exists_eq_succ_of_ne_zero (Nat.ne_of_gt (Nat.zero_lt_of_lt hfuel))
    obtain ⟨c, cs, hprint, hbegins⟩ := print_eq_cons item
    have hboth := toOption_readItemAndRest hitem (hitems depth fuel rest (by simpa using hfuel))
    rw [printItems]
    simp only [List.cons_append, List.append_assoc]
    rw [hprint, List.cons_append] at hboth ⊢
    rw [Json.readItems_next hbegins, hboth]

theorem exists_readMembers : ∀ members : List (List UInt16 × Form),
    ∃ jsons : List (String × Json),
    ∀ (depth fuel : Nat) (rest : List Char), members.length < fuel →
      (Json.readMembers (Json.readValue depth) fuel false (printMembers members ++ rest)).toOption
        = if areSoundMembers members = true ∧ nestingMembers members ≤ depth
          then some (jsons, rest) else none
  | [] => ⟨[], fun depth fuel rest hfuel => by
      obtain ⟨fuel, rfl⟩ := Nat.exists_eq_succ_of_ne_zero (Nat.ne_of_gt hfuel)
      exact Eq.trans (congrArg Except.toOption (Json.readMembers_close fuel false rest))
        (if_pos ⟨rfl, Nat.zero_le depth⟩).symm⟩
  | (key, value) :: members => by
    obtain ⟨json, -, hvalue⟩ := exists_reads value
    obtain ⟨jsons, hmembers⟩ := exists_readMembers members
    refine ⟨(decoded key, json) :: jsons, fun depth fuel rest hfuel => ?_⟩
    obtain ⟨fuel, rfl⟩ := Nat.exists_eq_succ_of_ne_zero (Nat.ne_of_gt (Nat.zero_lt_of_lt hfuel))
    have hboth := toOption_readMemberAndRest key hvalue
      (hmembers depth fuel rest (by simpa using hfuel))
    rw [printMembers, printUnits]
    simp only [List.cons_append, List.append_assoc, List.nil_append]
    rw [Json.readMembers_next]
    exact hboth

end

end Values

end PagePilot.Script
