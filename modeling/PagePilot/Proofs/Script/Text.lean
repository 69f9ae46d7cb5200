import PagePilot.Json.Reader.Record
import PagePilot.Proofs.Json.Digits
import PagePilot.Proofs.Json.RoundTrip
import PagePilot.Proofs.Script.Value

/-!
# Reading texts and numbers of a page

A text that a page has written is read unless half a character stands alone in it. A number that a
page has written is read as zero only if it is zero.

## Main definitions

- `Script.ReadsScalar` - a text is read as a number that is zero or not, or as `null`

## Main statements

- `Script.toOption_readText` - texts with and without halves of characters
- `Script.readsScalar_printNumber` - numbers
-/

namespace PagePilot.Script

open Json (Ends ok_bind readChars readCodePoint readSecondUnit readUnit readText)

section Units

theorem readUnit_print (unit : UInt16) (rest : List Char) :
    readUnit (Json.hexDigit (unit.toNat / 4096) :: Json.hexDigit (unit.toNat / 256 % 16)
      :: Json.hexDigit (unit.toNat / 16 % 16) :: Json.hexDigit (unit.toNat % 16) :: rest)
      = .ok (unit.toNat, rest) := by
  have hword := unit.toNat_lt
  have hvalue : ((unit.toNat / 4096 * 16 + unit.toNat / 256 % 16) * 16 + unit.toNat / 16 % 16) * 16
      + unit.toNat % 16 = unit.toNat := by omega
  simp only [readUnit, Json.hexValue?_hexDigit (unit.toNat / 4096) (by omega),
    Json.hexValue?_hexDigit (unit.toNat / 256 % 16) (by omega),
    Json.hexValue?_hexDigit (unit.toNat / 16 % 16) (by omega),
    Json.hexValue?_hexDigit (unit.toNat % 16) (by omega), hvalue]

theorem isLow_iff {unit : UInt16} :
    isLow unit = true ↔ 0xDC00 ≤ unit.toNat ∧ unit.toNat ≤ 0xDFFF := by
  simp [isLow, UInt16.le_iff_toNat_le]

theorem isHigh_iff {unit : UInt16} :
    isHigh unit = true ↔ 0xD800 ≤ unit.toNat ∧ unit.toNat ≤ 0xDBFF := by
  simp [isHigh, UInt16.le_iff_toNat_le]

/-- A second half is no character by itself. -/
theorem readChars_low {unit : UInt16} (hlow : isLow unit = true) (fuel : Nat)
    (read rest : List Char) :
    (readChars fuel read ((Point.half unit).print ++ rest)).toOption = none := by
  cases fuel with
  | zero => rfl
  | succ fuel =>
    simp only [Point.print, List.cons_append, List.nil_append, readChars, Json.readEscape,
      readCodePoint, readUnit_print, ok_bind, if_pos (isLow_iff.mp hlow)]
    rfl

/-- A first half is no character without a second one. -/
theorem readChars_high {unit : UInt16} (hhigh : isHigh unit = true) {rest : List Char}
    (hrest : (readSecondUnit unit.toNat rest).toOption = none) (fuel : Nat) (read : List Char) :
    (readChars fuel read ((Point.half unit).print ++ rest)).toOption = none := by
  cases fuel with
  | zero => rfl
  | succ fuel =>
    have hrange := isHigh_iff.mp hhigh
    have hlow : ¬ (0xDC00 ≤ unit.toNat ∧ unit.toNat ≤ 0xDFFF) := by omega
    simp only [Point.print, List.cons_append, List.nil_append, readChars, Json.readEscape,
      readCodePoint, readUnit_print, ok_bind, if_neg hlow, if_pos hrange]
    rw [Json.toOption_bind, hrest]
    rfl

theorem readSecondUnit_escapeChar (high : Nat) (c : Char) (rest : List Char) :
    (readSecondUnit high (Json.escapeChar c ++ rest)).toOption = none := by
  unfold Json.escapeChar
  by_cases hquote : c = '"'
  · subst hquote; rfl
  by_cases hslash : c = '\\'
  · subst hslash; rfl
  by_cases hb : c = '\x08'
  · subst hb; rfl
  by_cases hf : c = '\x0c'
  · subst hf; rfl
  by_cases hn : c = '\n'
  · subst hn; rfl
  by_cases hr : c = '\r'
  · subst hr; rfl
  by_cases ht : c = '\t'
  · subst ht; rfl
  simp only [hquote, hslash, hb, hf, hn, hr, ht, if_false]
  by_cases hcontrol : c.toNat < 0x20
  · -- an escape like that of a half, but of another unit
    have hlow : ¬ (0xDC00 ≤ c.toNat ∧ c.toNat ≤ 0xDFFF) := by omega
    simp only [if_pos hcontrol, List.cons_append, List.nil_append, readSecondUnit,
      Json.readUnit_control hcontrol, ok_bind, if_neg hlow]
    rfl
  · simp only [if_neg hcontrol, List.cons_append, List.nil_append]
    rw [readSecondUnit]
    · rfl
    all_goals
      intros
      exact hslash ‹c = '\\'›

theorem readSecondUnit_half (high : Nat) {unit : UInt16} (hlow : isLow unit = false)
    (rest : List Char) :
    (readSecondUnit high ((Point.half unit).print ++ rest)).toOption = none := by
  have hrange : ¬ (0xDC00 ≤ unit.toNat ∧ unit.toNat ≤ 0xDFFF) := by
    rw [← isLow_iff, hlow]
    exact Bool.false_ne_true
  simp only [Point.print, List.cons_append, List.nil_append, readSecondUnit, readUnit_print,
    ok_bind, if_neg hrange]
  rfl

theorem ofUnit_eq_half {unit unit' : UInt16} (h : Point.ofUnit unit = .half unit') :
    unit' = unit ∧ (isHigh unit = true ∨ isLow unit = true) := by
  rw [Point.ofUnit] at h
  split at h
  · next hhalf =>
    cases h
    exact ⟨rfl, by simpa using hhalf⟩
  · cases h

theorem readSecondUnit_ofUnit (high : Nat) {unit : UInt16} (hlow : isLow unit = false)
    (rest : List Char) :
    (readSecondUnit high ((Point.ofUnit unit).print ++ rest)).toOption = none := by
  cases hpoint : Point.ofUnit unit with
  | char c => exact readSecondUnit_escapeChar high c rest
  | half unit' =>
    obtain ⟨rfl, -⟩ := ofUnit_eq_half hpoint
    exact readSecondUnit_half high hlow rest

/-- What follows a first half that is not completed is no second one. -/
theorem readSecondUnit_points (high : Nat) {units : List UInt16}
    (hlow : ∀ low ∈ units.head?, isLow low = false) (rest : List Char) :
    (readSecondUnit high ((points units).flatMap Point.print ++ '"' :: rest)).toOption = none := by
  match units with
  | [] => rfl
  | [unit] =>
    simp only [points, List.flatMap_cons, List.flatMap_nil, List.append_nil]
    exact readSecondUnit_ofUnit high (hlow unit rfl) _
  | unit :: low :: units =>
    rw [points]
    split
    · rw [List.flatMap_cons, List.append_assoc]
      exact readSecondUnit_escapeChar high _ _
    · rw [List.flatMap_cons, List.append_assoc]
      exact readSecondUnit_ofUnit high (hlow unit rfl) _

/-- Characters up to a closing quote are read if none of them is half of one. -/
def ReadsPoints (ps : List Point) (rest : List Char) : Prop :=
  ∀ fuel read, ps.length < fuel →
    (readChars fuel read (ps.flatMap Point.print ++ '"' :: rest)).toOption
      = if ps.all (·.char?.isSome) then some (read.reverse ++ ps.filterMap Point.char?, rest)
        else none

theorem ReadsPoints.char {ps : List Point} {rest : List Char} (c : Char)
    (h : ReadsPoints ps rest) : ReadsPoints (.char c :: ps) rest := by
  intro fuel read hfuel
  obtain ⟨fuel, rfl⟩ := Nat.exists_eq_succ_of_ne_zero (Nat.ne_of_gt (Nat.zero_lt_of_lt hfuel))
  rw [List.flatMap_cons, List.append_assoc, Point.print, Json.readChars_escapeChar,
    h fuel (c :: read) (by simpa using hfuel)]
  simp [Point.char?]

/-- Half a character is read if it is followed by what does not complete it. -/
theorem ReadsPoints.ofUnit {ps : List Point} {rest : List Char} {unit : UInt16}
    (h : ReadsPoints ps rest) (hsecond : isHigh unit = true →
      (readSecondUnit unit.toNat (ps.flatMap Point.print ++ '"' :: rest)).toOption = none) :
    ReadsPoints (.ofUnit unit :: ps) rest := by
  cases hpoint : Point.ofUnit unit with
  | char c => exact h.char c
  | half unit' =>
    obtain ⟨rfl, hhalf⟩ := ofUnit_eq_half hpoint
    intro fuel read _
    rw [List.flatMap_cons, List.append_assoc, List.all_cons]
    refine Eq.trans ?_ (if_neg (by simp [Point.char?])).symm
    rcases hhalf with hhigh | hlow
    · exact readChars_high hhigh (hsecond hhigh) fuel read
    · exact readChars_low hlow fuel read _

theorem readsPoints_points (rest : List Char) : ∀ units : List UInt16,
    ReadsPoints (points units) rest
  | [] => by
    intro fuel read hfuel
    obtain ⟨fuel, rfl⟩ := Nat.exists_eq_succ_of_ne_zero (Nat.ne_of_gt hfuel)
    simp only [points, List.flatMap_nil, List.nil_append, readChars]
    exact congrArg some (Prod.ext (List.append_nil _).symm rfl)
  | [unit] => (readsPoints_points rest []).ofUnit fun _ => rfl
  | high :: low :: units => by
    rw [points]
    split
    · exact (readsPoints_points rest units).char _
    · next hpair =>
      refine (readsPoints_points rest (low :: units)).ofUnit fun hhigh => ?_
      refine readSecondUnit_points high.toNat (fun unit hunit => ?_) rest
      cases hunit
      simpa [hhigh] using hpair

theorem length_le_flatMap_print (ps : List Point) :
    ps.length ≤ (ps.flatMap Point.print).length := by
  induction ps with
  | nil => exact Nat.le_refl 0
  | cons p ps ih =>
    have hone : 0 < p.print.length := by
      cases p with
      | char c => exact Json.length_escapeChar_pos c
      | half unit => exact Nat.succ_pos _
    rw [List.flatMap_cons, List.length_append, List.length_cons]
    omega

/-- The characters of a text; halves of characters are left out. -/
def decoded (units : List UInt16) : String := String.ofList ((points units).filterMap Point.char?)

/-- A text that a page has written is read, unless half a character stands alone in it. -/
theorem toOption_readText (units : List UInt16) (rest : List Char) :
    (readText ((points units).flatMap Point.print ++ '"' :: rest)).toOption
      = if isSound units then some (decoded units, rest) else none := by
  have hlength := length_le_flatMap_print (points units)
  have hread := readsPoints_points rest units
    (((points units).flatMap Point.print ++ '"' :: rest).length + 1) [] (by
      rw [List.length_append]
      omega)
  rw [readText]
  exact Json.toOption_bind_of_ite hread rfl

/-- A text that a page has written is read where there may be none. -/
theorem toOption_readOptional (expected : String) (units : List UInt16) (rest : List Char) :
    (Json.readOptional (Json.readString expected) (printUnits units ++ rest)).toOption
      = if isSound units then some (some (decoded units), rest) else none := by
  simp only [printUnits, List.cons_append, List.append_assoc, List.nil_append]
  have hscalar : (Json.readScalar
      ('"' :: ((points units).flatMap Point.print ++ '"' :: rest))).toOption
        = if isSound units then some (.str (decoded units), rest) else none :=
    Json.toOption_bind_of_ite (toOption_readText units rest) rfl
  have hstring : (Json.readString expected
      ('"' :: ((points units).flatMap Point.print ++ '"' :: rest))).toOption
        = if isSound units then some (decoded units, rest) else none := by
    rw [Json.readString, Json.readScalarAs, Json.skipSpace_of_not rfl]
    exact Json.toOption_bind_of_ite hscalar rfl
  rw [Json.readOptional, Json.skipSpace_of_not rfl]
  exact Json.toOption_bind_of_ite hstring rfl

theorem isEmpty_points : ∀ units : List UInt16, (points units).isEmpty = units.isEmpty
  | [] | [_] => rfl
  | _ :: _ :: _ => by
    rw [points]
    split <;> rfl

/-- A text in which no half stands alone is read as an empty one only if it is empty. -/
theorem decoded_ne_empty {units : List UInt16} (hsound : isSound units = true) :
    (decoded units != "") = !units.isEmpty := by
  rw [isSound] at hsound
  rw [decoded, ← isEmpty_points]
  cases hpoints : points units with
  | nil => rfl
  | cons p ps =>
    rw [hpoints, List.all_cons, Bool.and_eq_true] at hsound
    cases p with
    | half unit => exact absurd hsound.1 Bool.false_ne_true
    | char c => simp [Point.char?]

end Units

section Numbers

theorem isDigit_of_readNumber {negative : Bool} {text rest : List Char} {n : Json.Number}
    (h : Json.readNumber negative text = .ok (n, rest)) :
    ∃ c cs, text = c :: cs ∧ c.isDigit = true := by
  rw [Json.readNumber.eq_def] at h
  split at h
  · cases h
  · exact ⟨'0', _, rfl, rfl⟩
  · next c cs _ =>
    split at h
    · next hdigit => exact ⟨c, cs, rfl, hdigit⟩
    · cases h

/-- The text is read as a number, or as `null`, that is taken for true or not. -/
def ReadsScalar (text : List Char) (truthy : Bool) : Prop :=
  (∃ c cs, text = c :: cs ∧ Json.Begins c ∧ Json.isOpening c = false) ∧
    ∃ json : Json, json.isTruthy = truthy ∧
      ∀ rest, Ends rest → Json.readScalar (text ++ rest) = .ok (json, rest)

theorem readsScalar_of_readsTruthy {negative : Bool} {text : List Char}
    (h : Json.ReadsTruthy negative text) : ReadsScalar (Decimal.sign negative ++ text) true := by
  obtain ⟨n, htruthy, hread⟩ := h
  cases negative with
  | false =>
    have hread' := hread [] trivial
    rw [List.append_nil] at hread'
    obtain ⟨c, cs, rfl, hdigit⟩ := isDigit_of_readNumber hread'
    refine ⟨⟨c, cs, rfl, Json.begins_of_isDigit hdigit, Json.isOpening_of_isDigit hdigit⟩,
      .num n, htruthy, fun rest hrest => ?_⟩
    have htext := hread rest hrest
    simp only [Decimal.sign, List.nil_append, List.cons_append] at htext ⊢
    rw [Json.readScalar_of_isDigit hdigit, htext]
    rfl
  | true =>
    refine ⟨⟨'-', text, rfl, by decide, rfl⟩, .num n, htruthy, fun rest hrest => ?_⟩
    simp only [Decimal.sign, List.cons_append, List.nil_append, Json.readScalar, hread rest hrest]
    rfl

/-- The text of a number is read as one that is zero if the number is, or as `null`. -/
theorem readsScalar_printNumber (x : Float) :
    ReadsScalar (printNumber x) (Form.number x).isTruthy := by
  simp only [printNumber, Form.isTruthy]
  cases hreading : Decimal.reading x with
  | finite negative v =>
    obtain ⟨hplain, hscientific⟩ :=
      Json.readsTruthy_shortest negative (Decimal.canonical_of_reading hreading)
    refine readsScalar_of_readsTruthy ?_
    rw [printDigits]
    split
    · next hnear => exact hplain hnear.2
    · exact hscientific
  | zero negative =>
    refine ⟨⟨'0', [], rfl, by decide, rfl⟩, .num (.int 0), rfl, fun rest hrest => ?_⟩
    exact Json.readScalar_printInt (i := 0) (by decide) (by decide) hrest
  | infinite negative => exact ⟨⟨'n', _, rfl, by decide, rfl⟩, .null, rfl, fun rest _ => rfl⟩
  | notANumber => exact ⟨⟨'n', _, rfl, by decide, rfl⟩, .null, rfl, fun rest _ => rfl⟩

end Numbers

end PagePilot.Script
