import Mathlib.Data.List.TakeDrop
import PagePilot.Json.Reader.Value

/-!
# Reading printed texts and integers

A text or an integer that has been printed is read back as it was, whatever stands behind it; only
an integer must not be followed by what could be more of a number.

## Main definitions

- `Stops`, `Ends` - what stands behind digits and is none of them, or is no part of a number

## Main statements

- `readText_print` - a printed text is read back
- `readScalar_printInt` - a printed integer of 64 bits is read back
-/

namespace PagePilot.Json

/-- What stands behind digits and does not begin with another one. -/
def Stops : List Char → Prop
  | [] => True
  | c :: _ => c.isDigit = false

/-- What stands behind a number and is no part of it. -/
def Ends : List Char → Prop
  | [] => True
  | c :: _ => c.isDigit = false ∧ c ≠ '.' ∧ c ≠ 'e' ∧ c ≠ 'E'

theorem Ends.stops {rest : List Char} (h : Ends rest) : Stops rest := by
  cases rest with
  | nil => trivial
  | cons c rest => exact h.1

theorem Stops.dropWhile {rest : List Char} (h : Stops rest) :
    rest.dropWhile Char.isDigit = rest := by
  cases rest with
  | nil => rfl
  | cons c rest => exact List.dropWhile_cons_of_neg (ne_true_of_eq_false h)

theorem Stops.takeWhile {rest : List Char} (h : Stops rest) :
    rest.takeWhile Char.isDigit = [] := by
  cases rest with
  | nil => rfl
  | cons c rest => exact List.takeWhile_cons_of_neg (ne_true_of_eq_false h)

section Digits

theorem digitValue?_of_isDigit {c : Char} (h : c.isDigit = true) :
    digitValue? c = some (c.toNat - '0'.toNat) := if_pos h

theorem le_ofDigitChars (digits : List Char) (n : Nat) : n ≤ Nat.ofDigitChars 10 digits n := by
  induction digits generalizing n with
  | nil => exact Nat.le_refl n
  | cons c digits ih =>
    rw [Nat.ofDigitChars_cons]
    exact Nat.le_trans (by omega) (ih _)

/-- Digits whose number fits a word are all collected. -/
theorem collect_append {digits rest : List Char} (hdigits : ∀ c ∈ digits, c.isDigit = true)
    (hrest : Stops rest) (n : Nat) (hfits : Nat.ofDigitChars 10 digits n ≤ largestWord) :
    collect n (digits ++ rest) = (Nat.ofDigitChars 10 digits n, rest) := by
  induction digits generalizing n with
  | nil =>
    cases rest with
    | nil => rfl
    | cons c rest =>
      have hnone : c.isDigit = false := hrest
      have hdigit : digitValue? c = none := by simp [digitValue?, hnone]
      simp only [List.nil_append, collect, hdigit]
      rfl
  | cons c digits ih =>
    rw [Nat.ofDigitChars_cons, Nat.mul_comm] at hfits ⊢
    have hdigit := digitValue?_of_isDigit (hdigits c List.mem_cons_self)
    -- the number of all digits bounds that of the first ones
    have hnext : n * 10 + (c.toNat - '0'.toNat) ≤ largestWord :=
      Nat.le_trans (le_ofDigitChars _ _) hfits
    simp only [List.cons_append, collect, hdigit, if_pos hnext]
    exact ih (fun c hmem => hdigits c (List.mem_cons_of_mem _ hmem)) _ hfits

/-- The digits of a number that is not zero do not begin with a zero. -/
theorem toDigits_eq_cons {n : Nat} (hn : n ≠ 0) :
    ∃ c digits, Nat.toDigits 10 n = c :: digits ∧ c ≠ '0' ∧ c.isDigit = true := by
  induction n using Nat.strongRecOn with
  | ind n ih =>
    by_cases hsmall : n < 10
    · refine ⟨n.digitChar, [], Nat.toDigits_of_lt_base hsmall, ?_⟩
      have hdigits : ∀ n < 10, n ≠ 0 → n.digitChar ≠ '0' ∧ n.digitChar.isDigit = true := by decide
      exact hdigits n hsmall hn
    · obtain ⟨c, digits, htens, hc⟩ := ih (n / 10) (by omega) (by omega)
      refine ⟨c, digits ++ [(n % 10).digitChar], ?_, hc⟩
      rw [Nat.toDigits_of_base_le (by omega) (by omega), htens, List.cons_append]

theorem finishWhole_of_ends {negative : Bool} {n : Nat} {rest : List Char} (hrest : Ends rest) :
    finishWhole negative n 0 rest = .ok (wholeNumber negative n, rest) := by
  cases rest with
  | nil => rfl
  | cons c rest =>
    obtain ⟨-, hpoint, he, hE⟩ := hrest
    simp [finishWhole, hpoint, he, hE]

theorem spanDigits_append {digits rest : List Char} (hdigits : ∀ c ∈ digits, c.isDigit = true)
    (hrest : Stops rest) : spanDigits (digits ++ rest) = (digits, rest) := by
  rw [spanDigits, List.span_eq_takeWhile_dropWhile, List.takeWhile_append_of_pos hdigits,
    List.dropWhile_append_of_pos hdigits, hrest.takeWhile, hrest.dropWhile, List.append_nil]

theorem spanDigits_of_stops {rest : List Char} (hrest : Stops rest) :
    spanDigits rest = ([], rest) :=
  spanDigits_append (List.forall_mem_nil _) hrest

/-- The digits of a number that fits a word are read as this number. -/
theorem readNumber_toDigits (negative : Bool) {n : Nat} (hfits : n ≤ largestWord)
    {rest : List Char} (hrest : Ends rest) :
    readNumber negative (Nat.toDigits 10 n ++ rest) = .ok (wholeNumber negative n, rest) := by
  -- a zero is read by a branch of its own, since none may stand in front of other digits
  by_cases hn : n = 0
  · subst hn
    rw [Nat.toDigits_zero]
    cases rest with
    | nil => exact finishWhole_of_ends hrest
    | cons c rest =>
      simp only [List.cons_append, List.nil_append, readNumber, hrest.1]
      exact finishWhole_of_ends hrest
  · obtain ⟨c, digits, hdigits, hzero, hdigit⟩ := toDigits_eq_cons hn
    have hall : ∀ c ∈ Nat.toDigits 10 n, c.isDigit = true := fun c hmem =>
      Nat.isDigit_of_mem_toDigits (by omega) (Nat.le_refl 10) hmem
    have hvalue : Nat.ofDigitChars 10 (Nat.toDigits 10 n) 0 = n :=
      Nat.ofDigitChars_toDigits (by omega) (Nat.le_refl 10)
    have hcollect := collect_append hall hrest.stops 0 (by rw [hvalue]; exact hfits)
    rw [hvalue] at hcollect
    rw [hdigits, List.cons_append] at hcollect ⊢
    simp only [readNumber, hdigit, hcollect, spanDigits_of_stops hrest.stops]
    exact finishWhole_of_ends hrest

theorem readScalar_of_isDigit {c : Char} (hdigit : c.isDigit = true) (rest : List Char) :
    readScalar (c :: rest) = (do
      let (n, rest) ← readNumber false (c :: rest)
      .ok (.num n, rest)) := by
  have hne (letter : Char) (hletter : letter.isDigit = false) : c ≠ letter := by
    rintro rfl
    simp [hdigit] at hletter
  rw [readScalar, if_pos hdigit]
  · exact hne 'n' rfl
  · exact hne 't' rfl
  · exact hne 'f' rfl
  · exact hne '"' rfl
  · exact hne '-' rfl

/-- A printed integer of 64 bits, with sign or without, is read back. -/
theorem readScalar_printInt {i : Int} (hlow : -9223372036854775808 ≤ i)
    (hhigh : i < 18446744073709551616) {rest : List Char} (hrest : Ends rest) :
    readScalar (printInt i ++ rest) = .ok (.num (.int i), rest) := by
  cases i with
  | ofNat n =>
    have hfits : n ≤ largestWord := by
      have hhigh : (n : Int) < 18446744073709551616 := hhigh
      unfold largestWord
      omega
    have hread := readNumber_toDigits false hfits hrest
    obtain ⟨c, digits, hdigits, hdigit⟩ :
        ∃ c digits, Nat.toDigits 10 n = c :: digits ∧ c.isDigit = true := by
      cases hdigits : Nat.toDigits 10 n with
      | nil => exact absurd (@Nat.length_toDigits_pos 10 n) (by simp [hdigits])
      | cons c digits =>
        have hmem : c ∈ Nat.toDigits 10 n := hdigits ▸ List.mem_cons_self
        exact ⟨c, digits, rfl, Nat.isDigit_of_mem_toDigits (by omega) (Nat.le_refl 10) hmem⟩
    rw [printInt, hdigits, List.cons_append, readScalar_of_isDigit hdigit]
    rw [hdigits, List.cons_append] at hread
    rw [hread]
    rfl
  | negSucc n =>
    have hfits : n + 1 ≤ 9223372036854775808 := by
      have hlow : -9223372036854775808 ≤ Int.negSucc n := hlow
      omega
    have hword : n + 1 ≤ largestWord := by
      unfold largestWord
      omega
    have hread := readNumber_toDigits true hword hrest
    have hnumber : wholeNumber true (n + 1) = .int (Int.negSucc n) := by
      simp only [wholeNumber, Bool.not_true, Bool.false_eq_true, if_false]
      rw [if_pos ⟨Nat.succ_pos n, hfits⟩]
      rfl
    rw [printInt, List.cons_append]
    simp only [readScalar, hread, hnumber]
    rfl

end Digits

section Texts

theorem hexValue?_hexDigit : ∀ n < 16, hexValue? (hexDigit n) = some n := by decide

theorem readUnit_control {n : Nat} (hn : n < 0x20) (rest : List Char) :
    readUnit ('0' :: '0' :: hexDigit (n / 16) :: hexDigit (n % 16) :: rest) = .ok (n, rest) := by
  have hzero : hexValue? '0' = some 0 := by decide
  have hvalue : ((0 * 16 + 0) * 16 + n / 16) * 16 + n % 16 = n := by omega
  simp only [readUnit, hzero, hexValue?_hexDigit (n / 16) (by omega),
    hexValue?_hexDigit (n % 16) (by omega), hvalue]

theorem readCodePoint_control {n : Nat} (hn : n < 0x20) (rest : List Char) :
    readCodePoint ('0' :: '0' :: hexDigit (n / 16) :: hexDigit (n % 16) :: rest)
      = .ok (Char.ofNat n, rest) := by
  have hlow : ¬ (0xDC00 ≤ n ∧ n ≤ 0xDFFF) := by omega
  have hhigh : ¬ (0xD800 ≤ n ∧ n ≤ 0xDBFF) := by omega
  simp only [readCodePoint, readUnit_control hn]
  show (if 0xDC00 ≤ n ∧ n ≤ 0xDFFF then _ else _) = _
  rw [if_neg hlow, if_neg hhigh]

theorem readChars_escapeChar (fuel : Nat) (read : List Char) (c : Char) (rest : List Char) :
    readChars (fuel + 1) read (escapeChar c ++ rest) = readChars fuel (c :: read) rest := by
  -- the characters with an escape of their own, then the other controls, then all that stand
  -- for themselves
  unfold escapeChar
  by_cases hquote : c = '"'
  · subst hquote; rfl
  by_cases hslash : c = '\\'
  · subst hslash; rfl
  by_cases hb : c = '\x08'
  · subst hb; rfl
  by_cases hf : c = '\x0c'
  · subst hf; rfl
  by_cases hn : c = '\n'
  · subst hn; rfl
  by_cases hr : c = '\r'
  · subst hr; rfl
  by_cases ht : c = '\t'
  · subst ht; rfl
  simp only [hquote, hslash, hb, hf, hn, hr, ht, if_false]
  by_cases hcontrol : c.toNat < 0x20
  · have hread := readCodePoint_control hcontrol rest
    rw [Char.ofNat_toNat] at hread
    simp only [hcontrol, if_true, List.cons_append, List.nil_append, readChars, readEscape, hread]
    rfl
  · simp only [hcontrol, if_false, List.cons_append, List.nil_append]
    rw [readChars]
    · rw [if_neg hcontrol]
    · exact hquote
    · exact hslash

theorem readChars_print (cs : List Char) (fuel : Nat) (hfuel : cs.length < fuel)
    (read rest : List Char) :
    readChars fuel read (cs.flatMap escapeChar ++ '"' :: rest)
      = .ok (read.reverse ++ cs, rest) := by
  induction cs generalizing fuel read with
  | nil =>
    obtain ⟨fuel, rfl⟩ := Nat.exists_eq_succ_of_ne_zero (Nat.ne_of_gt hfuel)
    simp [readChars]
  | cons c cs ih =>
    obtain ⟨fuel, rfl⟩ := Nat.exists_eq_succ_of_ne_zero (Nat.ne_of_gt (Nat.zero_lt_of_lt hfuel))
    rw [List.flatMap_cons, List.append_assoc, readChars_escapeChar,
      ih fuel (by simpa using hfuel)]
    simp

theorem length_escapeChar_pos (c : Char) : 0 < (escapeChar c).length := by
  unfold escapeChar
  repeat' split
  all_goals simp

theorem length_le_flatMap_escapeChar (cs : List Char) :
    cs.length ≤ (cs.flatMap escapeChar).length := by
  induction cs with
  | nil => exact Nat.le_refl 0
  | cons c cs ih =>
    have hone := length_escapeChar_pos c
    rw [List.flatMap_cons, List.length_append, List.length_cons]
    omega

/-- A printed text is read back, behind its opening quote. -/
theorem readText_print (s : String) (rest : List Char) :
    readText (s.toList.flatMap escapeChar ++ '"' :: rest) = .ok (s, rest) := by
  have hlength := length_le_flatMap_escapeChar s.toList
  have hfuel : s.toList.length < (s.toList.flatMap escapeChar ++ '"' :: rest).length + 1 := by
    rw [List.length_append, List.length_cons]
    omega
  have hread := readChars_print s.toList _ hfuel [] rest
  simp only [readText, hread]
  show Except.ok (String.ofList ([].reverse ++ s.toList), rest) = _
  simp

end Texts

end PagePilot.Json
