import PagePilot.Proofs.Json.Number

/-!
# Reading the layouts of decimal numbers

However the digits of a number that is not zero are set out, they are read as a number that is not
zero.

## Main definitions

- `Json.ReadsTruthy` - a text is read as a number that is not zero

## Main statements

- `Json.readsTruthy_shortest` - the fewest digits of a number, with a point or before a power of ten
-/

namespace PagePilot.Json

open Binary64 (Is Canonical two_zpow_pos)
open Decimal (Digits Magnitude)

variable {negative : Bool} {digits rest : List Char}

section Pieces

theorem ofDigitChars_cons_digit {c : Char} (n : Nat) (digits : List Char) :
    Nat.ofDigitChars 10 (c :: digits) n = Nat.ofDigitChars 10 digits (n * 10 + (c.toNat - 48)) := by
  rw [Nat.ofDigitChars_cons, Nat.mul_comm]
  rfl

/-- The digits of a power that is not out of bounds are all taken. -/
theorem readPower_go_append (hdigits : ∀ c ∈ digits, c.isDigit = true) (hrest : Stops rest)
    (n : Nat) (hfits : Nat.ofDigitChars 10 digits n ≤ largestExponent) :
    readPower.go n (digits ++ rest) = (Nat.ofDigitChars 10 digits n, rest, true) := by
  induction digits generalizing n with
  | nil =>
    cases rest with
    | nil => rfl
    | cons c rest =>
      have hnone : c.isDigit = false := hrest
      have hdigit : digitValue? c = none := by simp [digitValue?, hnone]
      simp only [List.nil_append, readPower.go, hdigit]
      rfl
  | cons c digits ih =>
    rw [ofDigitChars_cons_digit] at hfits ⊢
    have hdigit : digitValue? c = some (c.toNat - 48) :=
      digitValue?_of_isDigit (hdigits c List.mem_cons_self)
    have hnext : n * 10 + (c.toNat - 48) ≤ largestExponent :=
      Nat.le_trans (le_ofDigitChars _ _) hfits
    simp only [List.cons_append, readPower.go, hdigit, if_pos hnext]
    exact ih (fun c hmem => hdigits c (List.mem_cons_of_mem _ hmem)) _ hfits

theorem toDigits_cons (n : Nat) : ∃ c digits, Nat.toDigits 10 n = c :: digits ∧
    ∀ digit ∈ c :: digits, digit.isDigit = true := by
  cases hdigits : Nat.toDigits 10 n with
  | nil => exact absurd (@Nat.length_toDigits_pos 10 n) (by simp [hdigits])
  | cons c digits =>
    refine ⟨c, digits, rfl, fun digit hmem => ?_⟩
    exact Nat.isDigit_of_mem_toDigits (by omega) (Nat.le_refl 10) (hdigits ▸ hmem)

/-- A power behind its sign is added to the exponent of a number. -/
theorem readExponent_signed (negative : Bool) (significand : Nat) (exponent power : Int)
    (hpower : power.natAbs ≤ largestExponent) (hrest : Stops rest) :
    readExponent negative significand exponent
        ((if power < 0 then '-' else '+') :: (Nat.toDigits 10 power.natAbs ++ rest))
      = scaled negative significand (exponent + power) rest := by
  obtain ⟨c, digits, hdigits, hall⟩ := toDigits_cons power.natAbs
  have hvalue : Nat.ofDigitChars 10 digits (c.toNat - 48) = power.natAbs := by
    have hread := Nat.ofDigitChars_ten_toDigits (n := power.natAbs)
    rwa [hdigits, ofDigitChars_cons_digit, Nat.zero_mul, Nat.zero_add] at hread
  have hgo := readPower_go_append (fun c hmem => hall c (List.mem_cons_of_mem _ hmem)) hrest
    (c.toNat - 48) (hvalue.trans_le hpower)
  rw [hvalue] at hgo
  have hread (raises : Bool) : readPower negative significand exponent raises
      (Nat.toDigits 10 power.natAbs ++ rest) = scaled negative significand
        (if raises then exponent + power.natAbs else exponent - power.natAbs) rest := by
    rw [hdigits, List.cons_append, readPower]
    simp only [hall c List.mem_cons_self, hgo]
    rfl
  by_cases hneg : power < 0
  · have hsum : exponent - power.natAbs = exponent + power := by omega
    rw [if_pos hneg, readExponent, hread, if_neg Bool.false_ne_true, hsum]
  · have hsum : exponent + power.natAbs = exponent + power := by omega
    rw [if_neg hneg, readExponent, hread, if_pos rfl, hsum]

theorem finishFraction_of_ends (negative : Bool) (significand : Nat) (exponent : Int)
    (hrest : Ends rest) : finishFraction negative significand exponent rest
      = scaled negative significand exponent rest := by
  cases rest with
  | nil => rfl
  | cons c rest =>
    obtain ⟨-, -, he, hE⟩ := hrest
    simp [finishFraction, he, hE]

/-- Digits behind a point lower the exponent by their number. -/
theorem readFraction_append (negative : Bool) {significand : Nat} (exponent : Int)
    (hne : digits ≠ []) (hdigits : ∀ c ∈ digits, c.isDigit = true) (hrest : Stops rest)
    (hfits : Nat.ofDigitChars 10 digits significand ≤ largestWord) :
    readFraction negative significand exponent (digits ++ rest)
      = finishFraction negative (Nat.ofDigitChars 10 digits significand)
          (exponent - digits.length) rest := by
  have hcollect := collect_append hdigits hrest significand hfits
  cases digits with
  | nil => exact absurd rfl hne
  | cons c digits =>
    have hplaces : (digits ++ rest).length + 1 - rest.length = (c :: digits).length := by
      rw [List.length_append, List.length_cons]
      omega
    rw [List.cons_append] at hcollect ⊢
    simp only [readFraction, hdigits c List.mem_cons_self, hcollect, hplaces,
      hrest.dropWhile]
    rfl

/-- Digits that make up a number without a zero in front are collected. -/
theorem readNumber_append (negative : Bool) {c : Char} (hzero : c ≠ '0')
    (hdigits : ∀ digit ∈ c :: digits, digit.isDigit = true) (hrest : Stops rest)
    (hfits : Nat.ofDigitChars 10 (c :: digits) 0 ≤ largestWord) :
    readNumber negative (c :: digits ++ rest)
      = finishWhole negative (Nat.ofDigitChars 10 (c :: digits) 0) 0 rest := by
  have hcollect := collect_append hdigits hrest 0 hfits
  have hdigit := hdigits c List.mem_cons_self
  rw [List.cons_append] at hcollect ⊢
  simp only [readNumber, hdigit, hcollect, spanDigits_of_stops hrest]
  rfl

/-- Digits with a point among them. -/
theorem readNumber_point (negative : Bool) {c : Char} (whole : List Char) {fraction : List Char}
    (hzero : c ≠ '0')
    (hdigits : ∀ digit ∈ c :: whole ++ fraction, digit.isDigit = true) (hne : fraction ≠ [])
    (hrest : Stops rest) (hfits : Nat.ofDigitChars 10 (c :: whole ++ fraction) 0 ≤ largestWord) :
    readNumber negative (c :: whole ++ '.' :: (fraction ++ rest))
      = finishFraction negative (Nat.ofDigitChars 10 (c :: whole ++ fraction) 0)
          (0 - fraction.length) rest := by
  rw [Nat.ofDigitChars_append] at hfits ⊢
  have hstops : Stops ('.' :: (fraction ++ rest)) := rfl
  have hwhole := readNumber_append negative hzero
    (fun digit hmem => hdigits digit (List.mem_append_left _ hmem)) hstops
    ((le_ofDigitChars fraction _).trans hfits)
  rw [hwhole, finishWhole, Nat.cast_zero]
  exact readFraction_append negative 0 hne
    (fun digit hmem => hdigits digit (List.mem_append_right _ hmem)) hrest hfits

end Pieces

section Layouts

variable {d : Digits}

theorem readNumber_scientific (negative : Bool) (hd : d.Proper)
    (hfits : d.coefficient ≤ largestWord) (hexponent : d.exponent.natAbs ≤ largestExponent)
    (hrest : Ends rest) :
    readNumber negative (d.scientific ++ rest) = scaled negative d.coefficient d.scale rest := by
  obtain ⟨c, digits, hcons, hzero⟩ := hd.cons
  have hall := hd.isDigit
  rw [Digits.coefficient, hcons] at hfits
  rw [hcons] at hall
  have hpower (significand : Nat) (exponent : Int) :=
    readExponent_signed negative significand exponent d.exponent hexponent hrest.stops
  have hstops : Stops ('e' :: (if d.exponent < 0 then '-' else '+')
    :: (Nat.toDigits 10 d.exponent.natAbs ++ rest)) := rfl
  rw [Digits.coefficient, Digits.scale, hcons]
  cases digits with
  | nil =>
    have hwhole := readNumber_append negative hzero hall hstops hfits
    simp only [Digits.scientific, hcons, List.cons_append, List.nil_append] at hwhole ⊢
    rw [hwhole, finishWhole, hpower]
    congr 1
    simp
  | cons digit digits =>
    have hpoint := readNumber_point negative [] hzero hall (List.cons_ne_nil digit digits) hstops
      hfits
    simp only [Digits.scientific, hcons, List.cons_append, List.nil_append, List.append_assoc]
      at hpoint ⊢
    rw [hpoint, finishFraction, hpower]
    congr 1
    simp
    omega

theorem plain_eq_of_fraction (hfraction : d.fraction ≠ []) :
    d.plain = d.wholePart ++ '.' :: d.fraction := by
  rw [Digits.plain]
  split
  · next hnone => exact absurd hnone hfraction
  · rfl

/-- Digits with a point in front of all of them. -/
theorem readNumber_behind_point (negative : Bool) (hd : d.Proper)
    (hfits : d.coefficient ≤ largestWord) (hsmall : d.exponent < 0) (hrest : Ends rest) :
    readNumber negative (d.plain ++ rest) = scaled negative d.coefficient d.scale rest := by
  have hwhole : d.wholePart = ['0'] := if_pos hsmall
  have hplaces : d.fraction = List.replicate ((-d.exponent).toNat - 1) '0' ++ d.digits :=
    if_pos hsmall
  have hfraction : d.fraction ≠ [] := by
    obtain ⟨c, digits, hcons, -⟩ := hd.cons
    simp [hplaces, hcons]
  have hall : ∀ digit ∈ d.fraction, digit.isDigit = true := by
    intro digit hmem
    rw [hplaces, List.mem_append, List.mem_replicate] at hmem
    rcases hmem with ⟨-, rfl⟩ | hmem
    · rfl
    · exact hd.isDigit digit hmem
  have hvalue : Nat.ofDigitChars 10 d.fraction 0 = d.coefficient := by
    rw [hplaces, Nat.ofDigitChars_append, Nat.ofDigitChars_replicate_zero, Nat.mul_zero]
    rfl
  have hscale : (0 : Int) - d.fraction.length = d.scale := by
    rw [hplaces, Digits.scale, List.length_append, List.length_replicate]
    omega
  have hread := readFraction_append negative 0 hfraction hall hrest.stops (hvalue.trans_le hfits)
  have hpoint : readNumber negative ('0' :: '.' :: (d.fraction ++ rest))
      = readFraction negative 0 0 (d.fraction ++ rest) := rfl
  rw [plain_eq_of_fraction hfraction, hwhole, List.cons_append, List.nil_append, List.cons_append,
    List.cons_append, hpoint, hread, finishFraction_of_ends _ _ _ hrest, hvalue, hscale]

/-- Digits with a point among them. -/
theorem readNumber_around_point (negative : Bool) (hd : d.Proper)
    (hfits : d.coefficient ≤ largestWord) (hlarge : ¬ d.exponent < 0) (hfraction : d.fraction ≠ [])
    (hrest : Ends rest) :
    readNumber negative (d.plain ++ rest) = scaled negative d.coefficient d.scale rest := by
  obtain ⟨c, digits, hcons, hzero⟩ := hd.cons
  have hplaces : d.fraction = d.digits.drop (d.exponent.toNat + 1) := if_neg hlarge
  have hlong : d.exponent.toNat + 1 < d.digits.length := by
    rw [hplaces] at hfraction
    exact Nat.lt_of_not_le fun hle => hfraction (List.drop_eq_nil_of_le hle)
  have hwhole : d.wholePart = d.digits.take (d.exponent.toNat + 1) := by
    have hnone : d.exponent.toNat + 1 - d.digits.length = 0 := Nat.sub_eq_zero_of_le hlong.le
    simp only [Digits.wholePart, if_neg hlarge, hnone, List.replicate_zero, List.append_nil]
  have hsplit : c :: digits.take d.exponent.toNat ++ d.fraction = d.digits := by
    rw [hplaces, hcons]
    exact List.take_append_drop (d.exponent.toNat + 1) (c :: digits)
  have hscale : (0 : Int) - d.fraction.length = d.scale := by
    rw [hplaces, Digits.scale, List.length_drop]
    omega
  have hall := hd.isDigit
  rw [Digits.coefficient, ← hsplit] at hfits
  rw [← hsplit] at hall
  have hpoint := readNumber_point negative _ hzero hall hfraction hrest.stops hfits
  rw [plain_eq_of_fraction hfraction, List.append_assoc, List.cons_append, hwhole, hcons,
    List.take_succ_cons, hpoint, finishFraction_of_ends _ _ _ hrest, hscale, hsplit]
  rfl

theorem readNumber_plain (negative : Bool) (hd : d.Proper) (hfits : d.coefficient ≤ largestWord)
    (hfraction : d.fraction ≠ []) (hrest : Ends rest) :
    readNumber negative (d.plain ++ rest) = scaled negative d.coefficient d.scale rest := by
  by_cases hsmall : d.exponent < 0
  · exact readNumber_behind_point negative hd hfits hsmall hrest
  · exact readNumber_around_point negative hd hfits hsmall hfraction hrest

end Layouts

section Whole

/-- Of digits as many are collected as fit a word. -/
theorem exists_collect_eq (hdigits : ∀ c ∈ digits, c.isDigit = true) {n : Nat}
    (hn : n ≤ largestWord) : ∃ front back, digits = front ++ back ∧
      Nat.ofDigitChars 10 front n ≤ largestWord ∧ ∀ rest, Stops rest →
        collect n (digits ++ rest) = (Nat.ofDigitChars 10 front n, back ++ rest) := by
  induction digits generalizing n with
  | nil => exact ⟨[], [], rfl, hn, fun rest hrest => collect_append hdigits hrest n hn⟩
  | cons c digits ih =>
    have hdigit : digitValue? c = some (c.toNat - 48) :=
      digitValue?_of_isDigit (hdigits c List.mem_cons_self)
    by_cases hnext : n * 10 + (c.toNat - 48) ≤ largestWord
    · obtain ⟨front, back, rfl, hfits, hcollect⟩ :=
        ih (fun c hmem => hdigits c (List.mem_cons_of_mem _ hmem)) hnext
      refine ⟨c :: front, back, rfl, ?_, fun rest hrest => ?_⟩
      · rwa [ofDigitChars_cons_digit]
      · simp only [List.cons_append, collect, hdigit, if_pos hnext, ofDigitChars_cons_digit]
        exact hcollect rest hrest
    · refine ⟨[], c :: digits, rfl, hn, fun rest _ => ?_⟩
      simp only [List.cons_append, collect, hdigit, if_neg hnext]
      rfl

theorem finishWhole_dropped (negative : Bool) (n : Nat) {dropped : Nat} (hdropped : dropped ≠ 0)
    (hrest : Ends rest) : finishWhole negative n dropped rest = scaled negative n dropped rest := by
  cases rest with
  | nil => simp [finishWhole, hdropped]
  | cons c rest =>
    obtain ⟨-, hpoint, he, hE⟩ := hrest
    simp [finishWhole, hpoint, he, hE, hdropped]

/-- A whole number is read from as many of its first digits as fit a word. -/
theorem readNumber_whole (negative : Bool) {c : Char} (hzero : c ≠ '0')
    (hdigits : ∀ digit ∈ c :: digits, digit.isDigit = true) :
    ∃ n dropped, 0 < n ∧ n ≤ largestWord ∧ dropped ≤ digits.length ∧ ∀ rest, Ends rest →
      readNumber negative (c :: digits ++ rest) = finishWhole negative n dropped rest := by
  have hdigit := hdigits c List.mem_cons_self
  have hfirst : 0 < c.toNat - 48 ∧ c.toNat - 48 ≤ 9 := by
    simp only [Char.isDigit, Bool.and_eq_true, decide_eq_true_eq] at hdigit
    have hlow : 48 ≤ c.toNat := UInt32.le_iff_toNat_le.mp hdigit.1
    have hhigh : c.toNat ≤ 57 := UInt32.le_iff_toNat_le.mp hdigit.2
    have hne : c.toNat ≠ 48 := fun heq => hzero (Char.toNat_inj.mp heq)
    omega
  have hvalue : digitValue? c = some (c.toNat - 48) := digitValue?_of_isDigit hdigit
  have hfits : 0 * 10 + (c.toNat - 48) ≤ largestWord := by
    rw [Nat.zero_mul, Nat.zero_add]
    exact hfirst.2.trans (by decide)
  obtain ⟨front, back, rfl, hword, hcollect⟩ :=
    exists_collect_eq (fun digit hmem => hdigits digit (List.mem_cons_of_mem _ hmem)) hfits
  refine ⟨_, back.length, ?_, hword, ?_, fun rest hrest => ?_⟩
  · have hle := le_ofDigitChars front (0 * 10 + (c.toNat - 48))
    omega
  · rw [List.length_append]
    omega
  · have hback : ∀ digit ∈ back, digit.isDigit = true := fun digit hmem =>
      hdigits digit (List.mem_cons_of_mem _ (List.mem_append_right _ hmem))
    have hall : collect 0 (c :: (front ++ back ++ rest))
        = (Nat.ofDigitChars 10 front (0 * 10 + (c.toNat - 48)), back ++ rest) := by
      simp only [collect, hvalue, if_pos hfits]
      exact hcollect rest hrest.stops
    rw [List.cons_append]
    simp only [readNumber, hdigit, hall, spanDigits_append hback hrest.stops]
    rfl

end Whole

section Truthiness

/-- A text is read as a number that is not zero, if nothing more of a number stands behind it. -/
def ReadsTruthy (negative : Bool) (text : List Char) : Prop :=
  ∃ n : Number, n.isTruthy = true ∧
    ∀ rest, Ends rest → readNumber negative (text ++ rest) = .ok (n, rest)

theorem isTruthy_of_is {x : Float} {q : ℚ} (h : Is x q) (negative : Bool) :
    (Number.float (if negative then -x else x)).isTruthy = true := by
  cases negative with
  | false => exact h.ne_zero
  | true => exact h.neg_ne_zero

theorem readsTruthy_of_scaled {text : List Char} {c : Nat} {s : Int}
    (hscale : ∃ x q, scale? c s = some x ∧ Is x q)
    (hread : ∀ rest, Ends rest → readNumber negative (text ++ rest) = scaled negative c s rest) :
    ReadsTruthy negative text := by
  obtain ⟨x, q, hx, hq⟩ := hscale
  refine ⟨_, isTruthy_of_is hq negative, fun rest hrest => ?_⟩
  rw [hread rest hrest, scaled, hx]

/-- An integer of at most 64 bits that is not zero is not zero as a floating-point number. -/
theorem isTruthy_int {i : Int} (hlow : -2 ^ 63 ≤ i) (hhigh : i < 2 ^ 64) (hne : i ≠ 0) :
    (Number.int i).isTruthy = true := by
  cases i with
  | ofNat n =>
    rw [Int.ofNat_eq_natCast] at hhigh hne
    obtain ⟨q, hq, -⟩ := Binary64.is_toFloat (n := n) (by omega) (by omega)
    exact hq.ne_zero
  | negSucc n =>
    obtain ⟨q, hq, -⟩ := Binary64.is_toFloat n.succ_pos (by omega)
    exact hq.neg_ne_zero

theorem isTruthy_wholeNumber (negative : Bool) {n : Nat} (hpos : 0 < n) (hword : n ≤ largestWord) :
    (wholeNumber negative n).isTruthy = true := by
  unfold largestWord at hword
  cases negative with
  | false =>
    simp only [wholeNumber, Bool.not_false, if_true]
    exact isTruthy_int (by omega) (by omega) (by omega)
  | true =>
    simp only [wholeNumber, Bool.not_true, Bool.false_eq_true, if_false]
    split
    · exact isTruthy_int (by omega) (by omega) (by omega)
    · obtain ⟨q, hq, -⟩ := Binary64.is_toFloat hpos (by omega)
      exact hq.neg_ne_zero

theorem readsTruthy_whole (negative : Bool) {c : Char} (hzero : c ≠ '0')
    (hdigits : ∀ digit ∈ c :: digits, digit.isDigit = true) (hlength : digits.length ≤ 20) :
    ReadsTruthy negative (c :: digits) := by
  obtain ⟨n, dropped, hpos, hword, hdropped, hread⟩ := readNumber_whole negative hzero hdigits
  by_cases hall : dropped = 0
  · subst hall
    refine ⟨_, isTruthy_wholeNumber negative hpos hword, fun rest hrest => ?_⟩
    rw [hread rest hrest, finishWhole_of_ends hrest]
  · have hone : (1 : ℚ) ≤ n * 10 ^ dropped := by
      have hnat : 1 ≤ n * 10 ^ dropped := Nat.mul_pos hpos (by positivity)
      exact_mod_cast hnat
    have hmost : (n : ℚ) * 10 ^ dropped ≤ (2 ^ 64 * 10 ^ 20 : Nat) := by
      have hpow : 10 ^ dropped ≤ 10 ^ 20 := Nat.pow_le_pow_right (by decide) (by omega)
      have hnat : n * 10 ^ dropped ≤ 2 ^ 64 * 10 ^ 20 :=
        Nat.mul_le_mul (hword.trans (by decide)) hpow
      exact_mod_cast hnat
    have hleast : (2 : ℚ) ^ (-1074 : Int) ≤ 1 / 2 := by
      have hpow : (2 : ℚ) ^ (-1074 : Int) ≤ 2 ^ (-1 : Int) :=
        zpow_le_zpow_right₀ (by norm_num) (by decide)
      rwa [zpow_neg_one, ← one_div] at hpow
    have hscale : ∃ x q, scale? n dropped = some x ∧ Is x q := by
      refine exists_is_scale? hpos (Nat.lt_of_le_of_lt hword (by decide)) ?_ ?_
      · rw [zpow_natCast]
        generalize (2 : ℚ) ^ (-1074 : Int) = least at *
        linarith
      · rw [zpow_natCast]
        refine Binary64.lt_largest_of_le (n := 40) (by norm_num) ?_
        push_cast at hmost
        linarith
    refine readsTruthy_of_scaled hscale fun rest hrest => ?_
    rw [hread rest hrest, finishWhole_dropped negative n hall hrest]

variable {d : Digits}

/-- Positional digits, if a whole number among them is not too long. -/
theorem readsTruthy_plain (negative : Bool) (hd : d.Proper) (hfits : d.coefficient ≤ largestWord)
    (hexponent : d.exponent ≤ 20) (hscale : ∃ x q, scale? d.coefficient d.scale = some x ∧ Is x q) :
    ReadsTruthy negative d.plain := by
  by_cases hfraction : d.fraction = []
  · obtain ⟨c, digits, hcons, hzero⟩ := hd.cons
    have hplain : d.plain = d.wholePart := by rw [Digits.plain, hfraction]
    have hpositive : ¬ d.exponent < 0 := by
      intro hneg
      rw [Digits.fraction, if_pos hneg, hcons] at hfraction
      exact absurd hfraction (by simp)
    rw [Digits.fraction, if_neg hpositive, List.drop_eq_nil_iff] at hfraction
    have hwhole : d.plain = c :: (digits
        ++ List.replicate (d.exponent.toNat + 1 - d.digits.length) '0') := by
      simp only [hplain, Digits.wholePart, if_neg hpositive, List.take_of_length_le hfraction]
      rw [hcons, List.cons_append]
    rw [hwhole]
    refine readsTruthy_whole negative hzero (fun digit hmem => ?_) ?_
    · rw [← List.cons_append, ← hcons, List.mem_append, List.mem_replicate] at hmem
      rcases hmem with hmem | ⟨-, rfl⟩
      · exact hd.isDigit digit hmem
      · rfl
    · rw [hcons, List.length_cons] at hfraction ⊢
      rw [List.length_append, List.length_replicate]
      omega
  · exact readsTruthy_of_scaled hscale
      fun rest hrest => readNumber_plain negative hd hfits hfraction hrest

/-- The fewest digits of a number are read as a number that is not zero, in positions unless they
are too far from the point. -/
theorem readsTruthy_shortest (negative : Bool) {v : Magnitude}
    (h : Canonical v.mantissa v.exponent) :
    ((v.shortest .toEven).exponent ≤ 20 → ReadsTruthy negative (v.shortest .toEven).plain) ∧
      ReadsTruthy negative (v.shortest .toEven).scientific := by
  obtain ⟨c, s, hshortest, hpos, hdigits, -⟩ := exists_readable_shortest h
  obtain ⟨hproper, hle, -⟩ := Digits.ofScaled_spec hpos s
  have hscale := exists_is_scale?_shortest h
  have hexponent := shortest_exponent_le h
  rw [hshortest] at hscale hexponent ⊢
  have hfits : (Digits.ofScaled c s).coefficient ≤ largestWord := by
    refine (hle.trans hdigits).trans ?_
    decide
  refine ⟨fun hplain => readsTruthy_plain negative hproper hfits hplain hscale, ?_⟩
  exact readsTruthy_of_scaled hscale fun rest hrest =>
    readNumber_scientific negative hproper hfits (hexponent.trans (by decide)) hrest

end Truthiness

end PagePilot.Json
