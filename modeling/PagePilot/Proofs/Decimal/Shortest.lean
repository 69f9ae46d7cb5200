import PagePilot.Decimal.Shortest
import PagePilot.Proofs.Decimal.Rounding
import PagePilot.Proofs.Json.Token

/-!
# Shortest digits round to their number

The search for the shortest digits of a number always ends with a decimal that rounds to it, and
this decimal has seventeen digits at most, or hardly more.

## Main definitions

- `Magnitude.value` - the number itself
- `Magnitude.reach` - how far from the number everything rounds to it
- `Digits.coefficient`, `Digits.scale` - digits as a natural number times a power of ten

## Main statements

- `Magnitude.shortest_eq` - the search succeeds
- `Digits.ofScaled_spec` - digits without zeros at the end stand for the same decimal
-/

namespace PagePilot.Decimal

open Binary64 (Canonical two_zpow_pos)

/-- The parts of a finite number are in the form that is stored. -/
theorem canonical_of_reading {x : Float} {negative : Bool} {v : Magnitude}
    (h : reading x = .finite negative v) : Canonical v.mantissa v.exponent := by
  simp only [reading, Reading.ofBits] at h
  have hfraction : x.toBits.toNat % leadingBit < 2 ^ 52 := Nat.mod_lt _ (by decide)
  have hexponent : x.toBits.toNat / leadingBit % 2048 < 2048 := Nat.mod_lt _ (by decide)
  generalize x.toBits.toNat % leadingBit = fraction at h hfraction
  generalize x.toBits.toNat / leadingBit % 2048 = exponent at h hexponent
  split at h
  · split at h <;> cases h
  · split at h
    · split at h
      · cases h
      · cases h
        refine ⟨?_, ?_, ?_, ?_, .inr rfl⟩
        all_goals
          dsimp only
          omega
    · cases h
      have hbit : leadingBit = 2 ^ 52 := rfl
      refine ⟨?_, ?_, ?_, ?_, .inl ?_⟩
      all_goals
        dsimp only
        omega

namespace Magnitude

variable {v : Magnitude}

/-- The number itself. -/
def value (v : Magnitude) : ℚ := v.mantissa * 2 ^ v.exponent

theorem ten_zpow_pos (e : Int) : (0 : ℚ) < 10 ^ e := zpow_pos (by norm_num) e

theorem pow_toNat_div (b : ℚ) (hb : b ≠ 0) (e : Int) : b ^ e.toNat / b ^ (-e).toNat = b ^ e := by
  rw [← zpow_natCast, ← zpow_natCast, ← zpow_sub₀ hb]
  congr 1
  omega

theorem denominator_pos : (0 : ℚ) < v.denominator := by
  rw [denominator, Nat.pow_eq]
  push_cast
  positivity

theorem numerator_div : (v.numerator : ℚ) / v.denominator = v.value := by
  rw [numerator, denominator, value, Nat.pow_eq, Nat.pow_eq,
    ← pow_toNat_div 2 two_ne_zero v.exponent]
  push_cast
  field_simp

theorem quarter_div : (2 : ℚ) ^ v.exponent.toNat / v.denominator = 2 ^ v.exponent / 4 := by
  rw [denominator, Nat.pow_eq, ← pow_toNat_div 2 two_ne_zero v.exponent]
  push_cast
  field_simp

theorem numerator_eq : (v.numerator : ℚ) = v.value * v.denominator := by
  rw [← numerator_div, div_mul_cancel₀ _ denominator_pos.ne']

theorem quarter_eq : (2 : ℚ) ^ v.exponent.toNat = 2 ^ v.exponent / 4 * v.denominator := by
  rw [← quarter_div, div_mul_cancel₀ _ denominator_pos.ne']

/-- How far below the number everything rounds to it. -/
def reach (v : Magnitude) : ℚ :=
  if v.mantissa = leadingBit ∧ v.exponent > -1074 then 2 ^ v.exponent / 4 else 2 ^ v.exponent / 2

theorem lowerEnd_eq (hpos : 0 < v.mantissa) :
    (v.lowerEnd : ℚ) = (v.value - v.reach) * v.denominator := by
  have hwide : 4 * 2 ^ v.exponent.toNat ≤ v.numerator := by
    rw [numerator, Nat.pow_eq]
    exact Nat.mul_le_mul_right _ (by omega)
  rw [lowerEnd, reach, Nat.pow_eq]
  by_cases hquarter : v.mantissa = leadingBit ∧ v.exponent > -1074
  · simp only [if_pos hquarter]
    rw [Nat.cast_sub (by omega), numerator_eq]
    push_cast
    rw [quarter_eq]
    ring
  · simp only [if_neg hquarter]
    rw [Nat.cast_sub (by omega), numerator_eq]
    push_cast
    rw [quarter_eq]
    ring

theorem upperEnd_eq : (v.upperEnd : ℚ) = (v.value + 2 ^ v.exponent / 2) * v.denominator := by
  rw [upperEnd, Nat.pow_eq]
  push_cast
  rw [numerator_eq, quarter_eq]
  ring

/-- Where a decimal lies with respect to an end of the interval. -/
theorem point_eq (c : Nat) (scale : Int) :
    ((c * Nat.pow 10 scale.toNat * v.denominator : Nat) : ℚ)
      = c * 10 ^ scale * v.denominator * (Nat.pow 10 (-scale).toNat : Nat) := by
  rw [Nat.pow_eq, Nat.pow_eq, ← pow_toNat_div 10 (by norm_num) scale]
  push_cast
  field_simp

theorem stretch_pos (scale : Int) : (0 : ℚ) < (Nat.pow 10 (-scale).toNat : Nat) := by
  rw [Nat.pow_eq]
  push_cast
  positivity

/-- What rounds to the number is no further away than half a step. -/
theorem close_of_owns (hpos : 0 < v.mantissa) {c : Nat} {scale : Int} (h : v.owns c scale = true) :
    v.value - v.reach ≤ c * 10 ^ scale ∧ (c : ℚ) * 10 ^ scale ≤ v.value + 2 ^ v.exponent / 2 := by
  have hends : v.lowerEnd * Nat.pow 10 (-scale).toNat ≤ c * Nat.pow 10 scale.toNat * v.denominator ∧
      c * Nat.pow 10 scale.toNat * v.denominator ≤ v.upperEnd * Nat.pow 10 (-scale).toNat := by
    simp only [owns] at h
    split at h
    · simpa using h
    · simp only [Bool.and_eq_true, decide_eq_true_eq] at h
      exact ⟨h.1.le, h.2.le⟩
  have hlow : (v.lowerEnd : ℚ) * (Nat.pow 10 (-scale).toNat : Nat)
      ≤ (c * Nat.pow 10 scale.toNat * v.denominator : Nat) := by exact_mod_cast hends.1
  have hhigh : ((c * Nat.pow 10 scale.toNat * v.denominator : Nat) : ℚ)
      ≤ v.upperEnd * (Nat.pow 10 (-scale).toNat : Nat) := by exact_mod_cast hends.2
  rw [point_eq, lowerEnd_eq hpos] at hlow
  rw [point_eq, upperEnd_eq] at hhigh
  have hstretch := stretch_pos scale
  have hdenominator : (0 : ℚ) < v.denominator := denominator_pos
  exact ⟨le_of_mul_le_mul_right (le_of_mul_le_mul_right hlow hstretch) hdenominator,
    le_of_mul_le_mul_right (le_of_mul_le_mul_right hhigh hstretch) hdenominator⟩

/-- What is near enough rounds to the number. -/
theorem owns_of_close (hpos : 0 < v.mantissa) {c : Nat} {scale : Int}
    (hlow : v.value - v.reach < c * 10 ^ scale)
    (hhigh : (c : ℚ) * 10 ^ scale < v.value + 2 ^ v.exponent / 2) : v.owns c scale = true := by
  have hstretch := stretch_pos scale
  have hdenominator : (0 : ℚ) < v.denominator := denominator_pos
  have hlow' : (v.lowerEnd : ℚ) * (Nat.pow 10 (-scale).toNat : Nat)
      < (c * Nat.pow 10 scale.toNat * v.denominator : Nat) := by
    rw [point_eq, lowerEnd_eq hpos]
    exact mul_lt_mul_of_pos_right (mul_lt_mul_of_pos_right hlow hdenominator) hstretch
  have hhigh' : ((c * Nat.pow 10 scale.toNat * v.denominator : Nat) : ℚ)
      < v.upperEnd * (Nat.pow 10 (-scale).toNat : Nat) := by
    rw [point_eq, upperEnd_eq]
    exact mul_lt_mul_of_pos_right (mul_lt_mul_of_pos_right hhigh hdenominator) hstretch
  have hlow'' : v.lowerEnd * Nat.pow 10 (-scale).toNat
      < c * Nat.pow 10 scale.toNat * v.denominator := by exact_mod_cast hlow'
  have hhigh'' : c * Nat.pow 10 scale.toNat * v.denominator
      < v.upperEnd * Nat.pow 10 (-scale).toNat := by exact_mod_cast hhigh'
  simp only [owns]
  split <;> simp only [Bool.and_eq_true, decide_eq_true_eq]
  · exact ⟨hlow''.le, hhigh''.le⟩
  · exact ⟨hlow'', hhigh''⟩

/-- The point of the grid below the number. -/
def below (v : Magnitude) (scale : Int) : Nat :=
  v.numerator * Nat.pow 10 (-scale).toNat / (v.denominator * Nat.pow 10 scale.toNat)

theorem below_bounds (scale : Int) :
    (v.below scale : ℚ) ≤ v.value / 10 ^ scale ∧ v.value / 10 ^ scale < v.below scale + 1 := by
  have hstep : 0 < v.denominator * Nat.pow 10 scale.toNat := by
    rw [denominator, Nat.pow_eq, Nat.pow_eq]
    positivity
  have hvalue : v.value / 10 ^ scale = ((v.numerator * Nat.pow 10 (-scale).toNat : Nat) : ℚ)
      / (v.denominator * Nat.pow 10 scale.toNat : Nat) := by
    rw [Nat.pow_eq, Nat.pow_eq, ← numerator_div, ← pow_toNat_div 10 (by norm_num) scale]
    push_cast
    field_simp
  have hstep' : (0 : ℚ) < (v.denominator * Nat.pow 10 scale.toNat : Nat) := by exact_mod_cast hstep
  rw [hvalue, le_div_iff₀ hstep', div_lt_iff₀ hstep']
  constructor
  · exact_mod_cast Nat.div_mul_le_self _ _
  · have := Nat.lt_div_mul_add (a := v.numerator * Nat.pow 10 (-scale).toNat) hstep
    rw [← Nat.add_one_mul] at this
    exact_mod_cast this

/-- What stands for a number on a grid is one of its two neighbours. -/
theorem onGrid_cases {tie : TieRule} {scale : Int} {c : Nat} (h : v.onGrid tie scale = some c) :
    (c = v.below scale ∧ 0 < v.below scale ∧ v.owns (v.below scale) scale = true) ∨
      c = v.below scale + 1 ∧ v.owns (v.below scale + 1) scale = true := by
  rw [onGrid.eq_def] at h
  simp only [← below.eq_1] at h
  split at h
  · cases h
  · next hbelow _ =>
    cases h
    simp only [Bool.and_eq_true, decide_eq_true_eq] at hbelow
    exact .inl ⟨rfl, hbelow⟩
  · next habove =>
    cases h
    exact .inr ⟨rfl, habove⟩
  · next hbelow habove =>
    simp only [Bool.and_eq_true, decide_eq_true_eq] at hbelow
    -- whichever of the two is taken, both round to the number
    have hboth (hc : c = v.below scale ∨ c = v.below scale + 1) :
        (c = v.below scale ∧ 0 < v.below scale ∧ v.owns (v.below scale) scale = true) ∨
          c = v.below scale + 1 ∧ v.owns (v.below scale + 1) scale = true :=
      hc.imp (fun hc => ⟨hc, hbelow⟩) fun hc => ⟨hc, habove⟩
    apply hboth
    split at h
    · exact .inl (Option.some.inj h).symm
    · split at h
      · exact .inr (Option.some.inj h).symm
      · cases tie
        · have hc := (Option.some.inj h).symm
          split at hc
          · exact .inl hc
          · exact .inr hc
        · exact .inr (Option.some.inj h).symm

theorem not_owns_of_onGrid {tie : TieRule} {scale : Int} (h : v.onGrid tie scale = none) :
    ¬ (0 < v.below scale ∧ v.owns (v.below scale) scale = true) ∧
      ¬ v.owns (v.below scale + 1) scale = true := by
  rw [onGrid.eq_def] at h
  simp only [← below.eq_1] at h
  split at h
  · next hbelow habove =>
    simp only [Bool.and_eq_false_iff, decide_eq_false_iff_not] at hbelow
    refine ⟨fun hboth => ?_, by simp [habove]⟩
    rcases hbelow with hbelow | hbelow
    · exact hbelow hboth.1
    · exact absurd hboth.2 (by simp [hbelow])
  · cases h
  · cases h
  · split at h
    · cases h
    · split at h
      · cases h
      · cases tie <;> cases h

/-- The power of ten of the first digit of a natural number. -/
theorem toDigits_bounds {n : Nat} (hn : 0 < n) :
    10 ^ ((Nat.toDigits 10 n).length - 1) ≤ n ∧ n < 10 ^ (Nat.toDigits 10 n).length := by
  have hpos : 0 < (Nat.toDigits 10 n).length := Nat.length_toDigits_pos
  refine ⟨?_, (Nat.length_toDigits_le_iff (by omega) hpos).mp (le_refl _)⟩
  by_cases hone : (Nat.toDigits 10 n).length = 1
  · rw [hone]
    exact hn
  · by_contra! hlt
    have := (Nat.length_toDigits_le_iff (b := 10) (by omega) (by omega)).mpr hlt
    omega

theorem leading_bounds (hpos : 0 < v.mantissa) :
    10 ^ v.leading ≤ v.value ∧ v.value ≤ 10 ^ (v.leading + 1) := by
  have hnumerator : 0 < v.numerator := by
    rw [numerator, Nat.pow_eq]
    positivity
  have hdenominator : 0 < v.denominator := by
    rw [denominator, Nat.pow_eq]
    positivity
  have hnumerator' : (0 : ℚ) < v.numerator := by exact_mod_cast hnumerator
  have hdenominator' : (0 : ℚ) < v.denominator := by exact_mod_cast hdenominator
  rw [leading]
  by_cases hone : v.denominator ≤ v.numerator
  · have hwhole : 0 < v.numerator / v.denominator := Nat.div_pos hone hdenominator
    obtain ⟨hlow, hhigh⟩ := toDigits_bounds hwhole
    have hlength : 0 < (Nat.toDigits 10 (v.numerator / v.denominator)).length :=
      Nat.length_toDigits_pos
    rw [if_pos hone, ← numerator_div]
    generalize (Nat.toDigits 10 (v.numerator / v.denominator)).length = length at *
    have hexponent : ((length - 1 : Nat) : Int) + 1 = length := by omega
    rw [hexponent, zpow_natCast, zpow_natCast, le_div_iff₀ hdenominator', div_le_iff₀ hdenominator']
    have hlow' := (Nat.le_div_iff_mul_le hdenominator).mp hlow
    have hhigh' := (Nat.div_lt_iff_lt_mul hdenominator).mp hhigh
    exact ⟨by exact_mod_cast hlow', by exact_mod_cast hhigh'.le⟩
  · have hwhole : 0 < v.denominator / v.numerator := Nat.div_pos (by omega) hnumerator
    obtain ⟨hlow, hhigh⟩ := toDigits_bounds hwhole
    have hlength : 0 < (Nat.toDigits 10 (v.denominator / v.numerator)).length :=
      Nat.length_toDigits_pos
    rw [if_neg hone, ← numerator_div]
    generalize (Nat.toDigits 10 (v.denominator / v.numerator)).length = length at *
    have hexponent : -(length : Int) + 1 = -((length - 1 : Nat) : Int) := by omega
    have hlow' := (Nat.le_div_iff_mul_le hnumerator).mp hlow
    have hhigh' := (Nat.div_lt_iff_lt_mul hnumerator).mp hhigh
    rw [hexponent, zpow_neg, zpow_neg, zpow_natCast, zpow_natCast]
    constructor
    · rw [inv_le_comm₀ (by positivity) (by positivity), inv_div, div_le_iff₀ hnumerator']
      exact_mod_cast hhigh'.le
    · rw [le_inv_comm₀ (by positivity) (by positivity), inv_div, le_div_iff₀ hnumerator']
      exact_mod_cast hlow'

/-- A grid with sixteen places behind the first digit is fine enough. -/
theorem onGrid_isSome (h : Canonical v.mantissa v.exponent) (tie : TieRule) :
    (v.onGrid tie (v.leading - 16)).isSome = true := by
  rw [← Option.ne_none_iff_isSome]
  intro hnone
  obtain ⟨hbelow, habove⟩ := not_owns_of_onGrid hnone
  obtain ⟨hfloor, hceil⟩ := below_bounds (v := v) (v.leading - 16)
  obtain ⟨hleading, -⟩ := leading_bounds h.pos
  have hstep := ten_zpow_pos (v.leading - 16)
  have hpow : (10 : ℚ) ^ v.leading = 10 ^ (v.leading - 16) * 10 ^ 16 := by
    rw [← zpow_natCast, ← zpow_add₀ (by norm_num)]
    congr 1
    omega
  rw [hpow] at hleading
  rw [le_div_iff₀ hstep] at hfloor
  rw [div_lt_iff₀ hstep] at hceil
  have hunit := two_zpow_pos v.exponent
  have hvalue : v.value < 2 ^ 53 * 2 ^ v.exponent := by
    have hlt : (v.mantissa : ℚ) < 2 ^ 53 := by exact_mod_cast h.lt
    exact mul_lt_mul_of_pos_right hlt hunit
  have hreach : (10 : ℚ) ^ (v.leading - 16) / 2 < v.reach := by
    rw [reach]
    split
    · next hquarter =>
      have hvalue' : v.value = 2 ^ 52 * 2 ^ v.exponent := by
        rw [value, hquarter.1, leadingBit]
        norm_num
      rw [hvalue'] at hleading
      linarith
    · linarith
  have hreach' : v.reach ≤ 2 ^ v.exponent / 2 := by
    rw [reach]
    split <;> linarith
  generalize hgrid : (10 : ℚ) ^ (v.leading - 16) = step at *
  rcases le_total (v.value - v.below (v.leading - 16) * step) (step / 2) with hnear | hnear
  · have hpos : 0 < v.below (v.leading - 16) := by
      have hwide : (1 : ℚ) < v.below (v.leading - 16) + 1 := by nlinarith
      have : 1 < v.below (v.leading - 16) + 1 := by exact_mod_cast hwide
      omega
    refine hbelow ⟨hpos, owns_of_close h.pos ?_ ?_⟩
    all_goals
      rw [hgrid]
      linarith
  · refine habove (owns_of_close h.pos ?_ ?_)
    all_goals
      rw [hgrid]
      push_cast
      linarith

/-- The search ends with a grid on which there is a decimal for the number. -/
theorem search_eq {tie : TieRule} {tries : Nat} {scale : Int} {n : Nat} (hn : n < tries)
    (h : (v.onGrid tie (scale - n)).isSome = true) :
    ∃ c scale', v.search tie tries scale = .ofScaled c scale' ∧ v.onGrid tie scale' = some c ∧
      scale - n ≤ scale' := by
  induction tries generalizing scale n with
  | zero => omega
  | succ tries ih =>
    cases hgrid : v.onGrid tie scale with
    | some c =>
      refine ⟨c, scale, ?_, hgrid, by omega⟩
      rw [search, hgrid]
    | none =>
      obtain ⟨n, rfl⟩ : ∃ m, n = m + 1 := by
        cases n with
        | zero =>
          rw [Nat.cast_zero, sub_zero, hgrid] at h
          cases h
        | succ n => exact ⟨n, rfl⟩
      have hscale : scale - 1 - (n : Int) = scale - (n + 1 : Nat) := by omega
      obtain ⟨c, scale', hsearch, hc, hle⟩ := ih (by omega) (hscale ▸ h)
      refine ⟨c, scale', ?_, hc, by omega⟩
      rw [search, hgrid]
      exact hsearch

/-- The search for the shortest digits succeeds: it ends with a decimal of hardly more than
seventeen digits that rounds to the number. -/
theorem shortest_eq (h : Canonical v.mantissa v.exponent) (tie : TieRule) :
    ∃ c scale, v.shortest tie = .ofScaled c scale ∧ 0 < c ∧ c ≤ 10 ^ 17 + 1 ∧
      v.value - v.reach ≤ c * 10 ^ scale ∧ (c : ℚ) * 10 ^ scale ≤ v.value + 2 ^ v.exponent / 2 := by
  have hfine : (v.onGrid tie (v.leading + 1 - (17 : Nat))).isSome = true := by
    have hscale : v.leading + 1 - (17 : Nat) = v.leading - 16 := by omega
    rw [hscale]
    exact onGrid_isSome h tie
  obtain ⟨c, scale, hsearch, hgrid, hscale⟩ := search_eq (show 17 < 19 by omega) hfine
  obtain ⟨-, hhigh⟩ := leading_bounds h.pos
  have hbelow : v.below scale ≤ 10 ^ 17 := by
    obtain ⟨hfloor, -⟩ := below_bounds (v := v) scale
    have hpow : (10 : ℚ) ^ (v.leading + 1) ≤ 10 ^ 17 * 10 ^ scale := by
      rw [← zpow_natCast, ← zpow_add₀ (by norm_num)]
      exact zpow_le_zpow_right₀ (by norm_num) (by omega)
    have hquotient : v.value / 10 ^ scale ≤ 10 ^ 17 := by
      rw [div_le_iff₀ (ten_zpow_pos scale)]
      exact hhigh.trans hpow
    exact_mod_cast hfloor.trans hquotient
  rcases onGrid_cases hgrid with ⟨rfl, hpos, howns⟩ | ⟨rfl, howns⟩
  · obtain ⟨hclose, hclose'⟩ := close_of_owns h.pos howns
    exact ⟨_, scale, hsearch, hpos, by omega, hclose, hclose'⟩
  · obtain ⟨hclose, hclose'⟩ := close_of_owns h.pos howns
    exact ⟨_, scale, hsearch, by omega, by omega, hclose, hclose'⟩

end Magnitude

namespace Digits

/-- The natural number that the digits make up. -/
def coefficient (d : Digits) : Nat := Nat.ofDigitChars 10 d.digits 0

/-- The power of ten of the last digit. -/
def scale (d : Digits) : Int := d.exponent + 1 - d.digits.length

/-- There are digits, and the first one is not a zero. -/
structure Proper (d : Digits) : Prop where
  isDigit : ∀ c ∈ d.digits, c.isDigit = true
  cons : ∃ c rest, d.digits = c :: rest ∧ c ≠ '0'

/-- The digits of a number are its digits without the zeros at the end, and these zeros. -/
theorem toDigits_eq_append (c : Nat) (scale : Int) : ∃ zeros,
    Nat.toDigits 10 c = (ofScaled c scale).digits ++ List.replicate zeros '0' := by
  have hdigits : (ofScaled c scale).digits
      = ((Nat.toDigits 10 c).reverse.dropWhile (· == '0')).reverse := rfl
  rw [hdigits]
  generalize Nat.toDigits 10 c = written
  have hsplit := List.takeWhile_append_dropWhile (p := (· == '0')) (l := written.reverse)
  have hzeros : ∀ digit ∈ (written.reverse.takeWhile (· == '0')).reverse, digit = '0' := by
    intro digit hmem
    have hall := List.all_eq_true.mp List.all_takeWhile digit (List.mem_reverse.mp hmem)
    simpa using hall
  refine ⟨(written.reverse.takeWhile (· == '0')).reverse.length, ?_⟩
  rw [← List.eq_replicate_of_mem hzeros, ← List.reverse_append, hsplit, List.reverse_reverse]

/-- The power of ten of the first digit of a decimal. -/
theorem ofScaled_exponent {c : Nat} (hpos : 0 < c) (scale : Int) :
    10 ^ (ofScaled c scale).exponent ≤ (c : ℚ) * 10 ^ scale ∧
      (c : ℚ) * 10 ^ scale < 10 ^ ((ofScaled c scale).exponent + 1) := by
  obtain ⟨hlow, hhigh⟩ := Magnitude.toDigits_bounds hpos
  have hlength : 0 < (Nat.toDigits 10 c).length := Nat.length_toDigits_pos
  have hexponent : (ofScaled c scale).exponent
      = ((Nat.toDigits 10 c).length - 1 : Nat) + scale := Int.add_comm _ _
  have hnext : (ofScaled c scale).exponent + 1 = (Nat.toDigits 10 c).length + scale := by omega
  have hlow' : (10 : ℚ) ^ ((Nat.toDigits 10 c).length - 1) ≤ c := by exact_mod_cast hlow
  have hhigh' : (c : ℚ) < 10 ^ (Nat.toDigits 10 c).length := by exact_mod_cast hhigh
  have hstep := Magnitude.ten_zpow_pos scale
  rw [hnext, hexponent, zpow_add₀ (by norm_num), zpow_add₀ (by norm_num), zpow_natCast,
    zpow_natCast]
  exact ⟨mul_le_mul_of_nonneg_right hlow' hstep.le, mul_lt_mul_of_pos_right hhigh' hstep⟩

/-- Without the zeros at their end, digits stand for the same decimal. -/
theorem ofScaled_spec {c : Nat} (hpos : 0 < c) (scale : Int) :
    (ofScaled c scale).Proper ∧ (ofScaled c scale).coefficient ≤ c ∧
      ((ofScaled c scale).coefficient : ℚ) * 10 ^ (ofScaled c scale).scale = c * 10 ^ scale := by
  obtain ⟨zeros, hwritten⟩ := toDigits_eq_append c scale
  have hvalue : 10 ^ zeros * (ofScaled c scale).coefficient = c := by
    have hread := Nat.ofDigitChars_ten_toDigits (n := c)
    rwa [hwritten, Nat.ofDigitChars_append, Nat.ofDigitChars_replicate_zero] at hread
  have hexponent : (ofScaled c scale).scale = scale + zeros := by
    have hlength : 0 < (Nat.toDigits 10 c).length := Nat.length_toDigits_pos
    have hexponent : (ofScaled c scale).exponent
        = scale + ((Nat.toDigits 10 c).length - 1 : Nat) := rfl
    have hsum := congrArg List.length hwritten
    rw [List.length_append, List.length_replicate] at hsum
    rw [Digits.scale, hexponent]
    omega
  refine ⟨⟨fun digit hmem => ?_, ?_⟩, ?_, ?_⟩
  · refine Nat.isDigit_of_mem_toDigits (n := c) (by omega) (Nat.le_refl 10) ?_
    rw [hwritten]
    exact List.mem_append_left _ hmem
  · obtain ⟨first, rest, hcons, hfirst, -⟩ := Json.toDigits_eq_cons (show c ≠ 0 by omega)
    cases hdigits : (ofScaled c scale).digits with
    | nil =>
      rw [hwritten, hdigits, List.nil_append] at hcons
      have hmem : first ∈ List.replicate zeros '0' := hcons ▸ List.mem_cons_self
      exact absurd (List.eq_of_mem_replicate hmem) hfirst
    | cons digit digits =>
      rw [hwritten, hdigits, List.cons_append] at hcons
      exact ⟨digit, digits, rfl, (List.cons.inj hcons).1 ▸ hfirst⟩
  · have hzeros : 0 < 10 ^ zeros := by positivity
    exact (Nat.le_mul_of_pos_left _ hzeros).trans_eq hvalue
  · have hvalue' : (10 : ℚ) ^ zeros * (ofScaled c scale).coefficient = c := by exact_mod_cast hvalue
    rw [hexponent, zpow_add₀ (by norm_num), zpow_natCast, ← hvalue']
    ring

end Digits

end PagePilot.Decimal
