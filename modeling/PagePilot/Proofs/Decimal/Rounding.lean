import Mathlib
import PagePilot.Json.Reader.Token

/-!
# Products and quotients of floating-point numbers

How far the result of one operation on floating-point numbers is from the exact one. The bound is a
whole step of the last place, twice of what rounding to the nearest would allow; nothing here needs
more.

## Main definitions

- `Binary64.Is` - a floating-point number is positive and finite and has a certain value
- `Binary64.Floor` - the mantissa of a number before it is rounded

## Main statements

- `Binary64.unpack_pack` - the parts of a number are put together and taken apart again
- `Binary64.Is.mul`, `Binary64.Is.div`, `Binary64.is_toFloat` - the values of results
- `Binary64.is_powerOfTen` - the values of powers of ten
-/

namespace PagePilot.Binary64

open Float.Model Float.Model.UnpackedFloat

/-- The parts of a number in the one form that is stored: the mantissa is full, or the exponent is
the least one. -/
structure Canonical (m : Nat) (e : Int) : Prop where
  pos : 0 < m
  lt : m < 2 ^ 53
  low : -1074 ≤ e
  high : e ≤ 971
  full : 2 ^ 52 ≤ m ∨ e = -1074

/-- The number is positive and finite and has the value `q`. -/
def Is (x : Float) (q : ℚ) : Prop :=
  ∃ m e, ∃ h : Canonical m e, x.toModel.unpack = .finite .positive m e h.pos ∧ q = m * 2 ^ e

/-- The largest number. -/
def largest : ℚ := (2 ^ 53 - 1) * 2 ^ (971 : Int)

section Parts

/-- The parts of a number are put together and taken apart again. -/
theorem unpack_pack (s : Sign) {m : Nat} {e : Int} (h : Canonical m e) :
    (Float.Model.pack (.finite s m e h.pos)).unpack = .finite s m e h.pos := by
  obtain ⟨hpos, hlt, hlow, hhigh, hfull⟩ := h
  have hexponent : ¬ 2047 ≤ (e + 1023 + 52).toNat := by omega
  have hlog : m.log2 + 1 = 53 ↔ 4503599627370496 ≤ m := by
    have hlog2 : m.log2 = 52 ↔ 2 ^ 52 ≤ m ∧ m < 2 ^ 53 := Nat.log2_eq_iff (by omega)
    omega
  have hbias : Format.binary64.exponentBias = 1023 := rfl
  have hbits : Format.binary64.mantissaBits = 53 := rfl
  simp only [Float.Model.unpack, Float.Model.pack, UInt64.toBitVec_ofBitVec, UnpackedFloat.pack,
    hbias, hbits, hlog]
  push_cast
  rw [if_neg hexponent]
  by_cases hnormal : 4503599627370496 ≤ m
  · have hnonzero : BitVec.ofNat 11 (e + 1023 + 52).toNat ≠ 0#11 := by
      intro h
      have := congrArg BitVec.toNat h
      simp at this
      omega
    have hfinite : BitVec.ofNat 11 (e + 1023 + 52).toNat ≠ -1#11 := by
      intro h
      have := congrArg BitVec.toNat h
      simp at this
      omega
    rw [if_pos hnormal, UnpackedFloat.unpack]
    simp only [unpackExponent_packComponents, unpackMantissa_packComponents,
      unpackSign_packComponents, Sign.ofBitVec_toBitVec, if_neg hnonzero, if_neg hfinite,
      finite.injEq, true_and]
    constructor
    · rw [BitVec.toNat_append, ← Nat.shiftLeft_add_eq_or_of_lt (BitVec.isLt _)]
      simp
      omega
    · rw [hbias, BitVec.toNat_ofNat]
      omega
  · obtain rfl : e = -1074 := by omega
    have hnonzero : BitVec.ofNat 52 m ≠ 0#52 := by
      intro h
      have := congrArg BitVec.toNat h
      simp at this
      omega
    rw [if_neg hnormal, UnpackedFloat.unpack]
    simp only [unpackExponent_packComponents, unpackMantissa_packComponents,
      unpackSign_packComponents, Sign.ofBitVec_toBitVec]
    rw [if_neg (by decide), if_pos trivial, dif_neg hnonzero]
    simp only [finite.injEq, true_and, hbias, BitVec.toNat_ofNat]
    exact ⟨Nat.mod_eq_of_lt (by omega), rfl⟩

end Parts

section Rounding

/-- The exponent with which a number is stored. -/
theorem targetExponent_eq (m : Nat) (e : Int) :
    Format.binary64.targetExponent (totalExponent m e) = max (m.log2 + e - 52) (-1074) := by
  have hleast : Format.binary64.minExponent = -1074 := rfl
  have hbits : Format.binary64.mantissaBits = 53 := rfl
  rw [Format.targetExponent, totalExponent, hleast, hbits]
  omega

theorem mantissa_shiftRight (em : ExtendedMantissa) (k : Nat) :
    (em >>> k).mantissa = em.mantissa / 2 ^ k := by
  induction k with
  | zero => exact (Nat.div_one _).symm
  | succ k ih =>
    have hstep : (em >>> (k + 1)).mantissa = (em >>> k).mantissa / 2 := rfl
    rw [hstep, ih, Nat.div_div_eq_div_mul, Nat.pow_succ]

/-- Rounding goes up by one at most. -/
theorem roundedMantissa_bounds (em : ExtendedMantissa) :
    em.mantissa ≤ em.roundedMantissa ∧ em.roundedMantissa ≤ em.mantissa + 1 := by
  obtain ⟨m, roundBit, stickyBit⟩ := em
  cases roundBit <;> cases stickyBit
  all_goals
    simp only [ExtendedMantissa.roundedMantissa, ExtendedMantissa.accuracy,
      Accuracy.roundToNearestEven]
    omega

/-- The first shift brings the exponent to where it is stored. -/
theorem shift_to_target {m : Nat} {e t : Int} (acc : Accuracy)
    (ht : t = max (m.log2 + e - 52) (-1074)) (hle : e ≤ t) :
    ∃ em, shiftToTargetExponent Format.binary64 m e acc = (em, t) ∧
      em.mantissa = m / 2 ^ (t - e).toNat := by
  have hexponent : e + ((t - e).toNat : Int) = t := by omega
  refine ⟨_, Prod.ext rfl ?_, ?_⟩
  · simp only [shiftToTargetExponent, targetExponent_eq, ← ht, shiftToExponent]
    exact hexponent
  · simp only [shiftToTargetExponent, targetExponent_eq, ← ht, shiftToExponent,
      mantissa_shiftRight]
    cases acc with
    | exact => rfl
    | inexact relative => cases relative <;> rfl

/-- A mantissa that has become too wide by rounding is shifted once more. -/
theorem shift_rounded {r : Nat} {t : Int} (hr : r ≤ 2 ^ 53) (ht : -1074 ≤ t) :
    shiftToTargetExponent Format.binary64 r t .exact
      = if r < 2 ^ 53 then (⟨r, false, false⟩, t) else (⟨2 ^ 52, false, false⟩, t + 1) := by
  by_cases hsmall : r < 2 ^ 53
  · rw [if_pos hsmall]
    have hlog : r.log2 ≤ 52 := by
      by_cases hzero : r = 0
      · simp [hzero]
      · have := (Nat.log2_lt hzero).mpr hsmall
        omega
    have hshift : (max (r.log2 + t - 52) (-1074) - t).toNat = 0 := by omega
    simp only [shiftToTargetExponent, targetExponent_eq, shiftToExponent, hshift]
    exact Prod.ext rfl (by simp)
  · rw [if_neg hsmall]
    obtain rfl : r = 2 ^ 53 := by omega
    have hlog : (2 ^ 53 : Nat).log2 = 53 := Nat.log2_two_pow
    have hshift : (max (((2 ^ 53 : Nat).log2 : Int) + t - 52) (-1074) - t).toNat = 1 := by omega
    simp only [shiftToTargetExponent, targetExponent_eq, shiftToExponent, hshift]
    exact Prod.ext rfl (by simp)

theorem two_zpow_pos (e : Int) : (0 : ℚ) < 2 ^ e := zpow_pos (by norm_num) e

theorem largest_eq : largest = ((2 ^ 53 - 1) * 2 ^ 971 : Nat) := by
  rw [largest, show (971 : Int) = (971 : Nat) from rfl, zpow_natCast, Nat.cast_mul, Nat.cast_pow,
    Nat.cast_ofNat]
  congr 1
  norm_num

/-- The largest number lies between two powers of ten. -/
theorem largest_bounds : (10 : ℚ) ^ 308 < largest ∧ largest ≤ 10 ^ 309 := by
  have h : 10 ^ 308 < (2 ^ 53 - 1) * 2 ^ 971 ∧ (2 ^ 53 - 1) * 2 ^ 971 ≤ 10 ^ 309 := by
    decide +kernel
  rw [largest_eq]
  constructor
  · exact_mod_cast h.1
  · exact_mod_cast h.2

theorem lt_largest_of_le {n : Nat} {q : ℚ} (hn : n ≤ 308) (h : q ≤ 10 ^ n) : q < largest :=
  (h.trans (pow_le_pow_right₀ (by norm_num) hn)).trans_lt largest_bounds.1

/-- The part of a number that is left after its last bits have been dropped. -/
theorem floor_bounds {m : Nat} {e t : Int} {X : ℚ} (hle : e ≤ t) (hlow : m * 2 ^ e ≤ X)
    (hhigh : X < (m + 1) * 2 ^ e) :
    ((m / 2 ^ (t - e).toNat : Nat) : ℚ) * 2 ^ t ≤ X ∧
      X < ((m / 2 ^ (t - e).toNat : Nat) + 1) * 2 ^ t := by
  generalize hk : (t - e).toNat = k
  have hpow : (2 : ℚ) ^ t = 2 ^ k * 2 ^ e := by
    have hexponent : t = k + e := by omega
    rw [hexponent, zpow_add₀ (by norm_num), zpow_natCast]
  have hbelow : (m / 2 ^ k) * 2 ^ k ≤ m := Nat.div_mul_le_self m (2 ^ k)
  have habove : m + 1 ≤ (m / 2 ^ k + 1) * 2 ^ k := by
    rw [Nat.add_one_mul]
    have := Nat.lt_div_mul_add (a := m) (b := 2 ^ k) (Nat.two_pow_pos k)
    omega
  have hbelow' : ((m / 2 ^ k : Nat) : ℚ) * 2 ^ k ≤ m := by exact_mod_cast hbelow
  have habove' : (m : ℚ) + 1 ≤ ((m / 2 ^ k : Nat) + 1) * 2 ^ k := by exact_mod_cast habove
  rw [hpow, ← mul_assoc, ← mul_assoc]
  constructor
  · exact (mul_le_mul_of_nonneg_right hbelow' (two_zpow_pos e).le).trans hlow
  · exact hhigh.trans_le (mul_le_mul_of_nonneg_right habove' (two_zpow_pos e).le)

theorem floor_lt {m : Nat} {e t : Int} (ht : t = max (m.log2 + e - 52) (-1074)) :
    m / 2 ^ (t - e).toNat < 2 ^ 53 := by
  have hwide : m < 2 ^ (m.log2 + 1) := Nat.lt_log2_self
  have hpow : 2 ^ (m.log2 + 1) ≤ 2 ^ (53 + (t - e).toNat) :=
    Nat.pow_le_pow_right (by omega) (by omega)
  rw [Nat.div_lt_iff_lt_mul (Nat.two_pow_pos _), ← Nat.pow_add]
  omega

/-- The mantissa is full, unless the exponent is the least one. -/
theorem floor_full {m : Nat} {e t : Int} (ht : t = max (m.log2 + e - 52) (-1074)) (hle : e ≤ t) :
    2 ^ 52 ≤ m / 2 ^ (t - e).toNat ∨ t = -1074 := by
  by_cases hleast : t = -1074
  · exact .inr hleast
  · have hne : m ≠ 0 := by
      rintro rfl
      simp at ht
      omega
    have hlog : m.log2 = 52 + (t - e).toNat := by omega
    have hself := Nat.log2_self_le hne
    rw [hlog, Nat.pow_add] at hself
    exact .inl ((Nat.le_div_iff_mul_le (Nat.two_pow_pos _)).mpr hself)

/-- What rounding comes to, in the form that is stored. -/
theorem exists_is_round {m r : Nat} {e t : Int} {acc : Accuracy} {em : ExtendedMantissa}
    (hfirst : shiftToTargetExponent Format.binary64 m e acc = (em, t))
    (hr : em.roundedMantissa = r) (hpos : 0 < r) (hle : r ≤ 2 ^ 53) (hlow : -1074 ≤ t)
    (hhigh : t ≤ 971) (hfull : 2 ^ 52 ≤ r ∨ t = -1074) (hfits : r < 2 ^ 53 ∨ t < 971) :
    Is (.ofModel (.pack (roundWithAccuracy Format.binary64 .positive m e acc))) (r * 2 ^ t) := by
  by_cases hsmall : r < 2 ^ 53
  · have hcanonical : Canonical r t := ⟨hpos, hsmall, hlow, hhigh, hfull⟩
    refine ⟨r, t, hcanonical, ?_, rfl⟩
    have hround : roundWithAccuracy Format.binary64 .positive m e acc
        = .finite .positive r t hcanonical.pos := by
      simp only [roundWithAccuracy, hfirst, hr, shift_rounded hle hlow, if_pos hsmall]
      rw [dif_neg (by omega)]
    rw [hround]
    exact unpack_pack .positive hcanonical
  · obtain rfl : r = 2 ^ 53 := by omega
    have hcanonical : Canonical (2 ^ 52) (t + 1) :=
      ⟨by decide, by decide, by omega, by omega, .inl (le_refl _)⟩
    refine ⟨2 ^ 52, t + 1, hcanonical, ?_, ?_⟩
    · have hround : roundWithAccuracy Format.binary64 .positive m e acc
          = .finite .positive (2 ^ 52) (t + 1) hcanonical.pos := by
        simp only [roundWithAccuracy, hfirst, hr, shift_rounded hle hlow, if_neg hsmall]
        rw [dif_neg (by decide)]
      rw [hround]
      exact unpack_pack .positive hcanonical
    · rw [zpow_add₀ (by norm_num)]
      push_cast
      ring

/-- The mantissa before rounding: so many whole steps of the last place are in a number. -/
structure Floor (X : ℚ) (f : Nat) (t : Int) : Prop where
  below : f * 2 ^ t ≤ X
  above : X < (f + 1) * 2 ^ t
  lt : f < 2 ^ 53
  full : 2 ^ 52 ≤ f ∨ t = -1074

namespace Floor

variable {X : ℚ} {f : Nat} {t : Int}

/-- The step of the last place is the least one, or small against the number. -/
theorem step_le (h : Floor X f t) : (2 : ℚ) ^ t ≤ max (X / 2 ^ 52) (2 ^ (-1074 : Int)) := by
  rcases h.full with hfull | rfl
  · refine le_max_of_le_left ?_
    have hfull' : (2 : ℚ) ^ 52 ≤ f := by exact_mod_cast hfull
    have hbelow := h.below
    have hstep := two_zpow_pos t
    rw [le_div_iff₀ (by norm_num)]
    nlinarith
  · exact le_max_right _ _

theorem pos (h : Floor X f t) (hleast : 2 ^ (-1074 : Int) ≤ X) : 0 < f := by
  rcases h.full with hfull | rfl
  · omega
  · have hone : 1 * (2 : ℚ) ^ (-1074 : Int) < (f + 1) * 2 ^ (-1074 : Int) := by
      rw [one_mul]
      exact hleast.trans_lt h.above
    have hone' : (1 : ℚ) < f + 1 := lt_of_mul_lt_mul_right hone (two_zpow_pos _).le
    exact_mod_cast (lt_add_iff_pos_left 1).mp hone'

theorem exponent_le (h : Floor X f t) (hlargest : X < largest) : t ≤ 971 := by
  by_contra! habove
  have hexponent : (f : ℚ) * 2 ^ t < (2 ^ 53 - 1) * 2 ^ (971 : Int) := h.below.trans_lt hlargest
  have hpow : (2 : ℚ) ^ (972 : Int) ≤ 2 ^ t := zpow_le_zpow_right₀ (by norm_num) (by omega)
  have hwide : (2 : ℚ) ^ 52 ≤ f := by exact_mod_cast h.full.resolve_right (by omega)
  have hdouble : (2 : ℚ) ^ (972 : Int) = 2 ^ (971 : Int) * 2 := zpow_add_one₀ two_ne_zero 971
  rw [hdouble] at hpow
  have hunit := two_zpow_pos 971
  generalize (2 : ℚ) ^ (971 : Int) = unit at hunit hpow hexponent
  nlinarith

/-- Rounding up stays in the range. -/
theorem fits (h : Floor X f t) (hlargest : X < largest) : f + 1 < 2 ^ 53 ∨ t < 971 := by
  by_contra! hwide
  obtain rfl : t = 971 := le_antisymm (h.exponent_le hlargest) hwide.2
  have hfloor : (2 : ℚ) ^ 53 ≤ f + 1 := by exact_mod_cast hwide.1
  have hfloor' := lt_of_mul_lt_mul_right (h.below.trans_lt hlargest) (two_zpow_pos 971).le
  linarith only [hfloor, hfloor']

end Floor

/-- A number with enough bits is rounded to one that is at most one step of the last place away. -/
theorem exists_rounded {m : Nat} {e : Int} {X : ℚ} (acc : Accuracy)
    (hbits : e ≤ max (m.log2 + e - 52) (-1074)) (hlow : m * 2 ^ e ≤ X)
    (hhigh : X < (m + 1) * 2 ^ e) (hleast : 2 ^ (-1074 : Int) ≤ X) (hlargest : X < largest) :
    ∃ q, Is (.ofModel (.pack (roundWithAccuracy Format.binary64 .positive m e acc))) q ∧
      |q - X| ≤ max (X / 2 ^ 52) (2 ^ (-1074 : Int)) := by
  generalize ht : max ((m.log2 : Int) + e - 52) (-1074) = t at hbits
  obtain ⟨em, hfirst, hmantissa⟩ := shift_to_target acc ht.symm hbits
  have hfloor : Floor X em.mantissa t := by
    rw [hmantissa]
    obtain ⟨hbelow, habove⟩ := floor_bounds hbits hlow hhigh
    exact ⟨hbelow, habove, floor_lt ht.symm, floor_full ht.symm hbits⟩
  obtain ⟨hr, hr'⟩ := roundedMantissa_bounds em
  have hpos := hfloor.pos hleast
  have hfits := hfloor.fits hlargest
  have hlt := hfloor.lt
  have hfull : 2 ^ 52 ≤ em.roundedMantissa ∨ t = -1074 := hfloor.full.imp_left hr.trans'
  refine ⟨em.roundedMantissa * 2 ^ t, exists_is_round hfirst rfl (by omega) (by omega) (by omega)
    (hfloor.exponent_le hlargest) hfull (by omega), le_trans ?_ hfloor.step_le⟩
  have hr₁ : (em.mantissa : ℚ) ≤ em.roundedMantissa := by exact_mod_cast hr
  have hr₂ : (em.roundedMantissa : ℚ) ≤ em.mantissa + 1 := by exact_mod_cast hr'
  have hbelow := hfloor.below
  have habove := hfloor.above
  have hstep := two_zpow_pos t
  rw [abs_le]
  constructor <;> nlinarith

/-- A number that is not small is rounded to one that is relatively close. -/
theorem exists_rounded_exact {m : Nat} {e : Int} {X : ℚ}
    (hbits : e ≤ max (m.log2 + e - 52) (-1074)) (hvalue : m * 2 ^ e = X) (hquarter : 1 / 4 ≤ X)
    (hlargest : X < largest) :
    ∃ q, Is (.ofModel (.pack (roundWithAccuracy Format.binary64 .positive m e .exact))) q ∧
      |q - X| ≤ X / 2 ^ 52 := by
  have hsmall : (2 : ℚ) ^ (-1074 : Int) ≤ X / 2 ^ 52 := by
    have hleast : (2 : ℚ) ^ (-1074 : Int) * 2 ^ 54 ≤ 1 := by
      rw [← zpow_natCast, ← zpow_add₀ (by norm_num)]
      exact zpow_le_one_of_nonpos₀ (by norm_num) (by norm_num)
    rw [le_div_iff₀ (by norm_num)]
    linarith
  have hceil : X < (m + 1) * 2 ^ e := by
    rw [add_mul, hvalue, one_mul]
    exact lt_add_of_pos_right _ (two_zpow_pos e)
  obtain ⟨q, hq, hclose⟩ := exists_rounded .exact hbits hvalue.le hceil
    (hsmall.trans (div_le_self (by linarith) (by norm_num))) hlargest
  rw [max_eq_left hsmall] at hclose
  exact ⟨q, hq, hclose⟩

end Rounding

section Operations

variable {x y : Float} {a b : ℚ}

theorem mul_eq (x y : Float) : x * y = .ofModel (.pack
    (UnpackedFloat.mul Format.binary64 x.toModel.unpack y.toModel.unpack)) := rfl

theorem div_eq (x y : Float) : x / y = .ofModel (.pack
    (UnpackedFloat.div Format.binary64 x.toModel.unpack y.toModel.unpack)) := rfl

/-- A number that is not too small has a full mantissa. -/
theorem Canonical.full_of_le {m : Nat} {e : Int} (h : Canonical m e)
    (hvalue : 1 / 2 ≤ (m : ℚ) * 2 ^ e) : 2 ^ 52 ≤ m := by
  rcases h.full with hfull | rfl
  · exact hfull
  · have hlt : (m : ℚ) < 2 ^ 53 := by exact_mod_cast h.lt
    have hleast : (2 : ℚ) ^ (-1074 : Int) ≤ 2 ^ (-55 : Int) :=
      zpow_le_zpow_right₀ (by norm_num) (by norm_num)
    have hsmall : (m : ℚ) * 2 ^ (-1074 : Int) < 2 ^ 53 * 2 ^ (-55 : Int) :=
      mul_lt_mul hlt hleast (two_zpow_pos _) (by norm_num)
    have hquarter : (2 : ℚ) ^ 53 * 2 ^ (-55 : Int) = 1 / 4 := by norm_num
    rw [hquarter] at hsmall
    linarith only [hsmall, hvalue]

/-- The product of two numbers that are not too small. -/
theorem Is.mul (hx : Is x a) (hy : Is y b) (ha : 1 / 2 ≤ a) (hb : 1 / 2 ≤ b)
    (hab : a * b < largest) : ∃ q, Is (x * y) q ∧ |q - a * b| ≤ a * b / 2 ^ 52 := by
  obtain ⟨m₁, e₁, h₁, hx, rfl⟩ := hx
  obtain ⟨m₂, e₂, h₂, hy, rfl⟩ := hy
  have hproduct : x * y = .ofModel (.pack (roundWithAccuracy Format.binary64 .positive
      (m₁ * m₂) (e₁ + e₂) .exact)) := by
    rw [mul_eq, hx, hy]
    rfl
  have hvalue : ((m₁ * m₂ : Nat) : ℚ) * 2 ^ (e₁ + e₂) = m₁ * 2 ^ e₁ * (m₂ * 2 ^ e₂) := by
    rw [zpow_add₀ (by norm_num)]
    push_cast
    ring
  have hlog : 52 ≤ (m₁ * m₂).log2 := by
    have hone := h₂.pos
    have hwide : 2 ^ 52 ≤ m₁ * m₂ := (h₁.full_of_le ha).trans (Nat.le_mul_of_pos_right m₁ hone)
    exact (Nat.le_log2 (by omega)).mpr hwide
  rw [hproduct]
  exact exists_rounded_exact (by omega) hvalue (by nlinarith) hab

/-- The whole part of a quotient of mantissas, the first of which has been shifted. -/
theorem quotient_bounds (m₁ : Nat) {m₂ k : Nat} (e₁ e₂ e : Int) (hpos : 0 < m₂)
    (hk : e₁ - e₂ - e = k) :
    ((m₁ <<< k / m₂ : Nat) : ℚ) * 2 ^ e ≤ (m₁ : ℚ) * 2 ^ e₁ / (m₂ * 2 ^ e₂) ∧
      (m₁ : ℚ) * 2 ^ e₁ / (m₂ * 2 ^ e₂) < ((m₁ <<< k / m₂ : Nat) + 1) * 2 ^ e := by
  have hbelow : m₁ <<< k / m₂ * m₂ ≤ m₁ * 2 ^ k := by
    rw [← Nat.shiftLeft_eq]
    exact Nat.div_mul_le_self _ _
  have habove : m₁ * 2 ^ k < (m₁ <<< k / m₂ + 1) * m₂ := by
    rw [← Nat.shiftLeft_eq, Nat.add_one_mul]
    exact Nat.lt_div_mul_add hpos
  have hbelow' : ((m₁ <<< k / m₂ : Nat) : ℚ) * m₂ ≤ m₁ * 2 ^ k := by exact_mod_cast hbelow
  have habove' : (m₁ : ℚ) * 2 ^ k < ((m₁ <<< k / m₂ : Nat) + 1) * m₂ := by exact_mod_cast habove
  have hexponent : (2 : ℚ) ^ e₁ = 2 ^ k * 2 ^ e * 2 ^ e₂ := by
    have hsum : e₁ = k + e + e₂ := by omega
    rw [hsum, zpow_add₀ (by norm_num), zpow_add₀ (by norm_num), zpow_natCast]
  have hpos' : (0 : ℚ) < m₂ := by exact_mod_cast hpos
  have hquotient : (m₁ : ℚ) * 2 ^ e₁ / (m₂ * 2 ^ e₂) = m₁ * 2 ^ k * 2 ^ e / m₂ := by
    rw [hexponent]
    have := two_zpow_pos e₂
    field_simp
  have hunit := two_zpow_pos e
  rw [hquotient, le_div_iff₀ hpos', div_lt_iff₀ hpos']
  constructor
  · linarith [mul_le_mul_of_nonneg_right hbelow' hunit.le]
  · linarith [mul_lt_mul_of_pos_right habove' hunit]

/-- The quotient of two numbers. -/
theorem Is.div (hx : Is x a) (hy : Is y b) (hleast : 2 ^ (-1074 : Int) ≤ a / b)
    (hlargest : a / b < largest) :
    ∃ q, Is (x / y) q ∧ |q - a / b| ≤ max (a / b / 2 ^ 52) (2 ^ (-1074 : Int)) := by
  obtain ⟨m₁, e₁, h₁, hx, rfl⟩ := hx
  obtain ⟨m₂, e₂, h₂, hy, rfl⟩ := hy
  let target : Int := max (totalExponent m₁ e₁ - totalExponent m₂ e₂ - 53) (-1074)
  let e : Int := min (e₁ - e₂) target
  let k : Nat := (e₁ - e₂ - e).toNat
  have hquotient : x / y = .ofModel (.pack (roundWithAccuracy Format.binary64 .positive
      (m₁ <<< k / m₂) e (accuracyOfFraction (m₁ <<< k % m₂) m₂))) := by
    rw [div_eq, hx, hy]
    rfl
  obtain ⟨hbelow, habove⟩ := quotient_bounds m₁ e₁ e₂ e h₂.pos (show _ = (k : Int) by omega)
  have hbits : e ≤ max (((m₁ <<< k / m₂).log2 : Int) + e - 52) (-1074) := by
    by_cases hlow : e ≤ -1074
    · omega
    · -- the shift has made the first mantissa so wide that the quotient is full
      have htotal : e ≤ m₁.log2 + e₁ - m₂.log2 - e₂ - 53 := by
        simp only [e, target, totalExponent] at hlow ⊢
        omega
      have hwide : 2 ^ m₁.log2 ≤ m₁ := Nat.log2_self_le (by have := h₁.pos; omega)
      have hnarrow : m₂ < 2 ^ (m₂.log2 + 1) := Nat.lt_log2_self
      have hpow : 2 ^ (52 + (m₂.log2 + 1)) ≤ 2 ^ (m₁.log2 + k) :=
        Nat.pow_le_pow_right (by omega) (by omega)
      have hfull : 2 ^ 52 ≤ m₁ <<< k / m₂ := by
        rw [Nat.le_div_iff_mul_le h₂.pos, Nat.shiftLeft_eq]
        calc 2 ^ 52 * m₂ ≤ 2 ^ 52 * 2 ^ (m₂.log2 + 1) := Nat.mul_le_mul_left _ hnarrow.le
          _ = 2 ^ (52 + (m₂.log2 + 1)) := (Nat.pow_add _ _ _).symm
          _ ≤ 2 ^ (m₁.log2 + k) := hpow
          _ = 2 ^ m₁.log2 * 2 ^ k := Nat.pow_add _ _ _
          _ ≤ m₁ * 2 ^ k := Nat.mul_le_mul_right _ hwide
      have hlog : 52 ≤ (m₁ <<< k / m₂).log2 := (Nat.le_log2 (by omega)).mpr hfull
      omega
  obtain ⟨q, hq, hclose⟩ := exists_rounded (accuracyOfFraction (m₁ <<< k % m₂) m₂) hbits hbelow
    habove hleast hlargest
  exact ⟨q, hquotient ▸ hq, hclose⟩

/-- The number nearest to a natural number. -/
theorem is_toFloat {n : Nat} (hpos : 0 < n) (hword : n < 2 ^ 64) :
    ∃ q, Is (UInt64.ofNat n).toFloat q ∧ |q - n| ≤ n / 2 ^ 52 := by
  let k : Nat := (0 - max ((n.log2 : Int) + 0 - 52) (-1074)).toNat
  have hnat : (UInt64.ofNat n).toNat = n := UInt64.toNat_ofNat_of_lt' hword
  have hcompare : compare (n : Int) 0 = .gt := Int.compare_eq_gt.mpr (by omega)
  have hfloat : (UInt64.ofNat n).toFloat = .ofModel (.pack (roundWithAccuracy Format.binary64
      .positive (n <<< k) (0 - k) .exact)) := by
    have hround : (UInt64.ofNat n).toFloat = .ofModel (.pack
        (UnpackedFloat.normalize Format.binary64 (UInt64.ofNat n).toNat 0 .positive)) := rfl
    rw [hround, hnat, UnpackedFloat.normalize, hcompare]
    simp only [UnpackedFloat.round, targetExponent_eq, decreaseExponent, Int.toNat_natCast]
    rfl
  have hshift : n <<< k = n * 2 ^ k := Nat.shiftLeft_eq n k
  have hvalue : ((n <<< k : Nat) : ℚ) * 2 ^ (0 - k : Int) = n := by
    rw [hshift, zpow_sub₀ (by norm_num), zpow_natCast]
    push_cast
    field_simp
  have hlog : n.log2 + k ≤ (n <<< k).log2 := by
    have hself := Nat.log2_self_le (show n ≠ 0 by omega)
    rw [hshift, Nat.le_log2 (by have := Nat.two_pow_pos k; positivity), Nat.pow_add]
    exact Nat.mul_le_mul_right _ hself
  have hone : (1 : ℚ) ≤ n := by exact_mod_cast hpos
  rw [hfloat]
  exact exists_rounded_exact (by omega) hvalue (by linarith)
    (lt_largest_of_le (n := 20) (by norm_num) (by exact_mod_cast hword.le.trans (by norm_num)))

/-- The parts are those of a positive number. -/
def Stored : UnpackedFloat → Prop
  | .finite .positive m e _ =>
    m < 2 ^ 53 ∧ -1074 ≤ e ∧ e ≤ 971 ∧ (2 ^ 52 ≤ m ∨ e = -1074)
  | _ => False

instance : (parts : UnpackedFloat) → Decidable (Stored parts)
  | .finite .positive m e _ => inferInstanceAs (Decidable
    (m < 2 ^ 53 ∧ -1074 ≤ e ∧ e ≤ 971 ∧ (2 ^ 52 ≤ m ∨ e = -1074)))
  | .finite .negative _ _ _ | .zero _ | .infinity _ | .notANumber => .isFalse id

/-- The parts have the value of a natural number. -/
def Equals (n : Nat) : UnpackedFloat → Prop
  | .finite _ m e _ => m * 2 ^ e.toNat = n * 2 ^ (-e).toNat
  | _ => False

instance (n : Nat) : (parts : UnpackedFloat) → Decidable (Equals n parts)
  | .finite _ m e _ => inferInstanceAs (Decidable (m * 2 ^ e.toNat = n * 2 ^ (-e).toNat))
  | .zero _ | .infinity _ | .notANumber => .isFalse id

theorem exists_is (h : Stored x.toModel.unpack) : ∃ q, Is x q := by
  generalize hparts : x.toModel.unpack = parts at h
  match parts, h with
  | .finite .positive m e hpos, ⟨hlt, hlow, hhigh, hfull⟩ =>
    exact ⟨_, m, e, ⟨hpos, hlt, hlow, hhigh, hfull⟩, hparts, rfl⟩

theorem Is.eq_of_equals {n : Nat} (h : Is x a) (hequals : Equals n x.toModel.unpack) : a = n := by
  obtain ⟨m, e, hcanonical, hparts, rfl⟩ := h
  rw [hparts] at hequals
  have hvalue : (m : ℚ) * 2 ^ e.toNat = n * 2 ^ (-e).toNat := by exact_mod_cast hequals
  have hexponent : (2 : ℚ) ^ e * 2 ^ (-e).toNat = 2 ^ e.toNat := by
    rw [← zpow_natCast, ← zpow_natCast, ← zpow_add₀ (by norm_num)]
    congr 1
    omega
  have hpow : (0 : ℚ) < 2 ^ (-e).toNat := by positivity
  refine mul_right_cancel₀ hpow.ne' ?_
  rw [mul_assoc, hexponent, hvalue]

/-- The smaller powers of ten are stored as they are. -/
theorem stored_powerOfTen : ∀ n < 23, Stored (Json.powerOfTen n).toModel.unpack ∧
    Equals (10 ^ n) (Json.powerOfTen n).toModel.unpack := by
  decide +kernel

/-- The larger powers of ten are rounded once. -/
theorem powerOfTen_eq {n : Nat} (hn : 22 < n) (hn' : n ≤ 308) :
    Json.powerOfTen n = .ofModel (.pack (roundWithAccuracy Format.binary64
      .positive ((1 <<< 53) * 10 ^ n) (-53 + 0) .exact)) := by
  have hfloat : Json.powerOfTen n = .ofModel (Float.Model.ofScientific 1 n) := by
    rw [Json.powerOfTen, Float.ofScientific, dif_neg (by omega)]
    rfl
  rw [hfloat, Float.Model.ofScientific, UnpackedFloat.ofScientific, dif_neg (by norm_num),
    if_neg (by norm_num; omega), if_neg (by norm_num; omega), if_pos (by omega)]
  rfl

theorem is_powerOfTen {n : Nat} (hn : n ≤ 308) :
    ∃ q, Is (Json.powerOfTen n) q ∧ |q - 10 ^ n| ≤ 10 ^ n / 2 ^ 52 := by
  by_cases hstored : n < 23
  · obtain ⟨hparts, hequals⟩ := stored_powerOfTen n hstored
    obtain ⟨q, hq⟩ := exists_is hparts
    refine ⟨q, hq, ?_⟩
    rw [hq.eq_of_equals hequals, Nat.cast_pow, Nat.cast_ofNat, sub_self, abs_zero]
    positivity
  · have hvalue : (((1 <<< 53) * 10 ^ n : Nat) : ℚ) * 2 ^ (-53 + 0 : Int) = (10 ^ n : Nat) := by
      rw [Nat.shiftLeft_eq]
      push_cast
      norm_num
      ring
    have hone : 1 ≤ 10 ^ n := Nat.one_le_pow _ _ (by norm_num)
    have hone' : (1 : ℚ) ≤ (10 ^ n : Nat) := by exact_mod_cast hone
    have hlog : 53 ≤ ((1 <<< 53) * 10 ^ n).log2 := by
      rw [Nat.shiftLeft_eq, Nat.one_mul, Nat.le_log2 (by positivity)]
      exact Nat.le_mul_of_pos_right _ hone
    obtain ⟨q, hq, hclose⟩ := exists_rounded_exact (by omega) hvalue (by linarith)
      (lt_largest_of_le hn (Nat.cast_pow 10 n).le)
    push_cast at hclose
    exact ⟨q, powerOfTen_eq (by omega) hn ▸ hq, hclose⟩

theorem Is.isInf (h : Is x a) : x.isInf = false := by
  obtain ⟨m, e, hcanonical, hparts, -⟩ := h
  have hinf : x.isInf = x.toModel.unpack.isInf := rfl
  rw [hinf, hparts]
  rfl

theorem unpack_zero : (0.0 : Float).toModel.unpack = .zero .positive := by rfl

/-- Equal to zero are the zeros of both signs. -/
theorem beq_zero_iff : (x == 0.0) = true ↔ x = 0.0 ∨ x = -0.0 := by
  have hzero : (0.0 : Float) = 0 := rfl
  have hpos : (0 : Float) ≠ Float.nan := Float.beq_self_iff.mp (by decide)
  have hneg : (-0 : Float) ≠ Float.nan := Float.beq_self_iff.mp (by decide)
  rw [Float.beq_iff_ne_nan_and_eq, hzero]
  constructor
  · rintro ⟨-, -, rfl | ⟨rfl, -⟩ | ⟨rfl, -⟩⟩
    · exact .inl rfl
    · exact .inl rfl
    · exact .inr rfl
  · rintro (rfl | rfl)
    · exact ⟨hpos, hpos, .inl rfl⟩
    · exact ⟨hneg, hpos, .inr (.inr ⟨rfl, rfl⟩)⟩

theorem Is.ne_zero (h : Is x a) : (x != 0.0) = true := by
  obtain ⟨m, e, hcanonical, hparts, -⟩ := h
  have hbeq : (x == 0.0) = UnpackedFloat.beq x.toModel.unpack (0.0 : Float).toModel.unpack := rfl
  rw [bne, hbeq, hparts, unpack_zero]
  rfl

theorem Is.neg_ne_zero (h : Is x a) : (-x != 0.0) = true := by
  obtain ⟨m, e, hcanonical, hparts, -⟩ := h
  have hbeq : (-x == 0.0) = UnpackedFloat.beq
      (Float.Model.pack x.toModel.unpack.neg).unpack (0.0 : Float).toModel.unpack := rfl
  have hneg : UnpackedFloat.neg (.finite .positive m e hcanonical.pos)
      = .finite .negative m e hcanonical.pos := rfl
  rw [bne, hbeq, hparts, hneg, unpack_pack .negative hcanonical, unpack_zero]
  rfl

end Operations

end PagePilot.Binary64
