import PagePilot.Proofs.Decimal.Shortest

/-!
# Reading the digits of floating-point numbers

The digits of a floating-point number that is not zero are scaled to a number that is not zero and
not too large, although this rounds twice or even three times.

## Main definitions

- `Json.Close` - one number is so close to another one that a few roundings do no harm
- `Json.Readable` - digits that are neither too many nor too small nor too large

## Main statements

- `Json.exists_is_scale?` - digits that are far from both ends stand for a number
- `Json.Readable.exists_is_scale?` - digits stand for a number up to the largest one
- `Json.exists_is_scale?_shortest` - so do the fewest digits of any number
-/

namespace PagePilot.Json

open Binary64 (Is Stored Canonical largest two_zpow_pos)
open Decimal (Magnitude Digits)
open Decimal.Magnitude (ten_zpow_pos)

section Scaling

variable {a b A B : ℚ}

/-- One number is close to another one. -/
def Close (a A : ℚ) : Prop := |a - A| ≤ A / 2 ^ 50

theorem Close.of_rounded (h : |a - A| ≤ A / 2 ^ 52) : Close a A := by
  have hpos : 0 ≤ A / 2 ^ 52 := (abs_nonneg _).trans h
  refine h.trans ?_
  have hA : 0 ≤ A := by
    by_contra! hneg
    have : A / 2 ^ 52 < 0 := div_neg_of_neg_of_pos hneg (by norm_num)
    linarith
  exact div_le_div_of_nonneg_left hA (by norm_num) (by norm_num)

theorem Close.bounds (h : Close a A) : A * (1 - 1 / 2 ^ 50) ≤ a ∧ a ≤ A * (1 + 1 / 2 ^ 50) := by
  obtain ⟨hlow, hhigh⟩ := abs_le.mp h
  constructor <;> linarith

theorem Close.mul_le (ha : Close a A) (hb : Close b B) (hA : 0 < A) (hB : 0 < B) :
    a * b ≤ A * B * (1 + 1 / 2 ^ 48) := by
  obtain ⟨halow, hahigh⟩ := ha.bounds
  obtain ⟨hblow, hbhigh⟩ := hb.bounds
  have hbpos : 0 ≤ b := le_trans (by nlinarith) hblow
  calc a * b ≤ A * (1 + 1 / 2 ^ 50) * (B * (1 + 1 / 2 ^ 50)) :=
        mul_le_mul hahigh hbhigh hbpos (by positivity)
    _ = A * B * ((1 + 1 / 2 ^ 50) * (1 + 1 / 2 ^ 50)) := by ring
    _ ≤ A * B * (1 + 1 / 2 ^ 48) := by
        refine mul_le_mul_of_nonneg_left ?_ (by positivity)
        norm_num

theorem Close.le_div (ha : Close a A) (hb : Close b B) (hA : 0 < A) (hB : 0 < B) :
    A / B * (1 - 1 / 2 ^ 48) ≤ a / b := by
  obtain ⟨halow, hahigh⟩ := ha.bounds
  obtain ⟨hblow, hbhigh⟩ := hb.bounds
  have hbpos : 0 < b := lt_of_lt_of_le (by nlinarith) hblow
  rw [le_div_iff₀ hbpos]
  calc A / B * (1 - 1 / 2 ^ 48) * b ≤ A / B * (1 - 1 / 2 ^ 48) * (B * (1 + 1 / 2 ^ 50)) :=
        mul_le_mul_of_nonneg_left hbhigh (by positivity)
    _ = A * ((1 - 1 / 2 ^ 48) * (1 + 1 / 2 ^ 50)) := by field_simp
    _ ≤ A * (1 - 1 / 2 ^ 50) := by
        refine mul_le_mul_of_nonneg_left ?_ hA.le
        norm_num
    _ ≤ a := halow

theorem Close.div_le (ha : Close a A) (hb : Close b B) (hA : 0 < A) (hB : 0 < B) :
    a / b ≤ A / B * 4 := by
  obtain ⟨halow, hahigh⟩ := ha.bounds
  obtain ⟨hblow, hbhigh⟩ := hb.bounds
  have hbpos : 0 < b := lt_of_lt_of_le (by nlinarith) hblow
  rw [div_le_iff₀ hbpos]
  calc a ≤ 2 * A := by linarith
    _ = A / B * 4 * (B / 2) := by field_simp; norm_num
    _ ≤ A / B * 4 * b := by
        refine mul_le_mul_of_nonneg_left ?_ (by positivity)
        linarith

theorem exists_close_toFloat {n : Nat} (hpos : 0 < n) (hword : n < 2 ^ 64) :
    ∃ a, Is (UInt64.ofNat n).toFloat a ∧ Close a n := by
  obtain ⟨a, ha, hclose⟩ := Binary64.is_toFloat hpos hword
  exact ⟨a, ha, .of_rounded hclose⟩

theorem exists_close_powerOfTen {n : Nat} (hn : n ≤ 308) :
    ∃ a, Is (powerOfTen n) a ∧ Close a (10 ^ n) := by
  obtain ⟨a, ha, hclose⟩ := Binary64.is_powerOfTen hn
  exact ⟨a, ha, .of_rounded hclose⟩

theorem Close.half_le (h : Close a A) (hA : 1 ≤ A) : 1 / 2 ≤ a := by
  obtain ⟨hlow, -⟩ := h.bounds
  linarith

theorem ten_pow_pos (n : Nat) : (0 : ℚ) < 10 ^ n := by positivity

theorem one_le_ten_pow (n : Nat) : (1 : ℚ) ≤ 10 ^ n := one_le_pow₀ (by norm_num)

/-- How powers of ten compare with powers of two next to the least and the largest number. -/
theorem powers_next_to_ends :
    2 ^ 98 * 10 ^ 308 ≤ (2 ^ 48 - 1) * 2 ^ 1074 ∧ 2 ^ 64 * 2 ^ 1074 ≤ 10 ^ 617 ∧
    2 ^ 1074 ≤ 10 ^ 324 ∧ (2 ^ 7 + 1) * 10 ^ 324 ≤ 5 * 2 ^ 7 * 2 ^ 1074 ∧
    (2 ^ 54 - 3) * 2 ^ 971 ≤ 2 * 17976931348623157 * 10 ^ 292 ∧
    17976931348623092 * 10 ^ 292 * (2 ^ 48 + 1) < (2 ^ 53 - 1) * 2 ^ 971 * 2 ^ 48 := by
  decide +kernel

theorem least_eq : (2 : ℚ) ^ (-1074 : Int) = 1 / 2 ^ 1074 := by
  rw [zpow_neg, show (1074 : Int) = (1074 : Nat) from rfl, zpow_natCast, one_div]

/-- The first of two quotients is far above the least number. -/
theorem least_le : (2 : ℚ) ^ (-1074 : Int) * 2 ^ 50 ≤ 1 / 10 ^ 308 * (1 - 1 / 2 ^ 48) := by
  have hpow : (2 : ℚ) ^ 98 * 10 ^ 308 ≤ (2 ^ 48 - 1 : Nat) * 2 ^ 1074 := by
    exact_mod_cast powers_next_to_ends.1
  have hten := ten_pow_pos 308
  have htwo : (0 : ℚ) < 2 ^ 1074 := by positivity
  rw [least_eq]
  generalize (10 : ℚ) ^ 308 = ten at *
  generalize (2 : ℚ) ^ 1074 = two at *
  rw [div_mul_eq_mul_div, div_mul_eq_mul_div, div_le_div_iff₀ htwo hten]
  norm_num at hpow ⊢
  linarith

theorem mul_ten_zpow_neg (n : Nat) : A * 10 ^ (-n : Int) = A / 10 ^ n := by
  rw [zpow_neg, zpow_natCast, div_eq_mul_inv]

/-- The quotient by a power of ten, of a number that is close to another one. -/
theorem exists_is_div {x : Float} {n : Nat} (hx : Is x a) (ha : Close a A) (hA : 0 < A)
    (hn : n ≤ 308) (hleast : 2 ^ (-1074 : Int) ≤ A / 10 ^ n * (1 - 1 / 2 ^ 48))
    (hword : A ≤ 4 * 2 ^ 64) : ∃ b q, Is (x / powerOfTen n) q ∧ A / 10 ^ n * (1 - 1 / 2 ^ 48) ≤ b ∧
      b ≤ A / 10 ^ n * 4 ∧ |q - b| ≤ max (b / 2 ^ 52) (2 ^ (-1074 : Int)) := by
  obtain ⟨p, hp, hclose⟩ := exists_close_powerOfTen hn
  have hlow := ha.le_div hclose hA (ten_pow_pos n)
  have hhigh := ha.div_le hclose hA (ten_pow_pos n)
  have hlargest : a / p < largest := by
    have hdiv : A / 10 ^ n ≤ A := div_le_self hA.le (one_le_ten_pow n)
    refine Binary64.lt_largest_of_le (n := 21) (by norm_num) ?_
    linarith only [hdiv, hhigh, hword]
  obtain ⟨q, hq, hround⟩ := hx.div hp (hleast.trans hlow) hlargest
  exact ⟨a / p, q, hq, hlow, hhigh, hround⟩

variable {c n : Nat} {s : Int}

/-- The power of ten of a number that is not too large. -/
theorem scale_le_of_lt_largest (hpos : 0 < c) (h : c * (10 : ℚ) ^ s < largest) : s ≤ 308 := by
  by_contra! hhuge
  have hone : (1 : ℚ) ≤ c := by exact_mod_cast hpos
  have hten : (10 : ℚ) ^ 309 ≤ 10 ^ s := by
    rw [← zpow_natCast]
    exact zpow_le_zpow_right₀ (by norm_num) (by omega)
  have hvalue : (10 : ℚ) ^ s ≤ c * 10 ^ s := le_mul_of_one_le_left (ten_zpow_pos s).le hone
  exact absurd h (not_lt.mpr (Binary64.largest_bounds.2.trans (hten.trans hvalue)))

/-- The power of ten of a number that is not too small. -/
theorem le_scale_of_least_le (hword : c < 2 ^ 64) (h : 2 ^ (-1074 : Int) ≤ c * (10 : ℚ) ^ s) :
    -616 ≤ s := by
  by_contra! htiny
  have hword' : (c : ℚ) < 2 ^ 64 := by exact_mod_cast hword
  have hten : (10 : ℚ) ^ s ≤ 10 ^ (-617 : Int) := zpow_le_zpow_right₀ (by norm_num) (by omega)
  have hend : (2 : ℚ) ^ 64 * 10 ^ (-617 : Int) ≤ 2 ^ (-1074 : Int) := by
    have hdiv : (2 : ℚ) ^ 64 * 10 ^ (-617 : Int) = 2 ^ 64 / 10 ^ 617 := mul_ten_zpow_neg 617
    rw [hdiv, least_eq, div_le_div_iff₀ (by positivity) (by positivity), one_mul]
    exact_mod_cast powers_next_to_ends.2.1
  refine absurd h (not_le.mpr ?_)
  calc (c : ℚ) * 10 ^ s ≤ c * 10 ^ (-617 : Int) :=
        mul_le_mul_of_nonneg_left hten (Nat.cast_nonneg c)
    _ < 2 ^ 64 * 10 ^ (-617 : Int) := mul_lt_mul_of_pos_right hword' (ten_zpow_pos _)
    _ ≤ 2 ^ (-1074 : Int) := hend

/-- A whole number is a product. -/
theorem exists_is_scale?_product (hpos : 0 < c) (hword : c < 2 ^ 64) (hn : n ≤ 308)
    (hlargest : c * (10 : ℚ) ^ n * (1 + 1 / 2 ^ 48) < largest) :
    ∃ x q, scale? c n = some x ∧ Is x q := by
  obtain ⟨a, ha, hclose⟩ := exists_close_toFloat hpos hword
  obtain ⟨b, hb, hclose'⟩ := exists_close_powerOfTen hn
  have hone : (1 : ℚ) ≤ c := by exact_mod_cast hpos
  have hproduct := hclose.mul_le hclose' (by linarith) (ten_pow_pos n)
  obtain ⟨q, hq, -⟩ := ha.mul hb (hclose.half_le hone) (hclose'.half_le (one_le_ten_pow n))
    (hproduct.trans_lt hlargest)
  refine ⟨_, q, ?_, hq⟩
  have hhuge : ¬ (n : Int) > 308 := by omega
  simp only [scale?, if_neg hhuge, if_pos (Int.natCast_nonneg n), Int.toNat_natCast, hq.isInf]
  rfl

/-- A fraction is a quotient. -/
theorem exists_is_scale?_quotient (hpos : 0 < c) (hword : c < 2 ^ 64) (hn : n ≤ 308) (hn' : 0 < n)
    (hleast : 2 ^ (-1074 : Int) ≤ (c : ℚ) / 10 ^ n * (1 - 1 / 2 ^ 48)) :
    ∃ x q, scale? c (-n) = some x ∧ Is x q := by
  obtain ⟨a, ha, hclose⟩ := exists_close_toFloat hpos hword
  have hpos' : (0 : ℚ) < c := by exact_mod_cast hpos
  have hword' : (c : ℚ) ≤ 2 ^ 64 := by exact_mod_cast hword.le
  obtain ⟨-, q, hq, -⟩ := exists_is_div ha hclose hpos' hn hleast (by linarith)
  refine ⟨_, q, ?_, hq⟩
  have hhuge : ¬ -(n : Int) > 308 := by omega
  have hwhole : ¬ 0 ≤ -(n : Int) := by omega
  have hsmall : -308 ≤ -(n : Int) := by omega
  simp only [scale?, if_neg hhuge, if_neg hwhole, if_pos hsmall, neg_neg, Int.toNat_natCast]

/-- A very small fraction is a quotient of a quotient. -/
theorem exists_is_scale?_quotients (hpos : 0 < c) (hword : c < 2 ^ 64) (hn : n ≤ 308) (hn' : 0 < n)
    (hleast : 2 ^ (-1074 : Int) * (1 + 1 / 2 ^ 7) ≤ (c : ℚ) / 10 ^ 308 / 10 ^ n) :
    ∃ x q, scale? c (-(308 + n : Nat)) = some x ∧ Is x q := by
  obtain ⟨a, ha, hclose⟩ := exists_close_toFloat hpos hword
  have hone : (1 : ℚ) ≤ c := by exact_mod_cast hpos
  have hpos' : (0 : ℚ) < c := by linarith
  have hword' : (c : ℚ) ≤ 2 ^ 64 := by exact_mod_cast hword.le
  have hunit := two_zpow_pos (-1074)
  -- the first quotient is so far above the least number that it is relatively close
  have hfar : (2 : ℚ) ^ (-1074 : Int) * 2 ^ 50 ≤ c / 10 ^ 308 * (1 - 1 / 2 ^ 48) := by
    refine least_le.trans (mul_le_mul_of_nonneg_right ?_ (by norm_num))
    exact div_le_div_of_nonneg_right hone (ten_pow_pos 308).le
  have hten : (c : ℚ) / 10 ^ 308 ≤ c := div_le_self hpos'.le (one_le_ten_pow 308)
  obtain ⟨b, q, hq, hlow, hhigh, hround⟩ := exists_is_div ha hclose hpos' (le_refl 308)
    ((le_mul_of_one_le_right hunit.le (by norm_num)).trans hfar) (by linarith only [hword'])
  have hpos'' : 0 < b := (mul_pos hunit (by norm_num)).trans_le (hfar.trans hlow)
  have hclose' : Close q b := by
    refine hround.trans (max_le ?_ ?_)
    · exact div_le_div_of_nonneg_left hpos''.le (by norm_num) (by norm_num)
    · rw [le_div_iff₀ (by norm_num)]
      exact hfar.trans hlow
  have hleast' : (2 : ℚ) ^ (-1074 : Int) ≤ b / 10 ^ n * (1 - 1 / 2 ^ 48) := by
    have hdiv := div_le_div_of_nonneg_right hlow (ten_pow_pos n).le
    rw [mul_div_right_comm] at hdiv
    generalize (c : ℚ) / 10 ^ 308 / 10 ^ n = value at hleast hdiv
    generalize b / 10 ^ n = value' at hdiv ⊢
    linarith only [hleast, hdiv, hunit]
  have hword'' : b ≤ 4 * 2 ^ 64 := by
    generalize (c : ℚ) / 10 ^ 308 = first at hhigh hten
    linarith only [hhigh, hten, hword']
  obtain ⟨-, q', hq', -⟩ := exists_is_div hq hclose' hpos'' hn hleast' hword''
  refine ⟨_, q', ?_, hq'⟩
  have hhuge : ¬ -((308 + n : Nat) : Int) > 308 := by omega
  have hwhole : ¬ 0 ≤ -((308 + n : Nat) : Int) := by omega
  have hsmall : ¬ -308 ≤ -((308 + n : Nat) : Int) := by omega
  have htiny : -616 ≤ -((308 + n : Nat) : Int) := by omega
  have hrest : (-(-((308 + n : Nat) : Int)) - 308).toNat = n := by omega
  simp only [scale?, if_neg hhuge, if_neg hwhole, if_neg hsmall, if_pos htiny, hrest]

/-- Digits that are not too small and not too large stand for a number, although they are rounded
several times. -/
theorem exists_is_scale? (hpos : 0 < c) (hword : c < 2 ^ 64)
    (hleast : 2 ^ (-1074 : Int) * (1 + 1 / 2 ^ 7) ≤ c * (10 : ℚ) ^ s)
    (hlargest : c * (10 : ℚ) ^ s * (1 + 1 / 2 ^ 48) < largest) :
    ∃ x q, scale? c s = some x ∧ Is x q := by
  have hunit := two_zpow_pos (-1074)
  have hvalue : 0 < c * (10 : ℚ) ^ s := (mul_pos hunit (by norm_num)).trans_le hleast
  have hhuge : s ≤ 308 := scale_le_of_lt_largest hpos (by linarith)
  have htiny : -616 ≤ s := le_scale_of_least_le hword (by linarith)
  by_cases hwhole : 0 ≤ s
  · obtain ⟨n, rfl⟩ := Int.eq_ofNat_of_zero_le hwhole
    rw [zpow_natCast] at hlargest
    exact exists_is_scale?_product hpos hword (by omega) hlargest
  by_cases hsmall : -308 ≤ s
  · obtain ⟨n, rfl⟩ : ∃ n : Nat, s = -n := ⟨(-s).toNat, by omega⟩
    rw [mul_ten_zpow_neg] at hleast
    exact exists_is_scale?_quotient hpos hword (by omega) (by omega) (by linarith)
  · obtain ⟨n, rfl⟩ : ∃ n : Nat, s = -(308 + n : Nat) := ⟨(-s - 308).toNat, by omega⟩
    rw [mul_ten_zpow_neg, pow_add, ← div_div] at hleast
    exact exists_is_scale?_quotients hpos hword (by omega) (by omega) hleast

end Scaling

section Top

/-- The digits next to the largest number, in a window that ends with its own digits, are read one
by one. -/
theorem stored_top : ∀ k < 65, ∀ j < 17, (17976931348623093 + k) % 10 ^ j = 0 →
    Stored ((UInt64.ofNat ((17976931348623093 + k) / 10 ^ j)).toFloat
      * powerOfTen (292 + j)).toModel.unpack := by
  decide +kernel

theorem window_lt_largest :
    (17976931348623092 : ℚ) * 10 ^ (292 : Int) * (1 + 1 / 2 ^ 48) < largest := by
  have hrat : ((17976931348623092 * 10 ^ 292 * (2 ^ 48 + 1) : Nat) : ℚ)
      < ((2 ^ 53 - 1) * 2 ^ 971 * 2 ^ 48 : Nat) := Nat.cast_lt.mpr powers_next_to_ends.2.2.2.2.2
  rw [Nat.cast_mul _ (2 ^ 48), ← Binary64.largest_eq] at hrat
  simp only [Nat.cast_mul, Nat.cast_pow, Nat.cast_add, Nat.cast_ofNat, Nat.cast_one] at hrat
  rw [show (292 : Int) = (292 : Nat) from rfl, zpow_natCast]
  generalize (10 : ℚ) ^ 292 = unit at hrat ⊢
  linarith only [hrat]

/-- Digits that neither are too many nor stand for a number that is too small or exceeds the digits
of the largest one. -/
structure Readable (c : Nat) (s : Int) : Prop where
  pos : 0 < c
  short : c ≤ 10 ^ 17 + 1
  low : 2 ^ (-1074 : Int) * (1 + 1 / 2 ^ 7) ≤ c * (10 : ℚ) ^ s
  high : c * (10 : ℚ) ^ s ≤ 17976931348623157 * 10 ^ (292 : Int)

namespace Readable

variable {c : Nat} {s : Int}

/-- Digits that come close to the largest number are in the window. -/
theorem exists_window (h : Readable c s)
    (hwindow : 17976931348623092 * (10 : ℚ) ^ (292 : Int) < c * 10 ^ s) :
    ∃ j < 17, s = 292 + (j : Nat) ∧ 17976931348623092 < c * 10 ^ j ∧
      c * 10 ^ j ≤ 17976931348623157 := by
  have hunit := ten_zpow_pos 292
  have hlow : 292 ≤ s := by
    by_contra! hsmall
    have hscale : (10 : ℚ) ^ s * 10 ≤ 10 ^ (292 : Int) := by
      rw [← zpow_add_one₀ (by norm_num)]
      exact zpow_le_zpow_right₀ (by norm_num) (by omega)
    have hshort : (c : ℚ) ≤ 10 ^ 17 + 1 := by exact_mod_cast h.short
    have hvalue : (c : ℚ) * 10 ^ s ≤ (10 ^ 17 + 1) * 10 ^ s :=
      mul_le_mul_of_nonneg_right hshort (ten_zpow_pos s).le
    generalize (10 : ℚ) ^ s = step at hscale hvalue hwindow
    generalize (10 : ℚ) ^ (292 : Int) = unit at *
    linarith only [hscale, hvalue, hwindow, hunit]
  obtain ⟨j, rfl⟩ : ∃ j : Nat, s = 292 + j := ⟨(s - 292).toNat, by omega⟩
  have hpoint : (c : ℚ) * 10 ^ (292 + j : Int) = (c * 10 ^ j : Nat) * 10 ^ (292 : Int) := by
    rw [zpow_add₀ (by norm_num), zpow_natCast, Nat.cast_mul, Nat.cast_pow, Nat.cast_ofNat]
    ring
  have hmost := h.high
  rw [hpoint] at hmost hwindow
  have hmost' : c * 10 ^ j ≤ 17976931348623157 := by
    exact_mod_cast le_of_mul_le_mul_right hmost hunit
  have hwindow' : 17976931348623092 < c * 10 ^ j := by
    exact_mod_cast lt_of_mul_lt_mul_right hwindow hunit.le
  refine ⟨j, ?_, rfl, hwindow', hmost'⟩
  by_contra! hlarge
  have hpow : 10 ^ 17 ≤ 10 ^ j := Nat.pow_le_pow_right (by norm_num) hlarge
  have hle : 10 ^ j ≤ c * 10 ^ j := Nat.le_mul_of_pos_left _ h.pos
  omega

theorem exists_is_scale?_top (h : Readable c s)
    (hwindow : 17976931348623092 * (10 : ℚ) ^ (292 : Int) < c * 10 ^ s) :
    ∃ x q, scale? c s = some x ∧ Is x q := by
  obtain ⟨j, hj, rfl, hlow, hhigh⟩ := h.exists_window hwindow
  have hstored := stored_top (c * 10 ^ j - 17976931348623093) (by omega) j hj
  rw [Nat.add_sub_cancel' hlow, Nat.mul_mod_left, Nat.mul_div_cancel _ (by positivity)] at hstored
  obtain ⟨q, hq⟩ := Binary64.exists_is (hstored rfl)
  refine ⟨_, q, ?_, hq⟩
  have hhuge : ¬ 292 + (j : Int) > 308 := by omega
  have hwhole : 0 ≤ 292 + (j : Int) := by omega
  have hplaces : (292 + (j : Int)).toNat = 292 + j := by omega
  simp only [scale?, if_neg hhuge, if_pos hwhole, hplaces, hq.isInf]
  rfl

theorem exists_is_scale? (h : Readable c s) : ∃ x q, scale? c s = some x ∧ Is x q := by
  by_cases hlargest : largest ≤ c * (10 : ℚ) ^ s * (1 + 1 / 2 ^ 48)
  · refine h.exists_is_scale?_top ?_
    exact lt_of_mul_lt_mul_right (window_lt_largest.trans_le hlargest) (by norm_num)
  · have hshort := h.short
    exact Json.exists_is_scale? h.pos (by omega) h.low (not_le.mp hlargest)

/-- Zeros at the end make no difference. -/
theorem ofScaled (h : Readable c s) :
    Readable (Digits.ofScaled c s).coefficient (Digits.ofScaled c s).scale := by
  obtain ⟨-, hle, hvalue⟩ := Digits.ofScaled_spec h.pos s
  have hleast := h.low
  have hmost := h.high
  rw [← hvalue] at hleast hmost
  refine ⟨?_, hle.trans h.short, hleast, hmost⟩
  by_contra! hzero
  rw [Nat.le_zero.mp hzero, Nat.cast_zero, zero_mul] at hleast
  exact absurd hleast (not_le.mpr (mul_pos (two_zpow_pos _) (by norm_num)))

/-- The digits of the largest number. -/
theorem of_largest : Readable 17976931348623157 292 := by
  refine ⟨by decide, by decide, ?_, le_refl _⟩
  have hone : (2 : ℚ) ^ (-1074 : Int) ≤ 1 := zpow_le_one_of_nonpos₀ (by norm_num) (by norm_num)
  have hten : (1 : ℚ) ≤ 10 ^ (292 : Int) := one_le_zpow₀ (by norm_num) (by norm_num)
  rw [Nat.cast_ofNat]
  generalize (2 : ℚ) ^ (-1074 : Int) = least at *
  generalize (10 : ℚ) ^ (292 : Int) = unit at *
  linarith only [hone, hten]

/-- The digit of the least number. -/
theorem of_least : Readable 5 (-324) := by
  refine ⟨by decide, by decide, ?_, ?_⟩
  · have hnat : (2 ^ 7 + 1) * (10 : ℚ) ^ 324 ≤ 5 * 2 ^ 7 * 2 ^ 1074 := by
      exact_mod_cast powers_next_to_ends.2.2.2.1
    have hscale : ((5 : Nat) : ℚ) * 10 ^ (-324 : Int) = 5 / 10 ^ 324 := mul_ten_zpow_neg 324
    have htwo : (0 : ℚ) < 2 ^ 1074 := by positivity
    have hten := ten_pow_pos 324
    rw [hscale, least_eq]
    generalize (2 : ℚ) ^ 1074 = two at *
    generalize (10 : ℚ) ^ 324 = ten at *
    rw [one_div_mul_eq_div, div_le_div_iff₀ htwo hten]
    norm_num at hnat ⊢
    linarith only [hnat]
  · have hsmall : (10 : ℚ) ^ (-324 : Int) ≤ 1 := zpow_le_one_of_nonpos₀ (by norm_num) (by norm_num)
    have hten : (1 : ℚ) ≤ 10 ^ (292 : Int) := one_le_zpow₀ (by norm_num) (by norm_num)
    rw [Nat.cast_ofNat]
    generalize (10 : ℚ) ^ (292 : Int) = unit at *
    generalize (10 : ℚ) ^ (-324 : Int) = unit at *
    linarith only [hsmall, hten]

end Readable

/-- The fewest digits of the largest and of the least number. -/
theorem shortest_ends :
    (Magnitude.mk (2 ^ 53 - 1) 971).shortest .toEven = .ofScaled 17976931348623157 292 ∧
      (Magnitude.mk 1 (-1074)).shortest .toEven = .ofScaled 5 (-324) := by
  decide +kernel

/-- What rounds to a number is not larger than the digits of the largest number. -/
theorem shortest_le {v : Magnitude} (h : Canonical v.mantissa v.exponent)
    (hlargest : v ≠ ⟨2 ^ 53 - 1, 971⟩) :
    v.value + 2 ^ v.exponent / 2 ≤ 17976931348623157 * 10 ^ (292 : Int) := by
  obtain ⟨m, e⟩ := v
  obtain ⟨hpos, hlt, hlow, hhigh, hfull⟩ := h
  simp only [Magnitude.value] at *
  have hunit := two_zpow_pos 971
  have hend : (m : ℚ) * 2 ^ e + 2 ^ e / 2 ≤ (2 ^ 53 - 3 / 2) * 2 ^ (971 : Int) := by
    by_cases htop : e = 971
    · subst htop
      have hne : m ≠ 2 ^ 53 - 1 := fun heq => hlargest (by rw [heq])
      have hm : m ≤ 2 ^ 53 - 2 := by omega
      have hm' : (m : ℚ) ≤ 2 ^ 53 - 2 := by
        have hcast : (m : ℚ) ≤ (2 ^ 53 - 2 : Nat) := Nat.cast_le.mpr hm
        norm_num at hcast ⊢
        exact hcast
      generalize (2 : ℚ) ^ (971 : Int) = unit at hunit ⊢
      nlinarith only [hm', hunit]
    · have hstep : (2 : ℚ) ^ e * 2 ≤ 2 ^ (971 : Int) := by
        rw [← zpow_add_one₀ two_ne_zero]
        exact zpow_le_zpow_right₀ (by norm_num) (by omega)
      have hm : (m : ℚ) ≤ 2 ^ 53 := by exact_mod_cast hlt.le
      have hvalue := mul_le_mul_of_nonneg_right hm (two_zpow_pos e).le
      generalize (2 : ℚ) ^ (971 : Int) = unit at hunit hstep ⊢
      generalize (2 : ℚ) ^ e = step at hvalue hstep ⊢
      linarith only [hvalue, hstep, hunit]
  have hnat : (2 ^ 54 - 3 : Nat) * (2 : ℚ) ^ 971 ≤ 2 * 17976931348623157 * 10 ^ 292 := by
    exact_mod_cast powers_next_to_ends.2.2.2.2.1
  rw [show (971 : Int) = (971 : Nat) from rfl, zpow_natCast] at hend
  rw [show (292 : Int) = (292 : Nat) from rfl, zpow_natCast]
  generalize (2 : ℚ) ^ 971 = unit at *
  generalize (10 : ℚ) ^ 292 = unit' at *
  norm_num at hnat
  linarith only [hend, hnat]

/-- What rounds to a number is larger than the least number by more than a bit. -/
theorem le_shortest {v : Magnitude} (h : Canonical v.mantissa v.exponent)
    (hleast : v ≠ ⟨1, -1074⟩) :
    2 ^ (-1074 : Int) * (1 + 1 / 2 ^ 7) ≤ v.value - v.reach := by
  obtain ⟨m, e⟩ := v
  obtain ⟨hpos, hlt, hlow, hhigh, hfull⟩ := h
  simp only [Magnitude.value] at *
  have htwo : 2 ≤ m := by
    by_contra! hone
    have hm : m = 1 := by omega
    have he : e = -1074 := by omega
    exact hleast (by rw [hm, he])
  have htwo' : (2 : ℚ) ≤ m := by exact_mod_cast htwo
  have hunit : (2 : ℚ) ^ (-1074 : Int) ≤ 2 ^ e := zpow_le_zpow_right₀ (by norm_num) hlow
  have hpos := two_zpow_pos e
  have hreach : Magnitude.reach ⟨m, e⟩ ≤ 2 ^ e / 2 := by
    rw [Magnitude.reach]
    split
    · linarith
    · exact le_refl _
  have hvalue := mul_le_mul_of_nonneg_right htwo' hpos.le
  generalize (2 : ℚ) ^ (-1074 : Int) = least at *
  linarith

/-- The fewest digits of a number are neither too many nor too small nor too large to be read. -/
theorem exists_readable_shortest {v : Magnitude} (h : Canonical v.mantissa v.exponent) :
    ∃ c s, v.shortest .toEven = .ofScaled c s ∧ Readable c s := by
  by_cases hlargest : v = ⟨2 ^ 53 - 1, 971⟩
  · exact ⟨_, _, hlargest ▸ shortest_ends.1, .of_largest⟩
  by_cases hleast : v = ⟨1, -1074⟩
  · exact ⟨_, _, hleast ▸ shortest_ends.2, .of_least⟩
  obtain ⟨c, s, hshortest, hpos, hshort, hclose, hclose'⟩ := v.shortest_eq h .toEven
  exact ⟨c, s, hshortest, hpos, hshort, (le_shortest h hleast).trans hclose,
    hclose'.trans (shortest_le h hlargest)⟩

/-- The fewest digits of a number stand for a number again. -/
theorem exists_is_scale?_shortest {v : Magnitude} (h : Canonical v.mantissa v.exponent) :
    ∃ x q, scale? (v.shortest .toEven).coefficient (v.shortest .toEven).scale = some x ∧
      Is x q := by
  obtain ⟨c, s, hshortest, hreadable⟩ := exists_readable_shortest h
  rw [hshortest]
  exact hreadable.ofScaled.exists_is_scale?

/-- The power of ten of the first digit of a number is never far out. -/
theorem shortest_exponent_le {v : Magnitude} (h : Canonical v.mantissa v.exponent) :
    (v.shortest .toEven).exponent.natAbs ≤ 400 := by
  obtain ⟨c, s, hshortest, hpos, -, hleast, hmost⟩ := exists_readable_shortest h
  obtain ⟨hlow, hhigh⟩ := Digits.ofScaled_exponent hpos s
  rw [hshortest]
  have hmost' : (10 : ℚ) ^ (Digits.ofScaled c s).exponent < 10 ^ (310 : Int) := by
    have hunit := ten_zpow_pos 292
    have hpow : (10 : ℚ) ^ (310 : Int) = 10 ^ (18 : Nat) * 10 ^ (292 : Int) := by
      rw [← zpow_natCast, ← zpow_add₀ (by norm_num)]
      rfl
    rw [hpow]
    generalize (10 : ℚ) ^ (292 : Int) = unit at *
    linarith only [hlow, hmost, hunit]
  have hleast' : (10 : ℚ) ^ (-324 : Int) < 10 ^ ((Digits.ofScaled c s).exponent + 1) := by
    have hnat : (2 : ℚ) ^ 1074 ≤ 10 ^ 324 := by exact_mod_cast powers_next_to_ends.2.2.1
    have hpos := two_zpow_pos (-1074)
    have hinv : (10 : ℚ) ^ (-324 : Int) ≤ 2 ^ (-1074 : Int) := by
      have hscale := mul_ten_zpow_neg (A := 1) 324
      rw [one_mul] at hscale
      rw [least_eq]
      exact hscale.trans_le (one_div_le_one_div_of_le (by positivity) hnat)
    generalize (2 : ℚ) ^ (-1074 : Int) = least at *
    linarith only [hinv, hleast, hhigh, hpos]
  have h₁ := (zpow_lt_zpow_iff_right₀ (by norm_num)).mp hmost'
  have h₂ := (zpow_lt_zpow_iff_right₀ (by norm_num)).mp hleast'
  omega

end Top

end PagePilot.Json
