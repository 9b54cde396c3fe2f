import GameConfig.Proofs.Json.InRange
import GameConfig.Proofs.Number.Decimal
import GameConfig.Proofs.Number.Ratio

/-!
# Scaling by powers of ten

Collected digits are rounded once, and each product or quotient with a power of ten is rounded
again.  All ratios on the way are so close to one that the result is at most two places away from
the magnitude nearest to the decimal.  It is that magnitude if the digits and the power are
doubles themselves.
-/

namespace GameConfig
namespace Json

open Number

/-!
# Whole numbers and powers of ten
-/

theorem withinFactor_ofNat {n : Nat} (hpos : 0 < n) (hn : n ≤ 10 ^ largestPower) :
    WithinFactor (1 + 1 / 2 ^ 53) (binary64.steps (binary64.ofNat n))
      (n * (binary64.one : Nat)) := by
  have hfinite := ofNat_lt_infinity hn
  have hleast : 2 ^ binary64.fractionBits ≤ binary64.one := by
    rw [Binary64.one_eq_pow]
    exact Nat.pow_le_pow_right Nat.two_pos (by decide)
  have hnormal : (2 : ℚ) ^ binary64.fractionBits ≤ n * (binary64.one : Nat) := by
    exact_mod_cast hleast.trans (Nat.le_mul_of_pos_left _ hpos)
  have hnonneg : (0 : ℚ) ≤ n * (binary64.one : Nat) :=
    mul_nonneg n.cast_nonneg Binary64.one_pos.le
  rw [Format.ofNat_eq_nearest (by decide)] at hfinite ⊢
  exact (Format.withinFactor_nearest (by decide) hnonneg hfinite hnormal).symm

theorem withinFactor_powerOfTen {k : Nat} (hk : k ≤ largestPower) :
    WithinFactor (1 + 1 / 2 ^ 53) (binary64.steps (powerOfTen k))
      (10 ^ k * (binary64.one : Nat)) := by
  have hratio := withinFactor_ofNat (Nat.pow_pos (by decide : 0 < 10))
    (Nat.pow_le_pow_right (by decide) hk)
  rwa [Nat.cast_pow, Nat.cast_ofNat] at hratio

theorem withinFactor_largestPower :
    WithinFactor (1 + 99 / 1000 / 2 ^ 53) (binary64.steps (powerOfTen largestPower))
      (10 ^ largestPower * (binary64.one : Nat)) := by
  have hclose :
      2 ^ 53 * 1000 * binary64.steps (powerOfTen largestPower) ≤
          (2 ^ 53 * 1000 + 99) * (10 ^ largestPower * binary64.one) ∧
        2 ^ 53 * 1000 * (10 ^ largestPower * binary64.one) ≤
          (2 ^ 53 * 1000 + 99) * binary64.steps (powerOfTen largestPower) := by
    decide +kernel
  have hcast : ∀ m n : Nat, 2 ^ 53 * 1000 * m ≤ (2 ^ 53 * 1000 + 99) * n →
      (m : ℚ) ≤ (1 + 99 / 1000 / 2 ^ 53) * n := by
    intro m n h
    have h' : (2 : ℚ) ^ 53 * 1000 * m ≤ (2 ^ 53 * 1000 + 99) * n := by exact_mod_cast h
    linarith
  have habove := hcast _ _ hclose.left
  have hbelow := hcast _ _ hclose.right
  rw [Nat.cast_mul, Nat.cast_pow, Nat.cast_ofNat] at habove hbelow
  exact ⟨habove, hbelow⟩

theorem steps_powerOfTen_pos (k : Nat) : 0 < binary64.steps (powerOfTen k) :=
  Nat.lt_of_lt_of_le binary64.one_pos (one_le_powerOfTen k)

/-!
# One product or quotient
-/

section Ratios

variable {r s a p n t one : ℚ}

theorem withinFactor_product (hdigits : WithinFactor r a (n * one))
    (hpower : WithinFactor s p (t * one)) (ha : 0 ≤ a) (hp : 0 ≤ p) (hn : 0 ≤ n) (ht : 0 ≤ t)
    (hone : 0 < one) : WithinFactor (r * s) (a * p / one) (n * t * one) := by
  have hboth := hdigits.mul hpower ha (mul_nonneg hn hone.le) hp (mul_nonneg ht hone.le)
  have hscaled := hboth.mul_right (inv_nonneg.mpr hone.le)
  have hexact : n * one * (t * one) * one⁻¹ = n * t * one := by
    field_simp
  rwa [hexact, ← div_eq_mul_inv] at hscaled

theorem withinFactor_quotient (hdigits : WithinFactor r a (n * one))
    (hpower : WithinFactor s p (t * one)) (ha : 0 ≤ a) (hp : 0 < p) (hn : 0 ≤ n) (ht : 0 < t)
    (hone : 0 < one) : WithinFactor (r * s) (a * one / p) (n / t * one) := by
  have hboth := hdigits.div hpower ha (mul_nonneg hn hone.le) hp (mul_pos ht hone)
  have hscaled := hboth.mul_right hone.le
  have hexact : n * one / (t * one) * one = n / t * one := by
    field_simp
  rwa [hexact, div_mul_eq_mul_div] at hscaled

end Ratios

theorem ten_pow_pos (k : Nat) : (0 : ℚ) < 10 ^ k :=
  pow_pos (by norm_num) k

/-- Numbers that are rounded to magnitudes at most two places apart. -/
def Close (p q : ℚ) : Prop :=
  binary64.nearest p ≤ binary64.nearest q + 2 ∧ binary64.nearest q ≤ binary64.nearest p + 2

theorem close_of_withinFactor {p q : ℚ} (hp : 0 ≤ p) (hq : 0 ≤ q)
    (h : WithinFactor ((1 + 1 / 2 ^ 53) * (1 + 1 / 2 ^ 53)) p q) : Close p q := by
  rw [← pow_two] at h
  exact ⟨Format.nearest_le_add_two (by decide) hq hp h.symm,
    Format.nearest_le_add_two (by decide) hp hq h⟩

theorem close_product {n k : Nat} (hpos : 0 < n) (hn : n ≤ 10 ^ largestPower)
    (hk : k ≤ largestPower) :
    Close
      (binary64.steps (binary64.ofNat n) * binary64.steps (powerOfTen k) / (binary64.one : Nat))
      (n * 10 ^ k * (binary64.one : Nat)) := by
  have hratio := withinFactor_product (withinFactor_ofNat hpos hn) (withinFactor_powerOfTen hk)
    (Nat.cast_nonneg _) (Nat.cast_nonneg _) n.cast_nonneg (ten_pow_pos k).le Binary64.one_pos
  refine close_of_withinFactor ?_ ?_ hratio
  · exact div_nonneg (mul_nonneg (Nat.cast_nonneg _) (Nat.cast_nonneg _)) (Nat.cast_nonneg _)
  · exact mul_nonneg (mul_nonneg (Nat.cast_nonneg _) (ten_pow_pos k).le) (Nat.cast_nonneg _)

theorem close_quotient {n k : Nat} (hpos : 0 < n) (hn : n ≤ 10 ^ largestPower)
    (hk : k ≤ largestPower) :
    Close
      (binary64.steps (binary64.ofNat n) * (binary64.one : Nat) / binary64.steps (powerOfTen k))
      (n / 10 ^ k * (binary64.one : Nat)) := by
  have hpower : (0 : ℚ) < binary64.steps (powerOfTen k) :=
    Nat.cast_pos.mpr (steps_powerOfTen_pos k)
  have hratio := withinFactor_quotient (withinFactor_ofNat hpos hn) (withinFactor_powerOfTen hk)
    (Nat.cast_nonneg _) hpower n.cast_nonneg (ten_pow_pos k) Binary64.one_pos
  refine close_of_withinFactor ?_ ?_ hratio
  · exact div_nonneg (mul_nonneg (Nat.cast_nonneg _) (Nat.cast_nonneg _)) (Nat.cast_nonneg _)
  · exact mul_nonneg (div_nonneg (Nat.cast_nonneg _) (ten_pow_pos k).le) (Nat.cast_nonneg _)

/-!
# Two quotients
-/

theorem gap_le_of_lt {m n k : Nat} (h : binary64.gap m < 2 ^ (k + 1) * binary64.gap n) :
    binary64.gap m ≤ 2 ^ k * binary64.gap n := by
  rw [Format.gap, Format.gap, ← pow_add] at h ⊢
  have hexponent := (pow_lt_pow_iff_right₀ one_lt_two).mp h
  exact pow_le_pow_right₀ one_le_two (by omega)

theorem lt_mul_gap {y : ℚ} (hy : 0 ≤ y) (hfinite : binary64.nearest y < binary64.infinity) :
    y < 2 ^ 53 * binary64.gap (binary64.nearest y) := by
  have hbits : binary64.fractionBits + 1 = 53 := rfl
  have hcount := Format.lt_gap_nearest (by decide) hy hfinite
  rwa [hbits] at hcount

theorem one_le_gap (m : Nat) : 1 ≤ binary64.gap m :=
  one_le_pow₀ one_le_two

theorem exists_log {j : Nat} (hpos : 1 ≤ j) (hj : j ≤ 16) :
    ∃ k, (1 + 4 / 2 ^ 53 : ℚ) * 10 ^ j ≤ 2 ^ (k + 1) ∧ (2 : ℚ) ^ k ≤ 9008 / 10000 * 10 ^ j := by
  have hlog : ∀ j ≤ 16, 1 ≤ j →
      (2 ^ 53 + 4) * 10 ^ j ≤ 2 ^ 53 * 2 ^ ((10 ^ j).log2 + 1) ∧
        10000 * 2 ^ (10 ^ j).log2 ≤ 9008 * 10 ^ j := by
    decide
  rcases hlog j hj hpos with ⟨habove, hbelow⟩
  have habove' : ((2 : ℚ) ^ 53 + 4) * 10 ^ j ≤ 2 ^ 53 * 2 ^ ((10 ^ j).log2 + 1) := by
    exact_mod_cast habove
  have hbelow' : (10000 : ℚ) * 2 ^ (10 ^ j).log2 ≤ 9008 * 10 ^ j := by
    exact_mod_cast hbelow
  refine ⟨(10 ^ j).log2, ?_, ?_⟩
  · linarith
  · linarith

theorem gap_div_le {j m : Nat} {y : ℚ} (hpos : 1 ≤ j) (hj : j ≤ 16) (hy : 0 ≤ y)
    (hfinite : binary64.nearest y < binary64.infinity)
    (h : binary64.gap m = 1 ∨ 2 ^ 52 * binary64.gap m ≤ (1 + 4 / 2 ^ 53) * (10 ^ j * y)) :
    binary64.gap m / 2 / 10 ^ j ≤ 9008 / 10000 * binary64.gap (binary64.nearest y) := by
  rcases exists_log hpos hj with ⟨k, habove, hbelow⟩
  have hcount := lt_mul_gap hy hfinite
  have hpositive := binary64.gap_pos (binary64.nearest y)
  have hgap : binary64.gap m ≤ 2 ^ (k + 1) * binary64.gap (binary64.nearest y) := by
    rcases h with hone | hlarge
    · rw [hone]
      exact one_le_mul_of_one_le_of_one_le (one_le_pow₀ one_le_two) (one_le_gap _)
    · apply gap_le_of_lt
      have hscaled : (1 + 4 / 2 ^ 53) * 10 ^ j * y <
          2 ^ (k + 1) * (2 ^ 53 * binary64.gap (binary64.nearest y)) :=
        mul_lt_mul' habove hcount hy (by positivity)
      rw [← mul_assoc] at hlarge
      refine lt_of_mul_lt_mul_left (a := 2 ^ 52) ?_ (by positivity)
      calc
        2 ^ 52 * binary64.gap m ≤ (1 + 4 / 2 ^ 53) * 10 ^ j * y := hlarge
        _ < 2 ^ (k + 1) * (2 ^ 53 * binary64.gap (binary64.nearest y)) := hscaled
        _ = 2 ^ 52 * (2 ^ (k + 1 + 1) * binary64.gap (binary64.nearest y)) := by ring
  rw [div_div, div_le_iff₀ (by positivity)]
  calc
    binary64.gap m ≤ 2 ^ (k + 1) * binary64.gap (binary64.nearest y) := hgap
    _ = 2 * 2 ^ k * binary64.gap (binary64.nearest y) := by rw [pow_succ']
    _ ≤ 2 * (9008 / 10000 * 10 ^ j) * binary64.gap (binary64.nearest y) := by gcongr
    _ = 9008 / 10000 * binary64.gap (binary64.nearest y) * (2 * 10 ^ j) := by ring

/-- A number that is beyond another one by little more than half the gap of the first quotient is
rounded to at most two places behind it, once both are divided. -/
theorem nearest_div_le {x y : ℚ} {j m : Nat} (hpos : 1 ≤ j) (hj : j ≤ 16) (hx : 0 ≤ x)
    (hy : 0 ≤ y) (hgap : binary64.gap m = 1 ∨ 2 ^ 52 * binary64.gap m ≤ (1 + 4 / 2 ^ 53) * y)
    (hxy : x ≤ (1 + 10991 / 10000 / 2 ^ 53) * (y + binary64.gap m / 2)) :
    binary64.nearest (x / 10 ^ j) ≤ binary64.nearest (y / 10 ^ j) + 2 := by
  have ht := ten_pow_pos j
  rcases (binary64.nearest_le_infinity (y / 10 ^ j)).eq_or_lt with hinfinite | hfinite
  · rw [hinfinite]
    exact (binary64.nearest_le_infinity _).trans (Nat.le_add_right _ _)
  · have hy' : 0 ≤ y / 10 ^ j := div_nonneg hy ht.le
    have hcount := lt_mul_gap hy' hfinite
    have hsmall := gap_div_le (m := m) hpos hj hy' hfinite (by rwa [mul_div_cancel₀ y ht.ne'])
    have hquotient : x / 10 ^ j ≤
        (1 + 10991 / 10000 / 2 ^ 53) * (y / 10 ^ j + binary64.gap m / 2 / 10 ^ j) := by
      rw [← add_div, ← mul_div_assoc]
      exact div_le_div_of_nonneg_right hxy ht.le
    apply Format.nearest_le_add (by decide) hy' (div_nonneg hx ht.le)
    push_cast
    linarith

theorem gap_eq_one_or_le (m : Nat) :
    binary64.gap m = 1 ∨ 2 ^ 52 * binary64.gap m ≤ binary64.steps m := by
  rcases Nat.lt_or_ge m (2 ^ 52) with hsmall | hnormal
  · left
    have hexponent : binary64.gapExponent m = 0 := by
      have hquotient : m / Nat.pow 2 52 = 0 := Nat.div_eq_of_lt hsmall
      show m / Nat.pow 2 52 - 1 = 0
      rw [hquotient]
    rw [Format.gap, hexponent, pow_zero]
  · exact Or.inr (Format.mul_gap_le_steps hnormal)

theorem close_second {q w : ℚ} {j : Nat} (hpos : 1 ≤ j) (hj : j ≤ 16) (hq : 0 ≤ q) (hw : 0 ≤ w)
    (hfinite : binary64.nearest q < binary64.infinity)
    (hratio : WithinFactor (1 + 10991 / 10000 / 2 ^ 53) q w) :
    Close (binary64.steps (binary64.nearest q) / 10 ^ j) (w / 10 ^ j) := by
  have herror := Format.abs_sub_steps_nearest_le (by decide) hq hfinite
  have hgap := gap_eq_one_or_le (binary64.nearest q)
  have hpositive := binary64.gap_pos (binary64.nearest q)
  have hf : (0 : ℚ) ≤ binary64.steps (binary64.nearest q) := Nat.cast_nonneg _
  rcases hratio with ⟨habove, hbelow⟩
  rw [abs_sub_le_iff] at herror
  constructor
  · apply nearest_div_le (m := binary64.nearest q) hpos hj hf hw
    · refine hgap.imp_right fun hlarge => ?_
      linarith
    · linarith
  · apply nearest_div_le (m := binary64.nearest q) hpos hj hw hf
    · refine hgap.imp_right fun hlarge => ?_
      linarith
    · linarith

/-!
# Scaled magnitudes
-/

theorem scaleByPower_natCast (magnitude : Nat) {k : Nat} (hk : k ≤ largestPower) :
    scaleByPower magnitude k =
      if binary64.mul magnitude (powerOfTen k) < binary64.infinity then
        some (binary64.mul magnitude (powerOfTen k))
      else none := by
  rw [scaleByPower, Int.natAbs_natCast, if_pos hk, if_pos (Int.natCast_nonneg k)]

theorem scaleByPower_neg (magnitude : Nat) {k : Nat} (hpos : 0 < k) (hk : k ≤ largestPower) :
    scaleByPower magnitude (-(k : Int)) = some (binary64.div magnitude (powerOfTen k)) := by
  rw [scaleByPower, Int.natAbs_neg, Int.natAbs_natCast, if_pos hk, if_neg (by omega)]

theorem scaleByPower_beyond {magnitude j : Nat} (hmagnitude : magnitude ≠ 0) (hj : 0 < j) :
    scaleByPower magnitude (-((largestPower + j : Nat) : Int)) =
      scaleByPower (binary64.div magnitude (powerOfTen largestPower)) (-(j : Int)) := by
  have hlarge : ¬ largestPower + j ≤ largestPower := by omega
  have hshift : -((largestPower + j : Nat) : Int) + largestPower = -(j : Int) := by omega
  rw [scaleByPower, Int.natAbs_neg, Int.natAbs_natCast, if_neg hlarge, if_neg hmagnitude,
    if_neg (by omega), hshift]

theorem scaleByPower_zero (power : Int) : scaleByPower 0 power = some 0 := by
  have hmul : ∀ k, binary64.mul 0 (powerOfTen k) = 0 := by
    intro k
    rw [Format.mul_eq_nearest (by decide), Format.steps_zero, Nat.cast_zero, zero_mul, zero_div,
      Format.nearest_zero (by decide)]
  have hdiv : ∀ k, binary64.div 0 (powerOfTen k) = 0 := fun k =>
    Nat.le_zero.mp (div_powerOfTen_le 0 k)
  rw [scaleByPower]
  split
  · split
    · rw [hmul]
      exact if_pos Binary64.infinity_pos
    · rw [hdiv]
  · exact if_pos rfl

theorem ofNat_ne_zero {n : Nat} (hpos : 0 < n) (hn : n ≤ 10 ^ largestPower) :
    binary64.ofNat n ≠ 0 := by
  intro hzero
  have hratio := (withinFactor_ofNat hpos hn).right
  rw [hzero, Format.steps_zero, Nat.cast_zero, mul_zero] at hratio
  have hexact : (0 : ℚ) < n * (binary64.one : Nat) :=
    mul_pos (Nat.cast_pos.mpr hpos) Binary64.one_pos
  exact absurd hratio hexact.not_ge

theorem div_powerOfTen_eq (magnitude k : Nat) :
    binary64.div magnitude (powerOfTen k) =
      binary64.nearest
        (binary64.steps magnitude * (binary64.one : Nat) / binary64.steps (powerOfTen k)) :=
  Format.div_eq_nearest (by decide) magnitude (steps_powerOfTen_pos k)

theorem close_quotients {n j : Nat} (hpos : 0 < n) (hn : n ≤ 10 ^ largestPower) (hj : 1 ≤ j)
    (hj' : j ≤ 16) :
    Close
      (binary64.steps (binary64.div (binary64.ofNat n) (powerOfTen largestPower)) *
        (binary64.one : Nat) / binary64.steps (powerOfTen j))
      (n / 10 ^ (largestPower + j) * (binary64.one : Nat)) := by
  have hpower : (0 : ℚ) < binary64.steps (powerOfTen largestPower) :=
    Nat.cast_pos.mpr (steps_powerOfTen_pos largestPower)
  have hratio := withinFactor_quotient (withinFactor_ofNat hpos hn) withinFactor_largestPower
    (Nat.cast_nonneg _) hpower n.cast_nonneg (ten_pow_pos largestPower) Binary64.one_pos
  have hfinite : binary64.div (binary64.ofNat n) (powerOfTen largestPower) < binary64.infinity :=
    (div_powerOfTen_le _ _).trans_lt (ofNat_lt_infinity hn)
  have hcomputed : (0 : ℚ) ≤ binary64.steps (binary64.ofNat n) * (binary64.one : Nat) /
      binary64.steps (powerOfTen largestPower) :=
    div_nonneg (mul_nonneg (Nat.cast_nonneg _) (Nat.cast_nonneg _)) (Nat.cast_nonneg _)
  have hexact : (0 : ℚ) ≤ n / 10 ^ largestPower * (binary64.one : Nat) :=
    mul_nonneg (div_nonneg (Nat.cast_nonneg _) (ten_pow_pos _).le) (Nat.cast_nonneg _)
  have hfactor : (1 + 1 / 2 ^ 53) * (1 + 99 / 1000 / 2 ^ 53) ≤
      (1 + 10991 / 10000 / 2 ^ 53 : ℚ) := by
    norm_num
  rw [div_powerOfTen_eq] at hfinite ⊢
  have hclose :=
    close_second hj hj' hcomputed hexact hfinite (hratio.mono hfactor hcomputed hexact)
  -- The second power is a double, so that the quotient by it is the one that is meant.
  have hsecond : ∀ x : ℚ, x * (binary64.one : Nat) / binary64.steps (powerOfTen j) =
      x / 10 ^ j := by
    intro x
    rw [steps_powerOfTen (hj'.trans (by decide)), Nat.cast_mul, Nat.cast_pow, Nat.cast_ofNat,
      mul_div_mul_right _ _ Binary64.one_pos.ne']
  have hmeant : n / 10 ^ largestPower * ((binary64.one : Nat) : ℚ) / 10 ^ j =
      n / 10 ^ (largestPower + j) * (binary64.one : Nat) := by
    rw [pow_add, ← div_div, div_mul_eq_mul_div, div_mul_eq_mul_div, div_mul_eq_mul_div,
      div_right_comm]
  rwa [hsecond, ← hmeant]

theorem exists_scaled {n : Nat} {power : Int} (hpos : 0 < n) (hn : n ≤ 10 ^ largestPower)
    (hleast : -324 ≤ power) (hgreatest : power ≤ 308) :
    ∃ p, Close p (n * 10 ^ power * (binary64.one : Nat)) ∧
      scaleByPower (binary64.ofNat n) power =
        if binary64.nearest p < binary64.infinity then some (binary64.nearest p) else none := by
  have hlargest : largestPower = 308 := rfl
  have hfinite := ofNat_lt_infinity hn
  rcases le_or_gt 0 power with hsign | hsign
  · obtain ⟨k, rfl⟩ := Int.eq_ofNat_of_zero_le hsign
    have hk : k ≤ largestPower := by omega
    have hclose := close_product hpos hn hk
    rw [← zpow_natCast] at hclose
    refine ⟨_, hclose, ?_⟩
    rw [scaleByPower_natCast _ hk, Format.mul_eq_nearest (by decide)]
  · obtain ⟨k, rfl⟩ : ∃ k : Nat, power = -(k : Int) := ⟨power.natAbs, by omega⟩
    have hmeant : (n : ℚ) / 10 ^ k = n * 10 ^ (-(k : Int)) := by
      rw [zpow_neg, zpow_natCast, div_eq_mul_inv]
    rcases Nat.lt_or_ge largestPower k with hlarge | hsmall
    · obtain ⟨j, rfl⟩ := Nat.exists_eq_add_of_le hlarge.le
      have hj : 1 ≤ j := by omega
      have hclose := close_quotients hpos hn hj (by omega)
      rw [hmeant] at hclose
      refine ⟨_, hclose, ?_⟩
      rw [scaleByPower_beyond (ofNat_ne_zero hpos hn) hj, scaleByPower_neg _ hj (by omega),
        ← div_powerOfTen_eq, if_pos]
      exact ((div_powerOfTen_le _ _).trans (div_powerOfTen_le _ _)).trans_lt hfinite
    · have hclose := close_quotient hpos hn hsmall
      rw [hmeant] at hclose
      refine ⟨_, hclose, ?_⟩
      rw [scaleByPower_neg _ (by omega) hsmall, ← div_powerOfTen_eq, if_pos]
      exact (div_powerOfTen_le _ _).trans_lt hfinite

/-- The result of scaling is at most two places away from the magnitude that is meant, unless that
is so large that it may become infinite. -/
theorem scaleByPower_close {n : Nat} {power : Int} (hn : n ≤ 10 ^ 17) (hleast : -324 ≤ power)
    (hfinite : binary64.nearest (n * 10 ^ power * (binary64.one : Nat)) + 2 < binary64.infinity) :
    ∃ magnitude, scaleByPower (binary64.ofNat n) power = some magnitude ∧
      magnitude ≤ binary64.nearest (n * 10 ^ power * (binary64.one : Nat)) + 2 ∧
      binary64.nearest (n * 10 ^ power * (binary64.one : Nat)) ≤ magnitude + 2 := by
  rcases Nat.eq_zero_or_pos n with rfl | hpos
  · rw [Nat.cast_zero, zero_mul, zero_mul, Format.nearest_zero (by decide),
      Format.ofNat_zero (by decide)]
    exact ⟨0, scaleByPower_zero power, Nat.zero_le _, Nat.zero_le _⟩
  · have hgreatest := Decimal.le_of_nearest_lt hpos ((Nat.le_add_right _ 2).trans_lt hfinite)
    have hlarge : n ≤ 10 ^ largestPower := hn.trans (Nat.pow_le_pow_right (by decide) (by decide))
    rcases exists_scaled hpos hlarge hleast hgreatest with ⟨p, hclose, hscaled⟩
    rw [if_pos (hclose.left.trans_lt hfinite)] at hscaled
    exact ⟨_, hscaled, hclose.left, hclose.right⟩

theorem scaleByPower_exact {n : Nat} {power : Int}
    (hn : binary64.steps (binary64.ofNat n) = n * binary64.one) (hpower : power.natAbs ≤ 22)
    (hfinite : binary64.nearest (n * 10 ^ power * (binary64.one : Nat)) < binary64.infinity) :
    scaleByPower (binary64.ofNat n) power =
      some (binary64.nearest (n * 10 ^ power * (binary64.one : Nat))) := by
  have hlargest : largestPower = 308 := rfl
  have hone := Binary64.one_pos.ne'
  have hexact : ∀ k ≤ 22, (binary64.steps (powerOfTen k) : ℚ) = 10 ^ k * (binary64.one : Nat) := by
    intro k hk
    rw [steps_powerOfTen hk, Nat.cast_mul, Nat.cast_pow, Nat.cast_ofNat]
  rcases le_or_gt 0 power with hsign | hsign
  · obtain ⟨k, rfl⟩ := Int.eq_ofNat_of_zero_le hsign
    have hk : k ≤ 22 := by rwa [Int.natAbs_natCast] at hpower
    have hproduct : binary64.mul (binary64.ofNat n) (powerOfTen k) =
        binary64.nearest (n * 10 ^ (k : Int) * (binary64.one : Nat)) := by
      rw [Format.mul_eq_nearest (by decide), hn, hexact k hk, Nat.cast_mul, zpow_natCast]
      congr 1
      field_simp
    rw [scaleByPower_natCast _ (by omega), hproduct, if_pos hfinite]
  · obtain ⟨k, rfl⟩ : ∃ k : Nat, power = -(k : Int) := ⟨power.natAbs, by omega⟩
    have hk : k ≤ 22 := by omega
    rw [scaleByPower_neg _ (by omega) (by omega), div_powerOfTen_eq, hn, hexact k hk, Nat.cast_mul,
      zpow_neg, zpow_natCast, ← div_eq_mul_inv, mul_div_mul_right _ _ hone, div_mul_eq_mul_div]

end Json
end GameConfig
