import GameConfig.Number.Binary32
import GameConfig.Proofs.Number.Nearest
import GameConfig.Proofs.Number.Rational

/-!
# Doubles narrowed to singles

A double is narrowed to a finite single exactly if it lies below the point halfway between the
largest single and the power of two behind it.  The range of singles ends half a gap earlier.
-/

namespace GameConfig
namespace Number

theorem Binary64.abs_rational (x : Binary64) :
    |x.rational| = binary64.steps x.magnitude / (binary64.one : Nat) := by
  rw [rational_eq_steps, abs_div, abs_of_pos one_pos, steps]
  cases x.isNegative with
  | true => rw [if_pos rfl, Int.cast_neg, abs_neg, Int.cast_natCast, Nat.abs_cast]
  | false => rw [if_neg Bool.false_ne_true, Int.cast_natCast, Nat.abs_cast]

namespace Binary32

theorem magnitude_ofMagnitude (negative : Bool) {magnitude : Nat} (h : magnitude < signBit) :
    (ofMagnitude negative magnitude).magnitude = magnitude := by
  have hsign : signBit = 2 ^ 31 := rfl
  rw [hsign] at h
  unfold Binary32.magnitude ofMagnitude
  rw [UInt32.toNat_ofNat', hsign]
  cases negative
  · simp only [Bool.false_eq_true, if_false]
    omega
  · simp only [if_true]
    omega

theorem isFinite_ofMagnitude (negative : Bool) {magnitude : Nat} (h : magnitude < signBit) :
    (ofMagnitude negative magnitude).isFinite = true ↔ magnitude < binary32.infinity := by
  rw [isFinite, magnitude_ofMagnitude negative h, decide_eq_true_iff]

def largest : ℚ :=
  (2 ^ 24 - 1) * 2 ^ 104

/-- The point halfway between the largest single and the power of two behind it. -/
def cut : ℚ :=
  (2 ^ 25 - 1) * 2 ^ 103

theorem largest_lt_cut : largest < cut := by
  norm_num [largest, cut]

theorem stepRatio_eq_pow :
    stepRatio = 2 ^ (binary64.unitExponent - binary32.unitExponent) := by
  unfold stepRatio
  rw [Nat.pow_eq]

theorem stepRatio_pos : 0 < stepRatio := by
  rw [stepRatio_eq_pow]
  positivity

theorem one_eq_mul_stepRatio : binary64.one = 2 ^ 149 * stepRatio := by
  have hexponent :
      binary64.unitExponent = 149 + (binary64.unitExponent - binary32.unitExponent) := by
    decide
  rw [Binary64.one_eq_pow, stepRatio_eq_pow, ← pow_add, ← hexponent]

theorem steps_greatest : binary32.steps (binary32.infinity - 1) = (2 ^ 24 - 1) * 2 ^ 253 := by
  decide

theorem cut_eq_halfway :
    cut * (binary64.one : Nat) = binary32.halfway (binary32.infinity - 1) * (stepRatio : Nat) := by
  have hnext : binary32.steps (binary32.infinity - 1 + 1) = 2 ^ 24 * 2 ^ 253 := by
    decide
  rw [Format.halfway, steps_greatest, hnext, one_eq_mul_stepRatio, cut]
  push_cast
  ring

theorem largest_eq_steps : largest * (binary64.one : Nat) = (largestSteps : Nat) := by
  rw [largestSteps, steps_greatest, one_eq_mul_stepRatio, largest]
  push_cast
  ring

theorem covers_iff (x : Binary64) :
    covers x = true ↔ x.isFinite = true ∧ |x.rational| ≤ largest := by
  rw [covers, Bool.and_eq_true, decide_eq_true_iff, Binary64.abs_rational,
    div_le_iff₀ Binary64.one_pos, largest_eq_steps, Nat.cast_le]

theorem isFinite_ofBinary64_of_not_finite {x : Binary64} (h : x.isFinite = false) :
    (ofBinary64 x).isFinite = false := by
  have hpast : ∀ negative, (ofMagnitude negative (binary32.infinity + 1)).isFinite = false := by
    decide
  have hinfinite : ∀ negative, (ofMagnitude negative binary32.infinity).isFinite = false := by
    decide
  rw [ofBinary64, h]
  split
  · exact hpast _
  · exact hinfinite _

theorem isFinite_ofBinary64_iff (x : Binary64) :
    (ofBinary64 x).isFinite = true ↔ x.isFinite = true ∧ |x.rational| < cut := by
  cases hx : x.isFinite with
  | false => simp [isFinite_ofBinary64_of_not_finite hx]
  | true =>
      have hratio : (0 : ℚ) < stepRatio := Nat.cast_pos.mpr stepRatio_pos
      have hlast : binary32.infinity - 1 < binary32.infinity := by decide
      have hodd : ¬ (binary32.infinity - 1) % 2 = 0 := by decide
      have hbound : binary32.round (binary64.steps x.magnitude) stepRatio < signBit :=
        (binary32.round_le_infinity _ _).trans_lt (by decide)
      have hnarrow : ofBinary64 x = ofMagnitude x.isNegative
          (binary32.round (binary64.steps x.magnitude) stepRatio) := by
        rw [ofBinary64, if_neg (by simp [Binary64.isNaN_of_isFinite hx]), if_neg (by simp [hx])]
      rw [hnarrow, isFinite_ofMagnitude _ hbound, Nat.lt_iff_le_pred (by decide),
        Binary64.abs_rational, div_lt_iff₀ Binary64.one_pos, cut_eq_halfway,
        binary32.round_le_iff (by decide) stepRatio_pos hlast, Format.StopsAt, div_lt_iff₀ hratio]
      simp only [hodd, and_false, or_false, true_and]

theorem isFinite_of_covers {x : Binary64} (h : covers x = true) :
    (ofBinary64 x).isFinite = true := by
  rw [covers_iff] at h
  rw [isFinite_ofBinary64_iff]
  exact ⟨h.left, h.right.trans_lt largest_lt_cut⟩

end Binary32
end Number
end GameConfig
