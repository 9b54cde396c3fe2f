import GameConfig.Proofs.Number.Nearest

/-!
# Ratios of numbers and their magnitudes

The error of a computed product or quotient is told by ratios: they multiply where the numbers
do.  A ratio that is close to one bounds how many places apart two numbers are rounded.
-/

namespace GameConfig
namespace Number

/-- Neither of two numbers is more than a factor times the other. -/
def WithinFactor (factor p q : ℚ) : Prop :=
  p ≤ factor * q ∧ q ≤ factor * p

namespace WithinFactor

variable {r s p q p' q' : ℚ}

theorem symm (h : WithinFactor r p q) : WithinFactor r q p :=
  And.symm h

theorem mono (h : WithinFactor r p q) (hrs : r ≤ s) (hp : 0 ≤ p) (hq : 0 ≤ q) :
    WithinFactor s p q :=
  ⟨h.left.trans (mul_le_mul_of_nonneg_right hrs hq),
    h.right.trans (mul_le_mul_of_nonneg_right hrs hp)⟩

theorem mul_right (h : WithinFactor r p q) {scale : ℚ} (hscale : 0 ≤ scale) :
    WithinFactor r (p * scale) (q * scale) := by
  constructor
  · rw [← mul_assoc]
    exact mul_le_mul_of_nonneg_right h.left hscale
  · rw [← mul_assoc]
    exact mul_le_mul_of_nonneg_right h.right hscale

theorem mul (h : WithinFactor r p q) (h' : WithinFactor s p' q') (hp : 0 ≤ p) (hq : 0 ≤ q)
    (hp' : 0 ≤ p') (hq' : 0 ≤ q') : WithinFactor (r * s) (p * p') (q * q') := by
  constructor
  · calc
      p * p' ≤ (r * q) * (s * q') := mul_le_mul h.left h'.left hp' (hp.trans h.left)
      _ = r * s * (q * q') := by ring
  · calc
      q * q' ≤ (r * p) * (s * p') := mul_le_mul h.right h'.right hq' (hq.trans h.right)
      _ = r * s * (p * p') := by ring

theorem inv (h : WithinFactor r p q) (hp : 0 < p) (hq : 0 < q) : WithinFactor r p⁻¹ q⁻¹ := by
  have hcross : ∀ {x y : ℚ}, 0 < x → 0 < y → y ≤ r * x → x⁻¹ ≤ r * y⁻¹ := by
    intro x y hx hy hle
    rw [← div_eq_mul_inv, le_div_iff₀ hy, inv_mul_le_iff₀ hx, mul_comm]
    exact hle
  exact ⟨hcross hp hq h.right, hcross hq hp h.left⟩

theorem div (h : WithinFactor r p q) (h' : WithinFactor s p' q') (hp : 0 ≤ p) (hq : 0 ≤ q)
    (hp' : 0 < p') (hq' : 0 < q') : WithinFactor (r * s) (p / p') (q / q') := by
  rw [div_eq_mul_inv, div_eq_mul_inv]
  exact h.mul (h'.inv hp' hq') hp hq (inv_pos.mpr hp').le (inv_pos.mpr hq').le

end WithinFactor

namespace Format

variable {format : Format} {p q : ℚ}

theorem withinFactor_nearest (hbits : 0 < format.fractionBits) (hq : 0 ≤ q)
    (hfinite : format.nearest q < format.infinity) (hnormal : 2 ^ format.fractionBits ≤ q) :
    WithinFactor (1 + 1 / 2 ^ (format.fractionBits + 1)) q
      (format.steps (format.nearest q)) := by
  have herror := mul_abs_sub_steps_nearest_le hbits hq hfinite hnormal
  have hunit : (0 : ℚ) < 2 ^ (format.fractionBits + 1) := by positivity
  generalize (format.steps (format.nearest q) : ℚ) = x at *
  rw [mul_comm, ← le_div_iff₀ hunit, abs_sub_le_iff] at herror
  have hleft : min q x / 2 ^ (format.fractionBits + 1) ≤ q / 2 ^ (format.fractionBits + 1) :=
    div_le_div_of_nonneg_right (min_le_left q x) hunit.le
  have hright : min q x / 2 ^ (format.fractionBits + 1) ≤ x / 2 ^ (format.fractionBits + 1) :=
    div_le_div_of_nonneg_right (min_le_right q x) hunit.le
  constructor
  · rw [add_mul, one_mul, one_div_mul_eq_div]
    linarith
  · rw [add_mul, one_mul, one_div_mul_eq_div]
    linarith

theorem nearest_le_add_two (hbits : 0 < format.fractionBits) (hp : 0 ≤ p) (hq : 0 ≤ q)
    (h : WithinFactor ((1 + 1 / 2 ^ (format.fractionBits + 1)) ^ 2) p q) :
    format.nearest q ≤ format.nearest p + 2 := by
  rcases (format.nearest_le_infinity p).eq_or_lt with hinfinite | hfinite
  · rw [hinfinite]
    exact (format.nearest_le_infinity q).trans (Nat.le_add_right _ _)
  · have hpos := format.gap_pos (format.nearest p)
    have hcount := le_halfway_nearest hbits hp hfinite
    have hsteps := format.steps_succ_le (format.nearest p)
    rw [halfway_eq] at hcount
    rw [steps_succ_eq] at hsteps
    apply nearest_le_add hbits hp hq
    generalize hunit : (2 : ℚ) ^ (format.fractionBits + 1) = unit at *
    have hunit' : 0 < unit := hunit ▸ by positivity
    generalize format.gap (format.nearest p) = gap at *
    -- The number lies half a gap below the end of its grid, which makes up for the second order.
    have hhalf : p ≤ (unit - 1 / 2) * gap := by linarith
    have herror : ((1 + 1 / unit) ^ 2 - 1) * ((unit - 1 / 2) * gap) < 2 * gap := by
      have hsum : ((1 + 1 / unit) ^ 2 - 1) * ((unit - 1 / 2) * gap) =
          2 * gap - gap / (2 * unit ^ 2) := by
        field_simp
        ring
      rw [hsum]
      linarith [show 0 < gap / (2 * unit ^ 2) by positivity]
    have hfactor : 0 ≤ (1 + 1 / unit) ^ 2 - 1 := by
      have hone : 1 ≤ 1 + 1 / unit := by linarith [one_div_pos.mpr hunit']
      linarith [one_le_pow₀ (n := 2) hone]
    have hscaled := mul_le_mul_of_nonneg_left hhalf hfactor
    push_cast
    linarith [h.right]

end Format
end Number
end GameConfig
