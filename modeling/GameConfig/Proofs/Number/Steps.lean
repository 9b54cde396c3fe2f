import GameConfig.Number.Rounding
import Mathlib.Order.Monotone.Basic
import Mathlib.Data.Nat.Log
import Mathlib.Tactic.Ring

/-!
# Magnitudes and their steps

A magnitude is a gap exponent and a significand: `gap * 2 ^ fractionBits +
significand` stands for `significand * 2 ^ gap` steps.  The exponent field holds
the gap exponent plus one once the significand has its leading bit, which is why
the two parts may simply be added.

From this follow the order of magnitudes, and that a number of steps that some
magnitude has is rounded to that magnitude.
-/

namespace GameConfig
namespace Number
namespace Format

variable (format : Format)

/-- A gap exponent and a significand that make up a magnitude: only the narrowest gap
goes with a significand without its leading bit.  The next power of two is let in as a
significand, since it is the first of the next gap. -/
structure Splits (gap significand : Nat) : Prop where
  fits : significand ≤ 2 ^ (format.fractionBits + 1)
  full : gap = 0 ∨ 2 ^ format.fractionBits ≤ significand

theorem steps_eq (magnitude : Nat) :
    format.steps magnitude =
      if magnitude / 2 ^ format.fractionBits = 0 then magnitude % 2 ^ format.fractionBits
      else (2 ^ format.fractionBits + magnitude % 2 ^ format.fractionBits) *
        2 ^ (magnitude / 2 ^ format.fractionBits - 1) := rfl

theorem steps_of_splits_of_lt {gap significand : Nat} (h : format.Splits gap significand)
    (small : significand < 2 ^ (format.fractionBits + 1)) :
    format.steps (gap * 2 ^ format.fractionBits + significand) = significand * 2 ^ gap := by
  have hpos : 0 < 2 ^ format.fractionBits := Nat.two_pow_pos _
  have hdouble : 2 ^ (format.fractionBits + 1) = 2 ^ format.fractionBits * 2 := Nat.pow_succ ..
  rw [steps_eq]
  generalize 2 ^ format.fractionBits = unit at *
  by_cases hlead : significand < unit
  · have hgap : gap = 0 := h.full.resolve_right (by omega)
    simp [hgap, Nat.div_eq_of_lt hlead, Nat.mod_eq_of_lt hlead]
  · have hexponent : (gap * unit + significand) / unit = gap + 1 := by
      rw [Nat.mul_comm, Nat.mul_add_div hpos]
      rw [Nat.div_eq_of_lt_le (k := 1) (by omega) (by omega)]
    have hfraction : (gap * unit + significand) % unit = significand - unit := by
      rw [Nat.mul_comm, Nat.mul_add_mod, Nat.mod_eq_sub_mod (by omega),
        Nat.mod_eq_of_lt (by omega)]
    rw [hexponent, hfraction, if_neg (by omega), Nat.add_sub_cancel]
    congr 1
    omega

theorem steps_of_splits {gap significand : Nat} (h : format.Splits gap significand) :
    format.steps (gap * 2 ^ format.fractionBits + significand) = significand * 2 ^ gap := by
  by_cases hsmall : significand < 2 ^ (format.fractionBits + 1)
  · exact format.steps_of_splits_of_lt h hsmall
  -- The significand is the power of two that starts the next gap.
  · have hcarry : significand = 2 ^ (format.fractionBits + 1) :=
      Nat.le_antisymm h.fits (Nat.le_of_not_lt hsmall)
    have hnext : format.Splits (gap + 1) (2 ^ format.fractionBits) :=
      ⟨Nat.pow_le_pow_right (by decide) (by omega), Or.inr (Nat.le_refl _)⟩
    have hlt : 2 ^ format.fractionBits < 2 ^ (format.fractionBits + 1) :=
      Nat.pow_lt_pow_right (by decide) (by omega)
    have hsteps := format.steps_of_splits_of_lt hnext hlt
    calc
      format.steps (gap * 2 ^ format.fractionBits + significand) =
          format.steps ((gap + 1) * 2 ^ format.fractionBits + 2 ^ format.fractionBits) := by
            rw [hcarry]
            congr 1
            ring
      _ = 2 ^ format.fractionBits * 2 ^ (gap + 1) := hsteps
      _ = significand * 2 ^ gap := by
            rw [hcarry]
            ring

theorem splits_gapExponent (magnitude : Nat) :
    ∃ significand,
      magnitude = format.gapExponent magnitude * 2 ^ format.fractionBits + significand ∧
      significand < 2 ^ (format.fractionBits + 1) ∧
      format.Splits (format.gapExponent magnitude) significand := by
  have hpos : 0 < 2 ^ format.fractionBits := Nat.two_pow_pos _
  have hdouble : 2 ^ (format.fractionBits + 1) = 2 ^ format.fractionBits * 2 := Nat.pow_succ ..
  have hgap : format.gapExponent magnitude = magnitude / 2 ^ format.fractionBits - 1 := rfl
  have hdivision := Nat.div_add_mod' magnitude (2 ^ format.fractionBits)
  have hmod := Nat.mod_lt magnitude hpos
  rw [hgap]
  cases hexponent : magnitude / 2 ^ format.fractionBits with
  | zero =>
      rw [hexponent] at hdivision
      refine ⟨magnitude % 2 ^ format.fractionBits, by omega, by omega, by omega, Or.inl rfl⟩
  | succ gap =>
      rw [hexponent, Nat.succ_mul] at hdivision
      refine ⟨2 ^ format.fractionBits + magnitude % 2 ^ format.fractionBits, ?_, by omega,
        by omega, Or.inr (by omega)⟩
      rw [Nat.add_sub_cancel]
      omega

/-!
# Order of magnitudes
-/

theorem steps_succ (magnitude : Nat) :
    format.steps (magnitude + 1) =
      format.steps magnitude + 2 ^ format.gapExponent magnitude := by
  rcases format.splits_gapExponent magnitude with ⟨significand, hmagnitude, hsmall, hsplits⟩
  generalize format.gapExponent magnitude = gap at *
  have hsplits' : format.Splits gap (significand + 1) :=
    ⟨hsmall, hsplits.full.imp_right Nat.le_succ_of_le⟩
  rw [hmagnitude, Nat.add_assoc, format.steps_of_splits hsplits',
    format.steps_of_splits hsplits, Nat.succ_mul]

theorem steps_strictMono : StrictMono format.steps :=
  strictMono_nat_of_lt_succ fun magnitude => by
    rw [steps_succ]
    exact Nat.lt_add_of_pos_right (Nat.two_pow_pos _)

@[simp] theorem steps_zero : format.steps 0 = 0 := by
  simp [steps_eq]

/-!
# Exact cases of rounding
-/

theorem log2_of_splits {gap significand : Nat} (h : format.Splits gap significand)
    (small : significand < 2 ^ (format.fractionBits + 1)) :
    (significand * 2 ^ gap).log2 - format.fractionBits = gap := by
  by_cases hlead : significand < 2 ^ format.fractionBits
  · have hgap : gap = 0 := h.full.resolve_right (by omega)
    have hlog : significand.log2 ≤ format.fractionBits := by
      by_cases hzero : significand = 0
      · simp [hzero]
      · exact Nat.le_of_lt ((Nat.log2_lt hzero).mpr hlead)
    simpa [hgap] using Nat.sub_eq_zero_of_le hlog
  · have hpos : 0 < 2 ^ format.fractionBits := Nat.two_pow_pos _
    have hne : significand * 2 ^ gap ≠ 0 :=
      Nat.ne_of_gt (Nat.mul_pos (by omega) (Nat.two_pow_pos gap))
    have hlog : (significand * 2 ^ gap).log2 = format.fractionBits + gap := by
      rw [Nat.log2_eq_iff hne, Nat.pow_add, Nat.add_right_comm, Nat.pow_add]
      constructor
      · exact Nat.mul_le_mul_right _ (by omega)
      · exact Nat.mul_lt_mul_of_pos_right small (Nat.two_pow_pos gap)
    omega

theorem round_steps {magnitude : Nat} (h : magnitude ≤ format.infinity) :
    format.round (format.steps magnitude) 1 = magnitude := by
  rcases format.splits_gapExponent magnitude with ⟨significand, hmagnitude, hsmall, hsplits⟩
  generalize format.gapExponent magnitude = gap at *
  have hsteps : format.steps magnitude = significand * 2 ^ gap := by
    rw [hmagnitude, format.steps_of_splits hsplits]
  have hgap := format.log2_of_splits hsplits hsmall
  have hhalf : roundHalfEven (significand * 2 ^ gap) (1 * 2 ^ gap) = significand := by
    rw [Nat.one_mul, roundHalfEven_mul significand (Nat.two_pow_pos gap)]
  show min format.infinity
    (((format.steps magnitude / 1).log2 - format.fractionBits) * 2 ^ format.fractionBits +
      roundHalfEven (format.steps magnitude)
        (1 * 2 ^ ((format.steps magnitude / 1).log2 - format.fractionBits))) = magnitude
  rw [Nat.div_one, hsteps, hgap, hhalf, ← hmagnitude]
  exact Nat.min_eq_right h

theorem exists_steps_eq (gap : Nat) {significand : Nat}
    (fits : significand ≤ 2 ^ (format.fractionBits + 1)) :
    ∃ magnitude, format.steps magnitude = significand * 2 ^ gap := by
  induction gap generalizing significand with
  | zero =>
      exact ⟨_, format.steps_of_splits ⟨fits, Or.inl rfl⟩⟩
  | succ gap ih =>
      by_cases hlead : 2 ^ format.fractionBits ≤ significand
      · exact ⟨_, format.steps_of_splits ⟨fits, Or.inr hlead⟩⟩
      · have hdouble : 2 ^ (format.fractionBits + 1) = 2 ^ format.fractionBits * 2 :=
          Nat.pow_succ ..
        rcases @ih (significand * 2) (by omega) with ⟨magnitude, hsteps⟩
        refine ⟨magnitude, ?_⟩
        rw [hsteps, Nat.pow_succ]
        ring

theorem steps_round_of_eq_steps {n magnitude : Nat} (h : format.steps magnitude = n)
    (finite : n < format.steps format.infinity) :
    format.steps (format.round n 1) = n ∧ format.round n 1 < format.infinity := by
  have hfinite : magnitude < format.infinity :=
    format.steps_strictMono.lt_iff_lt.mp (h ▸ finite)
  rw [← h, format.round_steps (Nat.le_of_lt hfinite)]
  exact ⟨rfl, hfinite⟩

end Format
end Number
end GameConfig
