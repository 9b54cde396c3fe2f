import GameConfig.Proofs.Number.Steps

/-!
# Bounds of rounding

Rounding never passes a magnitude: what is at most as large as a magnitude is rounded to at
most that magnitude, and the same from below.  Where both stand on grids of the same gap,
their significands are compared; where the gaps differ, a power of two lies between them.
-/

namespace GameConfig
namespace Number

/-!
# The nearest integer
-/

theorem roundHalfEven_le {num den n : Nat} (hden : 0 < den) (h : num ≤ n * den) :
    roundHalfEven num den ≤ n := by
  have hdivision := Nat.div_add_mod' num den
  have hquotient : num / den ≤ n := Nat.div_le_of_le_mul (by rwa [Nat.mul_comm])
  unfold roundHalfEven
  rcases Nat.eq_or_lt_of_le hquotient with hn | hn
  · have hremainder : num % den = 0 := by
      rw [hn] at hdivision
      omega
    simp only [hremainder, Nat.mul_zero, hden, if_true]
    exact hquotient
  · dsimp only
    split
    · exact hquotient
    split
    · exact hn
    · omega

theorem le_roundHalfEven {num den n : Nat} (hden : 0 < den) (h : n * den ≤ num) :
    n ≤ roundHalfEven num den := by
  have hquotient : n ≤ num / den := (Nat.le_div_iff_mul_le hden).mpr h
  unfold roundHalfEven
  dsimp only
  split
  · exact hquotient
  split <;> omega

namespace Format

variable (format : Format)

/-!
# Gaps of quotients
-/

theorem gap_le {n gap : Nat} (h : n < 2 ^ (format.fractionBits + gap + 1)) :
    n.log2 - format.fractionBits ≤ gap := by
  by_cases hzero : n = 0
  · simp [hzero]
  · have hlog := (Nat.log2_lt hzero).mpr h
    omega

theorem le_gap {n gap : Nat} (h : 2 ^ (format.fractionBits + gap) ≤ n) :
    gap ≤ n.log2 - format.fractionBits := by
  have hzero : n ≠ 0 := Nat.ne_of_gt (Nat.lt_of_lt_of_le (Nat.two_pow_pos _) h)
  have hlog := (Nat.le_log2 hzero).mpr h
  omega

theorem lt_of_gap (n : Nat) :
    n < 2 ^ (format.fractionBits + (n.log2 - format.fractionBits) + 1) := by
  have hlog : n < 2 ^ (n.log2 + 1) := Nat.lt_log2_self
  exact Nat.lt_of_lt_of_le hlog (Nat.pow_le_pow_right (by decide) (by omega))

theorem le_of_gap_pos {n : Nat} (h : 0 < n.log2 - format.fractionBits) :
    2 ^ (format.fractionBits + (n.log2 - format.fractionBits)) ≤ n := by
  have hzero : n ≠ 0 := by
    rintro rfl
    simp at h
  have hlog : 2 ^ n.log2 ≤ n := Nat.log2_self_le hzero
  rwa [Nat.add_sub_cancel' (by omega)]

/-!
# Rounding against a magnitude
-/

theorem round_eq (num den : Nat) :
    format.round num den =
      min format.infinity
        (((num / den).log2 - format.fractionBits) * 2 ^ format.fractionBits +
          roundHalfEven num (den * 2 ^ ((num / den).log2 - format.fractionBits))) := rfl

theorem exists_grid (magnitude : Nat) :
    ∃ bound significand, magnitude = bound * 2 ^ format.fractionBits + significand ∧
      significand < 2 ^ (format.fractionBits + 1) ∧
      (bound = 0 ∨ 2 ^ format.fractionBits ≤ significand) ∧
      format.steps magnitude = significand * 2 ^ bound := by
  rcases format.splits_gapExponent magnitude with ⟨significand, hmagnitude, hsmall, hsplits⟩
  refine ⟨format.gapExponent magnitude, significand, hmagnitude, hsmall, hsplits.full, ?_⟩
  rw [← format.steps_of_splits hsplits, ← hmagnitude]

theorem grid_le {gap bound low high : Nat} (h : gap < bound)
    (hlow : low ≤ 2 ^ (format.fractionBits + 1)) (hhigh : 2 ^ format.fractionBits ≤ high) :
    gap * 2 ^ format.fractionBits + low ≤ bound * 2 ^ format.fractionBits + high :=
  calc
    gap * 2 ^ format.fractionBits + low ≤
        gap * 2 ^ format.fractionBits + 2 ^ (format.fractionBits + 1) :=
      Nat.add_le_add_left hlow _
    _ = (gap + 1) * 2 ^ format.fractionBits + 2 ^ format.fractionBits := by ring
    _ ≤ bound * 2 ^ format.fractionBits + high :=
      Nat.add_le_add (Nat.mul_le_mul_right _ h) hhigh

theorem round_le {num den magnitude : Nat} (hden : 0 < den)
    (h : num ≤ format.steps magnitude * den) : format.round num den ≤ magnitude := by
  rcases format.exists_grid magnitude with ⟨bound, significand, hmagnitude, hsmall, hfull, hsteps⟩
  have hquotient : num / den ≤ significand * 2 ^ bound :=
    Nat.div_le_of_le_mul (by rwa [Nat.mul_comm, ← hsteps])
  have hgap : (num / den).log2 - format.fractionBits ≤ bound := by
    apply format.gap_le
    calc
      num / den ≤ significand * 2 ^ bound := hquotient
      _ < 2 ^ (format.fractionBits + 1) * 2 ^ bound :=
        Nat.mul_lt_mul_of_pos_right hsmall (Nat.two_pow_pos bound)
      _ = 2 ^ (format.fractionBits + bound + 1) := by ring
  have hend := format.lt_of_gap (num / den)
  rw [round_eq]
  refine Nat.le_trans (Nat.min_le_right _ _) ?_
  generalize (num / den).log2 - format.fractionBits = gap at *
  have hscaled : 0 < den * 2 ^ gap := Nat.mul_pos hden (Nat.two_pow_pos gap)
  rcases Nat.eq_or_lt_of_le hgap with hsame | hless
  · subst hsame
    have hhalf : roundHalfEven num (den * 2 ^ gap) ≤ significand := by
      apply roundHalfEven_le hscaled
      rw [hsteps] at h
      calc
        num ≤ significand * 2 ^ gap * den := h
        _ = significand * (den * 2 ^ gap) := by ring
    omega
  · have hhalf : roundHalfEven num (den * 2 ^ gap) ≤ 2 ^ (format.fractionBits + 1) := by
      apply roundHalfEven_le hscaled
      have hdivision : num < (num / den + 1) * den := by
        rw [Nat.mul_comm]
        exact Nat.lt_mul_div_succ num hden
      calc
        num ≤ (num / den + 1) * den := Nat.le_of_lt hdivision
        _ ≤ 2 ^ (format.fractionBits + gap + 1) * den := Nat.mul_le_mul_right den hend
        _ = 2 ^ (format.fractionBits + 1) * (den * 2 ^ gap) := by ring
    rw [hmagnitude]
    exact format.grid_le hless hhalf (hfull.resolve_left (Nat.ne_zero_of_lt hless))

theorem le_round {num den magnitude : Nat} (hden : 0 < den) (hinf : magnitude ≤ format.infinity)
    (h : format.steps magnitude * den ≤ num) : magnitude ≤ format.round num den := by
  rcases format.exists_grid magnitude with ⟨bound, significand, hmagnitude, hsmall, hfull, hsteps⟩
  have hquotient : significand * 2 ^ bound ≤ num / den := by
    rwa [← hsteps, Nat.le_div_iff_mul_le hden]
  have hgap : bound ≤ (num / den).log2 - format.fractionBits := by
    rcases hfull with hzero | hfull
    · omega
    · apply format.le_gap
      rw [Nat.pow_add]
      exact Nat.le_trans (Nat.mul_le_mul_right _ hfull) hquotient
  have hstart := @format.le_of_gap_pos (num / den)
  rw [round_eq]
  refine Nat.le_min.mpr ⟨hinf, ?_⟩
  generalize (num / den).log2 - format.fractionBits = gap at *
  have hscaled : 0 < den * 2 ^ gap := Nat.mul_pos hden (Nat.two_pow_pos gap)
  rcases Nat.eq_or_lt_of_le hgap with hsame | hless
  · subst hsame
    have hhalf : significand ≤ roundHalfEven num (den * 2 ^ bound) := by
      apply le_roundHalfEven hscaled
      rw [hsteps] at h
      calc
        significand * (den * 2 ^ bound) = significand * 2 ^ bound * den := by ring
        _ ≤ num := h
    omega
  · have hhalf : 2 ^ format.fractionBits ≤ roundHalfEven num (den * 2 ^ gap) := by
      apply le_roundHalfEven hscaled
      calc
        2 ^ format.fractionBits * (den * 2 ^ gap) = 2 ^ (format.fractionBits + gap) * den := by
          ring
        _ ≤ num / den * den := Nat.mul_le_mul_right den (hstart (by omega))
        _ ≤ num := Nat.div_mul_le_self num den
    rw [hmagnitude]
    exact format.grid_le hless hsmall.le hhalf

/-!
# Quotients and whole numbers
-/

theorem div_le {a b : Nat} (h : format.one ≤ format.steps b) : format.div a b ≤ a := by
  have hone : 0 < format.one := Nat.two_pow_pos _
  exact format.round_le (Nat.lt_of_lt_of_le hone h) (Nat.mul_le_mul_left _ h)

theorem ofNat_le {n magnitude : Nat} (h : n * format.one ≤ format.steps magnitude) :
    format.ofNat n ≤ magnitude := by
  apply format.round_le Nat.one_pos
  rwa [Nat.mul_one]

theorem le_ofNat {n magnitude : Nat} (hinf : magnitude ≤ format.infinity)
    (h : format.steps magnitude ≤ n * format.one) : magnitude ≤ format.ofNat n := by
  apply format.le_round Nat.one_pos hinf
  rwa [Nat.mul_one]

end Format
end Number
end GameConfig
