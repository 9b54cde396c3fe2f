import GameConfig.Proofs.Number.Bounds
import Mathlib.Data.Rat.Floor
import Mathlib.Tactic.GCongr
import Mathlib.Tactic.Linarith
import Mathlib.Tactic.Positivity

/-!
# The nearest magnitude

The points halfway between neighbouring magnitudes decide rounding: a number goes past a
magnitude if it lies above the halfway point behind it, or on that point if the magnitude is
odd.  So rounding is a function of rational numbers, and the number and its magnitude are at
most half a gap apart.
-/

namespace GameConfig
namespace Number

theorem roundHalfEven_le_iff {num den n : Nat} (hden : 0 < den) :
    roundHalfEven num den ≤ n ↔
      2 * num < (2 * n + 1) * den ∨ 2 * num = (2 * n + 1) * den ∧ n % 2 = 0 := by
  have hdivision := Nat.div_add_mod' num den
  have hremainder := Nat.mod_lt num hden
  unfold roundHalfEven
  dsimp only
  generalize num / den = quotient at *
  generalize num % den = remainder at *
  have hbound : (2 * n + 1) * den = 2 * (n * den) + den := by ring
  rcases Nat.lt_trichotomy quotient n with hless | rfl | hmore
  · have hbelow : (quotient + 1) * den ≤ n * den := Nat.mul_le_mul_right den hless
    rw [Nat.succ_mul] at hbelow
    refine iff_of_true ?_ (Or.inl (by omega))
    split
    · omega
    split <;> omega
  · split
    · omega
    split <;> omega
  · have habove : (n + 1) * den ≤ quotient * den := Nat.mul_le_mul_right den hmore
    rw [Nat.succ_mul] at habove
    refine iff_of_false ?_ (by omega)
    split
    · omega
    split <;> omega

namespace Format

variable (format : Format)

/-!
# Halfway points
-/

theorem round_between {num den gap significand : Nat} (hden : 0 < den)
    (h : format.Splits gap significand) (hsmall : significand < 2 ^ (format.fractionBits + 1))
    (hlow : significand * 2 ^ gap * den ≤ num)
    (hhigh : num < (significand + 1) * 2 ^ gap * den) :
    format.round num den =
      min format.infinity
        (gap * 2 ^ format.fractionBits + roundHalfEven num (den * 2 ^ gap)) := by
  have hquotient : significand * 2 ^ gap ≤ num / den := (Nat.le_div_iff_mul_le hden).mpr hlow
  have habove : num / den < (significand + 1) * 2 ^ gap := (Nat.div_lt_iff_lt_mul hden).mpr hhigh
  have hend : num / den < 2 ^ (format.fractionBits + gap + 1) :=
    calc
      num / den < (significand + 1) * 2 ^ gap := habove
      _ ≤ 2 ^ (format.fractionBits + 1) * 2 ^ gap := Nat.mul_le_mul_right _ hsmall
      _ = 2 ^ (format.fractionBits + gap + 1) := by ring
  have hgap : (num / den).log2 - format.fractionBits = gap := by
    apply Nat.le_antisymm (format.gap_le hend)
    rcases h.full with rfl | hfull
    · exact Nat.zero_le _
    · apply format.le_gap
      rw [Nat.pow_add]
      exact Nat.le_trans (Nat.mul_le_mul_right _ hfull) hquotient
  rw [round_eq, hgap]

theorem mod_two_eq_of_gap {magnitude gap significand : Nat} (hbits : 0 < format.fractionBits)
    (h : magnitude = gap * 2 ^ format.fractionBits + significand) :
    magnitude % 2 = significand % 2 := by
  have hunit : 2 ^ format.fractionBits = 2 * 2 ^ (format.fractionBits - 1) := by
    rw [← Nat.pow_succ', Nat.succ_eq_add_one, Nat.sub_add_cancel hbits]
  rw [h, hunit, Nat.mul_left_comm, Nat.mul_add_mod]

/-- A quotient goes past a finite magnitude from the halfway point behind it on, and from that
point itself if the magnitude is odd. -/
theorem round_le_iff_mul {num den magnitude : Nat} (hbits : 0 < format.fractionBits)
    (hden : 0 < den) (hfinite : magnitude < format.infinity) :
    format.round num den ≤ magnitude ↔
      2 * num < (format.steps magnitude + format.steps (magnitude + 1)) * den ∨
        2 * num = (format.steps magnitude + format.steps (magnitude + 1)) * den ∧
          magnitude % 2 = 0 := by
  rcases format.splits_gapExponent magnitude with ⟨significand, hmagnitude, hsmall, hsplits⟩
  have hsucc := format.steps_succ magnitude
  have hsteps : format.steps magnitude = significand * 2 ^ format.gapExponent magnitude := by
    rw [← format.steps_of_splits hsplits, ← hmagnitude]
  generalize format.gapExponent magnitude = gap at *
  have hscaled : 0 < den * 2 ^ gap := Nat.mul_pos hden (Nat.two_pow_pos gap)
  have hlow : significand * 2 ^ gap * den = significand * (den * 2 ^ gap) := by ring
  have hhigh : (significand + 1) * 2 ^ gap * den =
      significand * (den * 2 ^ gap) + den * 2 ^ gap := by
    ring
  have hmiddle : (format.steps magnitude + format.steps (magnitude + 1)) * den =
      (2 * significand + 1) * (den * 2 ^ gap) := by
    rw [hsucc, hsteps]
    ring
  have hdouble : (2 * significand + 1) * (den * 2 ^ gap) =
      2 * (significand * (den * 2 ^ gap)) + den * 2 ^ gap := by ring
  rw [hmiddle]
  by_cases hbelow : num < significand * 2 ^ gap * den
  · have hround : format.round num den ≤ magnitude :=
      format.round_le hden (by rw [hsteps]; exact hbelow.le)
    refine iff_of_true hround (Or.inl ?_)
    omega
  by_cases habove : (significand + 1) * 2 ^ gap * den ≤ num
  · have hround : magnitude + 1 ≤ format.round num den := by
      apply format.le_round hden hfinite
      rwa [hsucc, hsteps, ← Nat.succ_mul]
    refine iff_of_false (Nat.not_le.mpr hround) ?_
    omega
  · rw [format.round_between hden hsplits hsmall (Nat.le_of_not_lt hbelow)
      (Nat.lt_of_not_le habove), format.mod_two_eq_of_gap hbits hmagnitude,
      ← roundHalfEven_le_iff hscaled]
    omega

theorem one_pos : 0 < format.one :=
  Nat.two_pow_pos _

def halfway (magnitude : Nat) : ℚ :=
  ((format.steps magnitude : ℚ) + format.steps (magnitude + 1)) / 2

def gap (magnitude : Nat) : ℚ :=
  2 ^ format.gapExponent magnitude

theorem gap_pos (magnitude : Nat) : 0 < format.gap magnitude :=
  pow_pos two_pos _

theorem steps_succ_eq (magnitude : Nat) :
    (format.steps (magnitude + 1) : ℚ) = format.steps magnitude + format.gap magnitude := by
  rw [format.steps_succ, gap]
  push_cast
  rfl

theorem halfway_eq (magnitude : Nat) :
    format.halfway magnitude = format.steps magnitude + format.gap magnitude / 2 := by
  rw [halfway, steps_succ_eq]
  ring

theorem steps_lt_halfway (magnitude : Nat) :
    (format.steps magnitude : ℚ) < format.halfway magnitude := by
  rw [halfway_eq]
  linarith [format.gap_pos magnitude]

theorem halfway_lt_steps_succ (magnitude : Nat) :
    format.halfway magnitude < format.steps (magnitude + 1) := by
  rw [halfway_eq, steps_succ_eq]
  linarith [format.gap_pos magnitude]

theorem gap_mono {m n : Nat} (h : m ≤ n) : format.gap m ≤ format.gap n := by
  have hexponent : format.gapExponent m ≤ format.gapExponent n :=
    Nat.sub_le_sub_right (Nat.div_le_div_right h) 1
  exact pow_le_pow_right₀ one_le_two hexponent

/-!
# Rounding rationals
-/

def StopsAt (q : ℚ) (magnitude : Nat) : Prop :=
  q < format.halfway magnitude ∨ q = format.halfway magnitude ∧ magnitude % 2 = 0

def nearest (q : ℚ) : Nat :=
  format.round q.num.natAbs q.den

theorem round_le_iff {num den magnitude : Nat} (hbits : 0 < format.fractionBits)
    (hden : 0 < den) (hfinite : magnitude < format.infinity) :
    format.round num den ≤ magnitude ↔ format.StopsAt (num / den) magnitude := by
  have hpos : (0 : ℚ) < den := by exact_mod_cast hden
  rw [format.round_le_iff_mul hbits hden hfinite, StopsAt, halfway, div_lt_div_iff₀ hpos two_pos,
    div_eq_div_iff hpos.ne' two_ne_zero, mul_comm (num : ℚ) 2]
  exact_mod_cast Iff.rfl

theorem round_le_infinity (num den : Nat) : format.round num den ≤ format.infinity :=
  Nat.min_le_left _ _

theorem nearest_le_infinity (q : ℚ) : format.nearest q ≤ format.infinity :=
  format.round_le_infinity _ _

variable {format} {p q : ℚ} {m : Nat}

theorem num_div_den_of_nonneg (hq : 0 ≤ q) : (q.num.natAbs : ℚ) / q.den = q := by
  have hnum : ((q.num.natAbs : Int) : ℚ) = q.num := by
    rw [Int.natAbs_of_nonneg (Rat.num_nonneg.mpr hq)]
  rw [← Int.cast_natCast, hnum, Rat.num_div_den]

theorem nearest_le_iff (hbits : 0 < format.fractionBits) (hq : 0 ≤ q)
    (hfinite : m < format.infinity) : format.nearest q ≤ m ↔ format.StopsAt q m := by
  rw [nearest, format.round_le_iff hbits q.den_pos hfinite, num_div_den_of_nonneg hq]

theorem round_eq_nearest {num den : Nat} (hbits : 0 < format.fractionBits) (hden : 0 < den) :
    format.round num den = format.nearest (num / den) := by
  have hq : (0 : ℚ) ≤ num / den := by positivity
  have hsame : ∀ m < format.infinity,
      format.round num den ≤ m ↔ format.nearest (num / den) ≤ m := by
    intro m hm
    rw [format.round_le_iff hbits hden hm, nearest_le_iff hbits hq hm]
  apply Nat.le_antisymm
  · rcases (format.nearest_le_infinity (num / den)).eq_or_lt with hinfinite | hfinite
    · rw [hinfinite]
      exact format.round_le_infinity num den
    · exact (hsame _ hfinite).mpr le_rfl
  · rcases (format.round_le_infinity num den).eq_or_lt with hinfinite | hfinite
    · rw [hinfinite]
      exact format.nearest_le_infinity _
    · exact (hsame _ hfinite).mp le_rfl

theorem ofNat_eq_nearest (hbits : 0 < format.fractionBits) (n : Nat) :
    format.ofNat n = format.nearest (n * (format.one : Nat)) := by
  rw [ofNat, round_eq_nearest hbits Nat.one_pos, Nat.cast_one, div_one, Nat.cast_mul]

theorem mul_eq_nearest (hbits : 0 < format.fractionBits) (m n : Nat) :
    format.mul m n = format.nearest (format.steps m * format.steps n / (format.one : Nat)) := by
  rw [mul, round_eq_nearest hbits format.one_pos, Nat.cast_mul]

theorem div_eq_nearest (hbits : 0 < format.fractionBits) (m : Nat) {n : Nat}
    (hn : 0 < format.steps n) :
    format.div m n = format.nearest (format.steps m * (format.one : Nat) / format.steps n) := by
  rw [div, round_eq_nearest hbits hn, Nat.cast_mul]

theorem nearest_steps (hbits : 0 < format.fractionBits) (hm : m ≤ format.infinity) :
    format.nearest (format.steps m) = m := by
  have hround := format.round_steps hm
  rwa [round_eq_nearest hbits Nat.one_pos, Nat.cast_one, div_one] at hround

theorem nearest_zero (hbits : 0 < format.fractionBits) : format.nearest 0 = 0 := by
  have hnone := nearest_steps hbits format.infinity.zero_le
  rwa [format.steps_zero, Nat.cast_zero] at hnone

theorem ofNat_zero (hbits : 0 < format.fractionBits) : format.ofNat 0 = 0 := by
  rw [ofNat_eq_nearest hbits, Nat.cast_zero, zero_mul, nearest_zero hbits]

theorem StopsAt.mono (h : format.StopsAt q m) (hpq : p ≤ q) : format.StopsAt p m := by
  rcases h with hless | ⟨hsame, heven⟩
  · exact Or.inl (hpq.trans_lt hless)
  · rcases hpq.eq_or_lt with rfl | hlt
    · exact Or.inr ⟨hsame, heven⟩
    · exact Or.inl (hsame ▸ hlt)

theorem nearest_mono (hbits : 0 < format.fractionBits) (hp : 0 ≤ p) (hpq : p ≤ q) :
    format.nearest p ≤ format.nearest q := by
  rcases (format.nearest_le_infinity q).eq_or_lt with hinfinite | hfinite
  · rw [hinfinite]
    exact format.nearest_le_infinity p
  · rw [nearest_le_iff hbits hp hfinite]
    exact ((nearest_le_iff hbits (hp.trans hpq) hfinite).mp le_rfl).mono hpq

/-- The numbers that are rounded to a magnitude form an interval, whose ends belong to it if the
magnitude is even. -/
theorem nearest_succ_iff (hbits : 0 < format.fractionBits) (hq : 0 ≤ q)
    (hfinite : m + 1 < format.infinity) :
    format.nearest q = m + 1 ↔
      if (m + 1) % 2 = 0 then format.halfway m ≤ q ∧ q ≤ format.halfway (m + 1)
      else format.halfway m < q ∧ q < format.halfway (m + 1) := by
  have hsplit : format.nearest q = m + 1 ↔
      ¬ format.nearest q ≤ m ∧ format.nearest q ≤ m + 1 := by
    omega
  rw [hsplit, nearest_le_iff hbits hq (Nat.lt_of_succ_lt hfinite),
    nearest_le_iff hbits hq hfinite, StopsAt, StopsAt]
  by_cases heven : (m + 1) % 2 = 0
  · have hodd : m % 2 ≠ 0 := by omega
    simp only [heven, hodd, if_true, and_true, and_false, or_false, not_lt, le_iff_lt_or_eq]
  · have hodd : m % 2 = 0 := by omega
    rw [if_neg heven]
    simp only [heven, hodd, and_true, and_false, or_false, ← le_iff_lt_or_eq, not_le]

theorem halfway_nonneg (format : Format) (m : Nat) : 0 ≤ format.halfway m := by
  unfold halfway
  positivity

theorem nearest_eq_of_between (hbits : 0 < format.fractionBits)
    (hfinite : m + 1 < format.infinity) (hlow : format.halfway m < q)
    (hhigh : q < format.halfway (m + 1)) : format.nearest q = m + 1 := by
  rw [nearest_succ_iff hbits ((format.halfway_nonneg m).trans hlow.le) hfinite]
  split
  · exact ⟨hlow.le, hhigh.le⟩
  · exact ⟨hlow, hhigh⟩

/-!
# The error of rounding
-/

theorem steps_two_pow : format.steps (2 ^ format.fractionBits) = 2 ^ format.fractionBits := by
  have hsplits : format.Splits 0 (2 ^ format.fractionBits) :=
    ⟨Nat.pow_le_pow_right two_pos (Nat.le_succ _), Or.inl rfl⟩
  have hsteps := format.steps_of_splits hsplits
  rwa [Nat.zero_mul, Nat.zero_add, Nat.pow_zero, Nat.mul_one] at hsteps

theorem mul_gap_le_steps (hnormal : 2 ^ format.fractionBits ≤ m) :
    2 ^ format.fractionBits * format.gap m ≤ format.steps m := by
  rcases format.splits_gapExponent m with ⟨significand, hm, -, hsplits⟩
  have hlead : 2 ^ format.fractionBits ≤ significand := by
    rcases hsplits.full with hgap | hfull
    · rw [hgap, Nat.zero_mul, Nat.zero_add] at hm
      rwa [← hm]
    · exact hfull
  have hsteps := format.steps_of_splits hsplits
  rw [← hm] at hsteps
  rw [hsteps, gap]
  exact_mod_cast Nat.mul_le_mul_right _ hlead

theorem steps_succ_le (format : Format) (m : Nat) :
    format.steps (m + 1) ≤ 2 ^ (format.fractionBits + 1) * format.gap m := by
  rcases format.splits_gapExponent m with ⟨significand, hm, hsmall, hsplits⟩
  have hsteps := format.steps_of_splits hsplits
  rw [← hm] at hsteps
  rw [steps_succ_eq, hsteps, gap]
  exact_mod_cast (Nat.succ_mul _ _).symm.trans_le (Nat.mul_le_mul_right _ hsmall)

theorem add_mul_gap_le_steps (format : Format) (m count : Nat) :
    format.steps m + count * format.gap m ≤ format.steps (m + count) := by
  induction count with
  | zero => simp
  | succ count ih =>
      have hgap := format.gap_mono (Nat.le_add_right m count)
      rw [← Nat.add_assoc, steps_succ_eq]
      push_cast
      linarith

theorem mul_le_of_le_half_gap {error : ℚ} (hm : 2 ^ format.fractionBits ≤ m)
    (herror : error ≤ format.gap m / 2) (hq : (format.steps m : ℚ) ≤ q) :
    2 ^ (format.fractionBits + 1) * error ≤ q := by
  calc
    2 ^ (format.fractionBits + 1) * error ≤
        2 ^ (format.fractionBits + 1) * (format.gap m / 2) := by gcongr
    _ = 2 ^ format.fractionBits * format.gap m := by ring
    _ ≤ q := (mul_gap_le_steps hm).trans hq

section Error

variable (hbits : 0 < format.fractionBits) (hq : 0 ≤ q)
  (hfinite : format.nearest q < format.infinity)

include hbits hq hfinite

theorem le_halfway_nearest : q ≤ format.halfway (format.nearest q) := by
  rcases (nearest_le_iff hbits hq hfinite).mp le_rfl with hless | ⟨hsame, -⟩
  · exact hless.le
  · exact hsame.le

theorem halfway_le_of_lt_nearest (hm : m < format.nearest q) : format.halfway m ≤ q := by
  have hpast : ¬ format.StopsAt q m := by
    rw [← nearest_le_iff hbits hq (hm.trans hfinite)]
    exact Nat.not_le.mpr hm
  exact le_of_not_gt fun hless => hpast (Or.inl hless)

theorem abs_sub_steps_nearest_le :
    |q - format.steps (format.nearest q)| ≤ format.gap (format.nearest q) / 2 := by
  have habove := le_halfway_nearest hbits hq hfinite
  rw [halfway_eq] at habove
  rw [abs_sub_le_iff]
  refine ⟨by linarith, ?_⟩
  cases hnearest : format.nearest q with
  | zero =>
      have hpos := format.gap_pos 0
      rw [steps_zero, Nat.cast_zero]
      linarith
  | succ m =>
      have hbelow : format.halfway m ≤ q :=
        halfway_le_of_lt_nearest hbits hq hfinite (hnearest ▸ Nat.lt_succ_self m)
      have hgap := format.gap_mono (Nat.le_succ m)
      rw [halfway_eq] at hbelow
      rw [steps_succ_eq]
      linarith

theorem lt_gap_nearest : q < 2 ^ (format.fractionBits + 1) * format.gap (format.nearest q) :=
  calc
    q ≤ format.halfway (format.nearest q) := le_halfway_nearest hbits hq hfinite
    _ < format.steps (format.nearest q + 1) := format.halfway_lt_steps_succ _
    _ ≤ 2 ^ (format.fractionBits + 1) * format.gap (format.nearest q) := format.steps_succ_le _

theorem mul_abs_sub_steps_nearest_le (hnormal : 2 ^ format.fractionBits ≤ q) :
    2 ^ (format.fractionBits + 1) * |q - format.steps (format.nearest q)| ≤
      min q (format.steps (format.nearest q)) := by
  have hleast : (format.steps (2 ^ format.fractionBits) : ℚ) ≤ q := by
    rw [steps_two_pow]
    exact_mod_cast hnormal
  -- The gap that lies below both is that of the magnitude, or the one before it.
  have habove := le_halfway_nearest hbits hq hfinite
  rw [halfway_eq] at habove
  rcases le_or_gt (format.steps (format.nearest q) : ℚ) q with hle | hgt
  · have hlow : 2 ^ format.fractionBits ≤ format.nearest q := by
      by_contra hlow
      have hnext := format.steps_strictMono.monotone (Nat.lt_of_not_le hlow)
      have hbelow : (format.steps (format.nearest q + 1) : ℚ) ≤ q :=
        (Nat.cast_le.mpr hnext).trans hleast
      rw [steps_succ_eq] at hbelow
      linarith [format.gap_pos (format.nearest q)]
    refine mul_le_of_le_half_gap hlow ?_ (le_min hle le_rfl)
    rw [abs_of_nonneg (sub_nonneg.mpr hle)]
    linarith
  · have hlow : 2 ^ format.fractionBits < format.nearest q := by
      rw [← format.steps_strictMono.lt_iff_lt]
      exact_mod_cast hleast.trans_lt hgt
    obtain ⟨m, hm⟩ := Nat.exists_eq_add_one.mpr ((Nat.zero_le _).trans_lt hlow)
    have hbelow : format.halfway m ≤ q :=
      halfway_le_of_lt_nearest hbits hq hfinite (hm ▸ Nat.lt_succ_self m)
    have hpos := format.gap_pos m
    rw [halfway_eq] at hbelow
    refine mul_le_of_le_half_gap (m := m) (by omega) ?_ (le_min (by linarith) ?_)
    · rw [abs_of_neg (sub_neg.mpr hgt), hm, steps_succ_eq]
      linarith
    · rw [hm, steps_succ_eq]
      linarith

end Error

/-- Numbers that are few gaps apart have magnitudes that are as few places apart. -/
theorem nearest_le_add (hbits : 0 < format.fractionBits) (hp : 0 ≤ p) (hq : 0 ≤ q) {count : Nat}
    (h : q < p + count * format.gap (format.nearest p)) :
    format.nearest q ≤ format.nearest p + count := by
  rcases Nat.lt_or_ge (format.nearest p + count) format.infinity with hfinite | hinfinite
  · have hm : format.nearest p < format.infinity :=
      (Nat.le_add_right _ _).trans_lt hfinite
    have hhalfway := le_halfway_nearest hbits hp hm
    have hgap := format.gap_mono (Nat.le_add_right (format.nearest p) count)
    have hsteps := add_mul_gap_le_steps format (format.nearest p) count
    rw [nearest_le_iff hbits hq hfinite]
    refine Or.inl (h.trans_le ?_)
    rw [halfway_eq] at hhalfway ⊢
    linarith
  · exact (format.nearest_le_infinity q).trans hinfinite

end Format
end Number
end GameConfig
