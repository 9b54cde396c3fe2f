import GameConfig.Proofs.Number.Rational

/-!
# Wide words against doubles

The floor of a finite double is a double again, so nothing is lost when it is taken.
Once the two range tests have let a floor pass, cutting it to a wide word loses nothing
either, and the fraction above the floor decides a tie.
-/

namespace GameConfig
namespace Number
namespace Binary64

/-!
# The floor of a double
-/

theorem natAbs_steps (x : Binary64) : x.steps.natAbs = binary64.steps x.magnitude := by
  unfold steps
  split <;> simp

theorem natAbs_ediv_le {a : Int} {b s : Nat} (hb : 0 < b) (h : a.natAbs ≤ s * b) :
    (a / (b : Int)).natAbs ≤ s := by
  have hb' : (0 : Int) < b := by omega
  have h' : (a.natAbs : Int) ≤ (s : Int) * b := by exact_mod_cast h
  have hupper : a ≤ (s : Int) * b := by omega
  have hlower : -(s : Int) * b ≤ a := by
    rw [Int.neg_mul]
    omega
  have hle := Int.ediv_le_of_le_mul hb' hupper
  have hge := Int.le_ediv_of_mul_le hb' hlower
  omega

theorem exists_steps_floor {x : Binary64} (h : x.isFinite = true) :
    ∃ magnitude,
      binary64.steps magnitude = (x.steps / (binary64.one : Int)).natAbs * binary64.one ∧
      binary64.steps magnitude < binary64.steps binary64.infinity := by
  have hone : 0 < binary64.one := by
    rw [one_eq_pow]
    exact Nat.two_pow_pos _
  rcases binary64.splits_gapExponent x.magnitude with ⟨significand, hmagnitude, hsmall, hsplits⟩
  generalize binary64.gapExponent x.magnitude = gap at *
  have hsteps : x.steps.natAbs = significand * 2 ^ gap := by
    rw [natAbs_steps, hmagnitude, binary64.steps_of_splits hsplits]
  by_cases hgap : binary64.unitExponent ≤ gap
  -- The gap is at least one: the double is whole.
  · have hdvd : (binary64.one : Int) ∣ x.steps := by
      rw [Int.natCast_dvd, hsteps, one_eq_pow]
      exact Dvd.dvd.mul_left (Nat.pow_dvd_pow 2 hgap) significand
    refine ⟨x.magnitude, ?_, binary64.steps_strictMono (isFinite_iff.mp h)⟩
    rw [← natAbs_steps, ← Int.natAbs_natCast binary64.one, ← Int.natAbs_mul,
      Int.natAbs_natCast, Int.ediv_mul_cancel hdvd]
  -- The gap is less than one: the whole part is no larger than the significand.
  · have hpow : 2 ^ gap ≤ binary64.one := by
      rw [one_eq_pow]
      exact Nat.pow_le_pow_right (by decide) (by omega)
    have hbound : (x.steps / (binary64.one : Int)).natAbs ≤ significand := by
      apply natAbs_ediv_le hone
      rw [hsteps]
      exact Nat.mul_le_mul_left significand hpow
    rcases binary64.exists_steps_eq binary64.unitExponent
      (Nat.le_of_lt (Nat.lt_of_le_of_lt hbound hsmall)) with ⟨magnitude, hwhole⟩
    rw [← one_eq_pow] at hwhole
    refine ⟨magnitude, hwhole, ?_⟩
    rw [hwhole]
    calc
      (x.steps / (binary64.one : Int)).natAbs * binary64.one ≤
          2 ^ (binary64.fractionBits + 1) * binary64.one :=
        Nat.mul_le_mul_right _ (Nat.le_trans hbound (Nat.le_of_lt hsmall))
      _ < binary64.steps binary64.infinity := by decide +kernel

theorem floor_of_isFinite {x : Binary64} (h : x.isFinite = true) :
    x.floor.isFinite = true ∧
      x.floor.steps = x.steps / (binary64.one : Int) * (binary64.one : Int) := by
  rcases exists_steps_floor h with ⟨magnitude, hsteps, hlimit⟩
  have hrounded := binary64.steps_round_of_eq_steps hsteps (hsteps ▸ hlimit)
  rw [← Format.ofNat] at hrounded
  have hsign := Nat.lt_trans hrounded.right infinity_lt_signBit
  rw [floor, if_pos h, isFinite_iff, magnitude_ofMagnitude _ hsign, steps_ofMagnitude _ hsign,
    hrounded.left]
  refine ⟨hrounded.right, ?_⟩
  have hone : (0 : Int) < binary64.one := by exact_mod_cast one_pos
  cases hnegative : x.isNegative with
  | true =>
      have hle : x.steps / (binary64.one : Int) ≤ 0 :=
        Int.ediv_le_of_le_mul hone (by rw [Int.zero_mul]; simp [steps, hnegative])
      rw [if_pos rfl, Nat.cast_mul, Int.ofNat_natAbs_of_nonpos hle, Int.neg_mul, Int.neg_neg]
  | false =>
      have hge : 0 ≤ x.steps / (binary64.one : Int) :=
        Int.ediv_nonneg (by simp [steps, hnegative]) (Int.le_of_lt hone)
      rw [if_neg (by simp), Nat.cast_mul, Int.natAbs_of_nonneg hge]

theorem ediv_one_eq_floor (x : Binary64) : x.steps / (binary64.one : Int) = ⌊x.rational⌋ := by
  rw [rational_eq_steps, Rat.floor_intCast_div_natCast]

theorem rational_floor {x : Binary64} (h : x.isFinite = true) :
    x.floor.rational = (⌊x.rational⌋ : ℚ) := by
  rw [rational_eq_steps, (floor_of_isFinite h).right, ediv_one_eq_floor, Int.cast_mul,
    Int.cast_natCast]
  exact mul_div_cancel_right₀ _ one_pos.ne'

/-!
# Range tests and the cut
-/

theorem lt_iff {x y : Binary64} (hx : x.isNaN = false) (hy : y.isNaN = false) :
    x.lt y = true ↔ x.extended < y.extended := by
  rw [lt, compare_of_isNaN_eq_false hx hy, beq_iff_eq, Option.some.injEq, cmp_eq_lt_iff]

theorem le_iff {x y : Binary64} (hx : x.isNaN = false) (hy : y.isNaN = false) :
    x.le y = true ↔ x.extended ≤ y.extended := by
  rw [le, compare_of_isNaN_eq_false hx hy, Bool.or_eq_true, beq_iff_eq, beq_iff_eq,
    Option.some.injEq, Option.some.injEq, cmp_eq_lt_iff, cmp_eq_eq_iff, le_iff_lt_or_eq]

theorem lt_of_isFinite {x y : Binary64} (hx : x.isFinite = true) (hy : y.isFinite = true) :
    x.lt y = true ↔ x.rational < y.rational := by
  rw [lt_iff (isNaN_of_isFinite hx) (isNaN_of_isFinite hy), extended_of_isFinite hx,
    extended_of_isFinite hy, WithBotTop.coe_lt_coe]

theorem le_of_isFinite {x y : Binary64} (hx : x.isFinite = true) (hy : y.isFinite = true) :
    x.le y = true ↔ x.rational ≤ y.rational := by
  rw [le_iff (isNaN_of_isFinite hx) (isNaN_of_isFinite hy), extended_of_isFinite hx,
    extended_of_isFinite hy, WithBotTop.coe_le_coe]

theorem wideLimit_eq : wideLimit = 2 ^ 127 := rfl

theorem wideBound_isFinite : wideBound.isFinite = true := by decide +kernel

theorem rational_wideBound : wideBound.rational = wideLimit := by
  have hsteps : wideBound.steps = wideLimit * (binary64.one : Int) := by decide +kernel
  rw [rational_eq_steps, hsteps, Int.cast_mul, Int.cast_natCast]
  exact mul_div_cancel_right₀ _ one_pos.ne'

theorem isFinite_neg (x : Binary64) : x.neg.isFinite = x.isFinite := by
  simp [isFinite, magnitude_neg]

theorem rational_neg (x : Binary64) : x.neg.rational = -x.rational := by
  rw [rational_eq_steps, rational_eq_steps, steps_neg, Int.cast_neg, neg_div]

theorem orderByRange?_of_isFinite {x : Binary64} (h : x.isFinite = true) :
    x.orderByRange? =
      if wideLimit ≤ ⌊x.rational⌋ then some .lt
      else if ⌊x.rational⌋ < -wideLimit then some .gt
      else none := by
  have hfloor := (floor_of_isFinite h).left
  have hupper : wideBound.le x.floor = true ↔ wideLimit ≤ ⌊x.rational⌋ := by
    rw [le_of_isFinite wideBound_isFinite hfloor, rational_wideBound, rational_floor h,
      Int.cast_le]
  have hlower : x.floor.lt wideBound.neg = true ↔ ⌊x.rational⌋ < -wideLimit := by
    rw [lt_of_isFinite hfloor (wideBound.isFinite_neg.trans wideBound_isFinite), rational_neg,
      rational_wideBound, rational_floor h, ← Int.cast_neg, Int.cast_lt]
  unfold orderByRange?
  simp only [hupper, hlower]

theorem orderByRange?_of_infinite {x : Binary64} (hx : x.isNaN = false)
    (h : x.isFinite = false) :
    x.orderByRange? = if x.isNegative then some .gt else some .lt := by
  have hfloor : x.floor = x := if_neg (by simp [h])
  have hbound := isNaN_of_isFinite wideBound_isFinite
  have hneg := wideBound.isFinite_neg.trans wideBound_isFinite
  have hupper := le_iff hbound hx
  have hlower := lt_iff hx (isNaN_of_isFinite hneg)
  rw [extended_of_isFinite wideBound_isFinite, extended_of_infinite h] at hupper
  rw [extended_of_isFinite hneg, extended_of_infinite h] at hlower
  unfold orderByRange?
  rw [hfloor]
  cases hnegative : x.isNegative with
  | true =>
      simp only [hnegative, if_true] at hupper hlower
      simp [hupper, hlower]
  | false =>
      simp only [hnegative, Bool.false_eq_true, if_false] at hupper
      simp [hupper]

/-- A double whose floor is cut to a wide word when it is compared with one. -/
def IsCut (x : Binary64) : Prop :=
  x.isNaN = false ∧ x.orderByRange? = none

theorem toWide_floor {x : Binary64} (hcut : x.IsCut) :
    x.isFinite = true ∧ x.floor.toWide = ⌊x.rational⌋ := by
  rcases hcut with ⟨hx, h⟩
  cases hfinite : x.isFinite with
  | false =>
      rw [orderByRange?_of_infinite hx hfinite] at h
      split at h <;> cases h
  | true =>
      rw [orderByRange?_of_isFinite hfinite] at h
      have hfloor := floor_of_isFinite hfinite
      have hone : (binary64.one : Int) ≠ 0 := by exact_mod_cast one_pos.ne'
      rw [toWide, isNaN_of_isFinite hfloor.left, hfloor.left, hfloor.right,
        Int.mul_tdiv_cancel _ hone, ediv_one_eq_floor]
      refine ⟨rfl, ?_⟩
      split at h
      · cases h
      · split at h
        · cases h
        · simp only [Bool.false_eq_true, if_false, if_true]
          omega

/-!
# The comparison
-/

/-- An integer is compared with a rational by its floor and, when that ties, by what the
rational has above it. -/
theorem cmp_intCast (n : Int) (q : ℚ) :
    cmp (n : ℚ) q = (Ord.compare n ⌊q⌋).then (if (⌊q⌋ : ℚ) < q then .lt else .eq) := by
  rcases lt_trichotomy n ⌊q⌋ with hlt | heq | hgt
  · have hq : (n : ℚ) < q := lt_of_lt_of_le (Int.cast_lt.mpr hlt) (Int.floor_le q)
    rw [(compare_lt_iff_lt).mpr hlt, (cmp_eq_lt_iff _ _).mpr hq]
    rfl
  · rw [compare_eq_iff_eq.mpr heq, Ordering.eq_then, ← heq]
    by_cases hfraction : (n : ℚ) < q
    · rw [if_pos hfraction, (cmp_eq_lt_iff _ _).mpr hfraction]
    · have hq : (n : ℚ) = q :=
        le_antisymm (heq ▸ Int.floor_le q) (not_lt.mp hfraction)
      rw [if_neg hfraction, (cmp_eq_eq_iff _ _).mpr hq]
  · have hq : q < n := Int.floor_lt.mp hgt
    rw [(compare_gt_iff_gt).mpr hgt, (cmp_eq_gt_iff _ _).mpr hq]
    rfl

/-- A double is cut to a word exactly if its order with every whole number is that of the word
and, where that ties, of what the double has above its floor. -/
theorem isCut_iff {x : Binary64} :
    x.IsCut ↔ ∀ n, compareInt n x =
      some ((Ord.compare n x.floor.toWide).then (if x.floor.lt x then .lt else .eq)) := by
  constructor
  · intro hcut n
    rw [compareInt, if_neg (by simp [hcut.left]), hcut.right]
    cases Ord.compare n x.floor.toWide <;> rfl
  · intro h
    have habove := h (x.floor.toWide + 1)
    have hbelow := h (x.floor.toWide - 1)
    rw [compare_gt_iff_gt.mpr (by omega)] at habove
    rw [compare_lt_iff_lt.mpr (by omega)] at hbelow
    -- Where nothing is cut, all whole numbers are in the same order with the double.
    by_contra hcut
    have hsame : compareInt (x.floor.toWide + 1) x = compareInt (x.floor.toWide - 1) x := by
      unfold compareInt
      split
      · rfl
      · rename_i hnumber
        cases hrange : x.orderByRange? with
        | some order => rfl
        | none => exact absurd ⟨by simpa using hnumber, hrange⟩ hcut
    rw [habove, hbelow] at hsame
    cases hsame

theorem compareInt_of_infinite (n : Int) {x : Binary64} (hx : x.isNaN = false)
    (h : x.isFinite = false) :
    compareInt n x = x.extended?.map (cmp ((n : ℚ) : Extended)) := by
  have htop : cmp ((n : ℚ) : Extended) ⊤ = .lt :=
    (cmp_eq_lt_iff _ _).mpr (Extended.coe_lt_top _)
  have hbot : cmp ((n : ℚ) : Extended) ⊥ = .gt :=
    (cmp_eq_gt_iff _ _).mpr (Extended.bot_lt_coe _)
  rw [compareInt, if_neg (by simp [hx]), orderByRange?_of_infinite hx h,
    extended?_of_isNaN_eq_false hx, extended_of_infinite h]
  cases x.isNegative with
  | true => exact congrArg some hbot.symm
  | false => exact congrArg some htop.symm

theorem compareInt_of_isFinite {n : Int} (hlow : -wideLimit ≤ n) (hhigh : n < wideLimit)
    {x : Binary64} (h : x.isFinite = true) :
    compareInt n x = some (cmp (n : ℚ) x.rational) := by
  have hx := isNaN_of_isFinite h
  have hfloor := Int.floor_le x.rational
  cases hrange : x.orderByRange? with
  | some order =>
      rw [compareInt, if_neg (by simp [hx]), hrange]
      rw [orderByRange?_of_isFinite h] at hrange
      split at hrange
      · rename_i habove
        have hlt : (n : ℚ) < x.rational :=
          lt_of_lt_of_le (Int.cast_lt.mpr (by omega)) hfloor
        rw [(cmp_eq_lt_iff _ _).mpr hlt, ← hrange]
      · split at hrange
        · rename_i hbelow
          have hgt : x.rational < n := Int.floor_lt.mp (by omega)
          rw [(cmp_eq_gt_iff _ _).mpr hgt, ← hrange]
        · cases hrange
  | none =>
      have htie : x.floor.lt x = true ↔ (⌊x.rational⌋ : ℚ) < x.rational := by
        rw [lt_of_isFinite (floor_of_isFinite h).left h, rational_floor h]
      rw [isCut_iff.mp ⟨hx, hrange⟩, (toWide_floor ⟨hx, hrange⟩).right, cmp_intCast]
      simp only [htie]

/-- The order of a wide word and a double is the order of the word and the number that the
double stands for. -/
theorem compareInt_eq_map {n : Int} (hlow : -wideLimit ≤ n) (hhigh : n < wideLimit)
    (x : Binary64) :
    compareInt n x = x.extended?.map (cmp ((n : ℚ) : Extended)) := by
  cases hx : x.isNaN with
  | true =>
      rw [compareInt, extended?, if_pos hx, if_pos hx, Option.map_none]
  | false =>
      cases h : x.isFinite with
      | false =>
          exact compareInt_of_infinite n hx h
      | true =>
          rw [compareInt_of_isFinite hlow hhigh h, extended?_of_isFinite h, Option.map_some,
            Extended.cmp_coe]

end Binary64
end Number
end GameConfig
