import GameConfig.Number.Binary64
import GameConfig.Proofs.Number.Steps
import Mathlib.Data.Rat.Floor
import Mathlib.Order.WithBotTop
import Mathlib.Order.Compare
import Mathlib.Tactic.FieldSimp
import Mathlib.Tactic.Linarith
import Mathlib.Tactic.Positivity

/-!
# The numbers that doubles stand for

A finite double stands for the dyadic rational that its fields spell, and the two
infinite ones for the ends of the rationals.  The order of doubles is the order of
these numbers, and the order of a wide word and a double is that of the word and the
number: every step of it, the cut to a wide word included, is exact where it is made.
-/

namespace GameConfig
namespace Number
namespace Binary64

/-- The number of a finite double: the fraction above an implicit one, times the power of
two of the exponent field.  An empty exponent field has no implicit one. -/
def rational (x : Binary64) : ℚ :=
  let exponent : Nat := x.bits.toNat / 2 ^ 52 % 2 ^ 11
  let fraction : ℚ := (x.bits.toNat % 2 ^ 52 : Nat) / 2 ^ 52
  let size : ℚ :=
    if exponent = 0 then fraction * 2 ^ (-1022 : ℤ)
    else (1 + fraction) * 2 ^ ((exponent : ℤ) - 1023)
  if x.isNegative then -size else size

abbrev Extended : Type := WithBotTop ℚ

def extended (x : Binary64) : Extended :=
  if x.isFinite then (x.rational : Extended)
  else if x.isNegative then ⊥
  else ⊤

def extended? (x : Binary64) : Option Extended :=
  if x.isNaN then none else some x.extended

namespace Extended

theorem bot_lt_coe (q : ℚ) : (⊥ : Extended) < q :=
  WithBot.bot_lt_coe _

theorem coe_lt_top (q : ℚ) : (q : Extended) < ⊤ :=
  WithBot.coe_lt_coe.mpr (WithTop.coe_lt_top q)

theorem coe_eq_zero {q : ℚ} : (q : Extended) = 0 ↔ q = 0 :=
  WithBotTop.coe_injective.eq_iff' rfl

theorem cmp_coe (p q : ℚ) : cmp (p : Extended) q = cmp p q :=
  WithBotTop.coe_strictMono.cmp_map_eq p q

end Extended

/-!
# Sign and magnitude
-/

theorem infinity_pos : 0 < binary64.infinity := by decide

theorem infinity_lt_signBit : binary64.infinity < signBit := by decide

theorem magnitude_lt_signBit (x : Binary64) : x.magnitude < signBit :=
  Nat.mod_lt _ (by decide)

theorem isFinite_iff {x : Binary64} : x.isFinite = true ↔ x.magnitude < binary64.infinity := by
  simp [isFinite]

theorem isNaN_of_isFinite {x : Binary64} (h : x.isFinite = true) : x.isNaN = false := by
  rw [isFinite_iff] at h
  simpa [isNaN] using Nat.le_of_lt h

theorem toNat_bits_ofMagnitude (negative : Bool) {magnitude : Nat} (h : magnitude < signBit) :
    (ofMagnitude negative magnitude).bits.toNat =
      if negative then signBit + magnitude else magnitude := by
  have hsign : signBit = 2 ^ 63 := rfl
  cases negative <;> simp only [ofMagnitude, UInt64.toNat_ofNat'] <;>
    exact Nat.mod_eq_of_lt (by simp; omega)

theorem magnitude_ofMagnitude (negative : Bool) {magnitude : Nat} (h : magnitude < signBit) :
    (ofMagnitude negative magnitude).magnitude = magnitude := by
  unfold Binary64.magnitude
  rw [toNat_bits_ofMagnitude negative h]
  cases negative
  · exact Nat.mod_eq_of_lt h
  · simp [Nat.mod_eq_of_lt h]

theorem isNegative_ofMagnitude (negative : Bool) {magnitude : Nat} (h : magnitude < signBit) :
    (ofMagnitude negative magnitude).isNegative = negative := by
  unfold isNegative
  rw [toNat_bits_ofMagnitude negative h]
  cases negative <;> simp [h]

theorem steps_ofMagnitude (negative : Bool) {magnitude : Nat} (h : magnitude < signBit) :
    (ofMagnitude negative magnitude).steps =
      if negative then -(binary64.steps magnitude : Int) else binary64.steps magnitude := by
  rw [steps, isNegative_ofMagnitude negative h, magnitude_ofMagnitude negative h]

theorem magnitude_neg (x : Binary64) : x.neg.magnitude = x.magnitude :=
  magnitude_ofMagnitude _ x.magnitude_lt_signBit

theorem isNegative_neg (x : Binary64) : x.neg.isNegative = !x.isNegative :=
  isNegative_ofMagnitude _ x.magnitude_lt_signBit

theorem steps_neg (x : Binary64) : x.neg.steps = -x.steps := by
  rw [steps, steps, isNegative_neg, magnitude_neg]
  cases x.isNegative <;> simp

/-!
# Order of doubles
-/

theorem rank_lt_rank_iff (x y : Binary64) : x.rank < y.rank ↔ x.steps < y.steps := by
  have hlt := binary64.steps_strictMono.lt_iff_lt (a := x.magnitude) (b := y.magnitude)
  have hgt := binary64.steps_strictMono.lt_iff_lt (a := y.magnitude) (b := x.magnitude)
  have hx := binary64.steps_strictMono.lt_iff_lt (a := 0) (b := x.magnitude)
  have hy := binary64.steps_strictMono.lt_iff_lt (a := 0) (b := y.magnitude)
  rw [Format.steps_zero] at hx hy
  unfold rank steps
  split <;> split <;> omega

theorem one_eq_pow : binary64.one = 2 ^ binary64.unitExponent := by
  rw [Format.one, Nat.pow_eq]

theorem one_pos : (0 : ℚ) < (binary64.one : Nat) := by
  rw [one_eq_pow]
  positivity

theorem one_eq_div : ((binary64.one : Nat) : ℚ) = 2 ^ 52 / 2 ^ (-1022 : ℤ) := by
  have hexponent : (binary64.unitExponent : ℤ) = (52 : Nat) - -1022 := by decide
  rw [one_eq_pow, Nat.cast_pow, ← zpow_natCast, hexponent, ← zpow_natCast,
    ← zpow_sub₀ (by norm_num)]
  rfl

theorem steps_div_one (magnitude : Nat) :
    (binary64.steps magnitude : ℚ) / (binary64.one : Nat) =
      if magnitude / 2 ^ 52 = 0 then
        ((magnitude % 2 ^ 52 : Nat) : ℚ) / 2 ^ 52 * 2 ^ (-1022 : ℤ)
      else
        (1 + ((magnitude % 2 ^ 52 : Nat) : ℚ) / 2 ^ 52) *
          2 ^ (((magnitude / 2 ^ 52 : Nat) : ℤ) - 1023) := by
  have hfractionBits : binary64.fractionBits = 52 := rfl
  rw [one_eq_div, binary64.steps_eq, hfractionBits]
  generalize magnitude % 2 ^ 52 = fraction
  generalize hsmallest : (2 : ℚ) ^ (-1022 : ℤ) = smallest
  have hpos : 0 < smallest := hsmallest ▸ zpow_pos (by norm_num) _
  cases magnitude / 2 ^ 52 with
  | zero =>
      rw [if_pos rfl, if_pos rfl]
      field_simp
  | succ gap =>
      have hgap : ((gap + 1 : Nat) : ℤ) - 1023 = (gap : ℤ) + -1022 := by
        push_cast
        ring
      rw [if_neg (Nat.succ_ne_zero gap), if_neg (Nat.succ_ne_zero gap), hgap,
        zpow_add₀ (by norm_num), zpow_natCast, hsmallest, Nat.add_sub_cancel]
      push_cast
      field_simp
      norm_num

theorem rational_eq_steps (x : Binary64) : x.rational = x.steps / (binary64.one : Nat) := by
  have hexponent : x.magnitude / 2 ^ 52 = x.bits.toNat / 2 ^ 52 % 2 ^ 11 := by
    show x.bits.toNat % 2 ^ 63 / 2 ^ 52 = _
    omega
  have hfraction : x.magnitude % 2 ^ 52 = x.bits.toNat % 2 ^ 52 := by
    show x.bits.toNat % 2 ^ 63 % 2 ^ 52 = _
    omega
  have hsize := steps_div_one x.magnitude
  rw [hexponent, hfraction] at hsize
  unfold rational steps
  cases x.isNegative with
  | true =>
      simp only [if_true, Int.cast_neg, Int.cast_natCast, neg_div]
      rw [hsize]
  | false =>
      simp only [Bool.false_eq_true, if_false, Int.cast_natCast]
      rw [hsize]

/-!
# The order of doubles is the order of their numbers
-/

theorem rational_lt_iff (x y : Binary64) : x.rational < y.rational ↔ x.rank < y.rank := by
  rw [rational_eq_steps, rational_eq_steps, div_lt_div_iff_of_pos_right one_pos, Int.cast_lt,
    rank_lt_rank_iff]

theorem extended_of_isFinite {x : Binary64} (h : x.isFinite = true) :
    x.extended = (x.rational : Extended) :=
  if_pos h

theorem extended_of_infinite {x : Binary64} (h : x.isFinite = false) :
    x.extended = if x.isNegative then ⊥ else ⊤ :=
  if_neg (by simp [h])

theorem extended?_of_isNaN_eq_false {x : Binary64} (h : x.isNaN = false) :
    x.extended? = some x.extended := by
  simp [extended?, h]

theorem extended?_of_isFinite {x : Binary64} (h : x.isFinite = true) :
    x.extended? = some (x.rational : Extended) := by
  rw [extended?_of_isNaN_eq_false (isNaN_of_isFinite h), extended_of_isFinite h]

theorem extended?_eq_none_iff {x : Binary64} : x.extended? = none ↔ x.isNaN = true := by
  cases h : x.isNaN <;> simp [extended?, h]

theorem magnitude_of_infinite {x : Binary64} (hx : x.isNaN = false)
    (h : x.isFinite = false) : x.magnitude = binary64.infinity := by
  simp only [isNaN, isFinite, decide_eq_false_iff_not] at hx h
  omega

theorem rank_of_infinite {x : Binary64} (hx : x.isNaN = false) (h : x.isFinite = false) :
    x.rank = if x.isNegative then -(binary64.infinity : Int) else binary64.infinity := by
  rw [rank, magnitude_of_infinite hx h]

theorem extended_lt_iff {x y : Binary64} (hx : x.isNaN = false) (hy : y.isNaN = false) :
    x.extended < y.extended ↔ x.rank < y.rank := by
  have rank_lt : ∀ {z : Binary64}, z.isFinite = true →
      -(binary64.infinity : Int) < z.rank ∧ z.rank < binary64.infinity := by
    intro z hz
    rw [isFinite_iff] at hz
    unfold rank
    split <;> omega
  cases hfx : x.isFinite with
  | true =>
      have hbound := rank_lt hfx
      cases hfy : y.isFinite with
      | true =>
          rw [extended_of_isFinite hfx, extended_of_isFinite hfy, WithBotTop.coe_lt_coe,
            rational_lt_iff]
      | false =>
          rw [extended_of_isFinite hfx, extended_of_infinite hfy, rank_of_infinite hy hfy]
          cases y.isNegative with
          | true => simpa using Int.le_of_lt hbound.left
          | false => exact iff_of_true (Extended.coe_lt_top _) hbound.right
  | false =>
      rw [extended_of_infinite hfx, rank_of_infinite hx hfx]
      cases hfy : y.isFinite with
      | true =>
          have hbound := rank_lt hfy
          rw [extended_of_isFinite hfy]
          cases x.isNegative with
          | true => exact iff_of_true (Extended.bot_lt_coe _) hbound.left
          | false => simpa using Int.le_of_lt hbound.right
      | false =>
          rw [extended_of_infinite hfy, rank_of_infinite hy hfy]
          cases x.isNegative <;> cases y.isNegative <;> simp [infinity_pos]

theorem isZero_iff {x : Binary64} (hx : x.isNaN = false) :
    x.isZero = true ↔ x.extended = 0 := by
  have hmagnitude : x.isZero = true ↔ x.magnitude = 0 := by simp [isZero]
  rw [hmagnitude]
  cases h : x.isFinite with
  | true =>
      have hsteps : x.steps = 0 ↔ x.magnitude = 0 := by
        rw [← binary64.steps_strictMono.injective.eq_iff, Format.steps_zero]
        unfold steps
        split <;> omega
      rw [extended_of_isFinite h, Extended.coe_eq_zero, rational_eq_steps, div_eq_zero_iff,
        or_iff_left one_pos.ne', Int.cast_eq_zero, hsteps]
  | false =>
      rw [extended_of_infinite h, magnitude_of_infinite hx h]
      refine iff_of_false infinity_pos.ne' ?_
      cases x.isNegative <;> decide

theorem compare_of_isNaN_eq_false {x y : Binary64} (hx : x.isNaN = false)
    (hy : y.isNaN = false) : compare x y = some (cmp x.extended y.extended) := by
  rw [compare, if_neg (by simp [hx, hy]), ← cmp_eq_compare]
  unfold cmp cmpUsing
  simp only [extended_lt_iff hx hy, extended_lt_iff hy hx]

/-- Two doubles are in the order of the numbers they stand for, and without an order only
when one of them stands for none. -/
theorem compare_eq_map₂ (x y : Binary64) :
    compare x y = Option.map₂ cmp x.extended? y.extended? := by
  cases hx : x.isNaN with
  | true =>
      rw [extended?_eq_none_iff.mpr hx, Option.map₂_none_left, compare, if_pos (by simp [hx])]
  | false =>
      cases hy : y.isNaN with
      | true =>
          rw [extended?_eq_none_iff.mpr hy, Option.map₂_none_right, compare,
            if_pos (by simp [hy])]
      | false =>
          rw [compare_of_isNaN_eq_false hx hy, extended?_of_isNaN_eq_false hx,
            extended?_of_isNaN_eq_false hy, Option.map₂_some_some]

end Binary64
end Number
end GameConfig
