import GameConfig.Proofs.Json.FloatText
import GameConfig.Proofs.Json.Meaning
import GameConfig.Proofs.Json.Scaling
import GameConfig.Proofs.Value.Same

/-!
# Doubles read back

The text of a finite double is read as a finite double of the same sign, at most two places away
from it.  Nothing is lost if the digits of the text and the power of ten left for them are doubles
themselves.
-/

namespace GameConfig
namespace Json

open Number

/-!
# Literals read as documents
-/

theorem readDocument_literal {literal : Literal} {v : Value}
    (h : literal.numeral.value = .ok v) : readDocument (String.ofList literal.text) = .ok v := by
  have htext : String.ofList literal.text = (Tree.number literal).text .compact := by
    rw [Tree.text, Tree.write, List.append_nil]
  rw [htext, readDocument_text_iff, Tree.value?_of_scalar (by simp) (by simp), Tree.scalar?, h]
  rfl

/-!
# The value of a double's text
-/

theorem compactText_float {x : Binary64} (hx : x.isFinite = true) :
    (Value.float x).compactText = String.ofList (floatLiteral x hx).text := by
  rw [Value.compactText, writeCompact, List.append_nil, text_floatLiteral]

theorem value_floatNumeral {x : Binary64} (hx : x.isFinite = true) {magnitude : Nat}
    (h : scaleByPower (binary64.ofNat (floatNumeral x).significand) (floatNumeral x).lastPower =
      some magnitude) :
    (floatNumeral x).value = .ok (.float (.ofMagnitude x.isNegative magnitude)) := by
  rcases exists_spells hx with ⟨q, hspells, -⟩
  have hsize : 10 ^ 17 < UInt64.size := by decide
  have hdouble : double? (floatNumeral x).negative (floatNumeral x).significand
      (floatNumeral x).lastPower = some (.float (.ofMagnitude x.isNegative magnitude)) := by
    rw [double?, h, negative_floatNumeral]
    rfl
  exact Numeral.value_of_double? (hspells.bound.trans_lt hsize) hspells.isDouble hspells.power
    hdouble

/-!
# What is kept of a double
-/

theorem ofMagnitude_self (x : Binary64) : Binary64.ofMagnitude x.isNegative x.magnitude = x := by
  have hbits := Binary64.toNat_bits_ofMagnitude x.isNegative x.magnitude_lt_signBit
  have hsign : Binary64.signBit = 2 ^ 63 := rfl
  have hsize := x.bits.toNat_lt
  have hnegative : x.isNegative = decide (Binary64.signBit ≤ x.bits.toNat) := rfl
  have hmagnitude : x.magnitude = x.bits.toNat % Binary64.signBit := rfl
  rw [hnegative, hmagnitude, hsign] at hbits
  rw [Binary64.mk.injEq, ← UInt64.toNat_inj, hnegative, hmagnitude, hsign, hbits]
  simp only [decide_eq_true_eq]
  split <;> omega

theorem scaled_greatest {x : Binary64} (h : binary64.infinity ≤ x.magnitude + 2)
    (hx : x.isFinite = true) :
    scaleByPower (binary64.ofNat (floatNumeral x).significand) (floatNumeral x).lastPower =
      some (binary64.infinity - 1) := by
  have hgreatest : ∀ negative, ∀ m ∈ [binary64.infinity - 2, binary64.infinity - 1],
      let x := Binary64.ofMagnitude negative m
      scaleByPower (binary64.ofNat (floatNumeral x).significand) (floatNumeral x).lastPower =
        some (binary64.infinity - 1) := by
    decide +kernel
  have hfinite := Binary64.isFinite_iff.mp hx
  have hmem : x.magnitude ∈ [binary64.infinity - 2, binary64.infinity - 1] := by
    simp only [List.mem_cons, List.not_mem_nil, or_false]
    omega
  have hscaled := hgreatest x.isNegative x.magnitude hmem
  rwa [ofMagnitude_self] at hscaled

theorem exists_scaled_float {x : Binary64} (hx : x.isFinite = true) :
    ∃ magnitude,
      scaleByPower (binary64.ofNat (floatNumeral x).significand) (floatNumeral x).lastPower =
        some magnitude ∧
      magnitude ≤ x.magnitude + 2 ∧ x.magnitude ≤ magnitude + 2 := by
  have hfinite := Binary64.isFinite_iff.mp hx
  rcases exists_spells hx with ⟨q, hspells, hnearest⟩
  rcases Nat.lt_or_ge (x.magnitude + 2) binary64.infinity with hsmall | hlarge
  · rw [← hnearest, ← hspells.value_eq] at hsmall ⊢
    exact scaleByPower_close hspells.bound hspells.least hsmall
  · refine ⟨binary64.infinity - 1, scaled_greatest hlarge hx, ?_, ?_⟩ <;> omega

theorem steps_ofNat_of_rational {n : Nat} (h : (Binary64.ofInt n).rational = n)
    (hn : n < UInt64.size) : binary64.steps (binary64.ofNat n) = n * binary64.one := by
  have hsign := (ofNat_finite hn).trans Binary64.infinity_lt_signBit
  have hsteps := Binary64.steps_ofMagnitude false hsign
  have hofInt : Binary64.ofInt n = Binary64.ofMagnitude false (binary64.ofNat n) := by
    have hnegative : decide ((n : Int) < 0) = false := decide_eq_false (by omega)
    rw [Binary64.ofInt, hnegative, Int.natAbs_natCast]
  rw [hofInt, Binary64.rational_eq_steps, hsteps, div_eq_iff Binary64.one_pos.ne',
    if_neg Bool.false_ne_true, Int.cast_natCast, ← Nat.cast_mul, Nat.cast_inj] at h
  exact h

/-- The double that the text of a finite one is read for. -/
def readBack (x : Binary64) : Binary64 :=
  let scaled? :=
    scaleByPower (binary64.ofNat (floatNumeral x).significand) (floatNumeral x).lastPower
  .ofMagnitude x.isNegative (scaled?.getD x.magnitude)

theorem value_floatNumeral_readBack {x : Binary64} (hx : x.isFinite = true) :
    (floatNumeral x).value = .ok (.float (readBack x)) := by
  rcases exists_scaled_float hx with ⟨magnitude, hscaled, -⟩
  rw [value_floatNumeral hx hscaled, readBack, hscaled]
  rfl

theorem readDocument_float {x : Binary64} (hx : x.isFinite = true) :
    readDocument (Value.float x).compactText = .ok (.float (readBack x)) := by
  rw [compactText_float hx]
  exact readDocument_literal (value_floatNumeral_readBack hx)

/-- What is read for a finite double is finite, has its sign, and is at most two places away. -/
theorem readBack_close {x : Binary64} (hx : x.isFinite = true) :
    (readBack x).isFinite = true ∧ (readBack x).isNegative = x.isNegative ∧
      (readBack x).magnitude ≤ x.magnitude + 2 ∧ x.magnitude ≤ (readBack x).magnitude + 2 := by
  rcases exists_spells hx with ⟨q, hspells, -⟩
  rcases exists_scaled_float hx with ⟨magnitude, hscaled, hle, hge⟩
  have hfinite : magnitude < binary64.infinity :=
    scaleByPower_finite (ofNat_finite (hspells.bound.trans_lt (by decide))) hscaled
  have hsign := hfinite.trans Binary64.infinity_lt_signBit
  have hread : readBack x = .ofMagnitude x.isNegative magnitude := by
    rw [readBack, hscaled]
    rfl
  rw [hread, Binary64.magnitude_ofMagnitude _ hsign, Binary64.isNegative_ofMagnitude _ hsign]
  exact ⟨isFinite_ofMagnitude _ hfinite, rfl, hle, hge⟩

theorem readBack_of_scaled {x : Binary64}
    (h : scaleByPower (binary64.ofNat (floatNumeral x).significand) (floatNumeral x).lastPower =
      some x.magnitude) : readBack x = x := by
  rw [readBack, h]
  exact ofMagnitude_self x

theorem readBack_of_exact {x : Binary64} (hx : x.isFinite = true)
    (hdigits : (Binary64.ofInt (floatNumeral x).significand).rational =
      (floatNumeral x).significand)
    (hpower : (floatNumeral x).lastPower.natAbs ≤ 22) : readBack x = x := by
  rcases exists_spells hx with ⟨q, hspells, hnearest⟩
  have hexact := steps_ofNat_of_rational hdigits (hspells.bound.trans_lt (by decide))
  have hmeant := scaleByPower_exact hexact hpower
  rw [hspells.value_eq, hnearest] at hmeant
  exact readBack_of_scaled (hmeant (Binary64.isFinite_iff.mp hx))

/-- The text of a finite double is a literal, which is read as a finite double of the same sign, at
most two places away.  It is read as the double itself if its digits, as a whole number, are a
double and the power of ten of the last digit is at most 22 in size, which takes in both zeros,
and if the double is the greatest or the least of all. -/
theorem double_read_back_within_two (x : Binary64) (hx : x.isFinite = true) :
    (Value.float x).compactText = String.ofList (floatLiteral x hx).text ∧
    ∃ y, readDocument (Value.float x).compactText = .ok (.float y) ∧
      y.isFinite = true ∧ y.isNegative = x.isNegative ∧
      y.magnitude ≤ x.magnitude + 2 ∧ x.magnitude ≤ y.magnitude + 2 ∧
      ((Binary64.ofInt (floatNumeral x).significand).rational = (floatNumeral x).significand →
        (floatNumeral x).lastPower.natAbs ≤ 22 → y = x) ∧
      (x.magnitude + 1 = binary64.infinity → y = x) := by
  rcases readBack_close hx with ⟨hfinite, hnegative, hle, hge⟩
  refine ⟨compactText_float hx, readBack x, readDocument_float hx, hfinite, hnegative, hle, hge,
    readBack_of_exact hx, ?_⟩
  intro hgreatest
  apply readBack_of_scaled
  rw [scaled_greatest (by omega) hx, ← hgreatest, Nat.add_sub_cancel]

/-- Two roundings add up to two places.  The negative zero, whose digits are a double, is kept. -/
theorem two_places_away :
    let x : Binary64 := ⟨0x16CDA791D8A50636⟩
    let zero : Binary64 := ⟨0x8000000000000000⟩
    x.isFinite = true ∧ (Value.float x).compactText = "7.7482655031499385e-199" ∧
      readDocument (Value.float x).compactText = .ok (.float ⟨0x16CDA791D8A50638⟩) ∧
      (Binary64.mk 0x16CDA791D8A50638).magnitude = x.magnitude + 2 ∧
      zero.isFinite = true ∧ (Binary64.ofInt (floatNumeral zero).significand).rational =
        (floatNumeral zero).significand ∧
      (floatNumeral zero).lastPower.natAbs ≤ 22 ∧
      readDocument (Value.float zero).compactText = .ok (.float zero) := by
  intro x zero
  have hx : x.isFinite = true := by decide
  have hzero : zero.isFinite = true := by decide
  have hread : readDocument (Value.float x).compactText = .ok (.float ⟨0x16CDA791D8A50638⟩) := by
    decide +kernel
  have hdigits : (floatNumeral zero).significand = 0 := by decide +kernel
  have hpower : (floatNumeral zero).lastPower.natAbs ≤ 22 := by decide +kernel
  have hdouble : (Binary64.ofInt (floatNumeral zero).significand).rational =
      (floatNumeral zero).significand := by
    have hsteps : (Binary64.ofInt (0 : Nat)).steps = 0 := by decide +kernel
    rw [hdigits, Binary64.rational_eq_steps, hsteps, Int.cast_zero, zero_div, Nat.cast_zero]
  rcases double_read_back_within_two zero hzero with ⟨-, y, hy, -, -, -, -, hexact, -⟩
  rw [hexact hdouble hpower] at hy
  exact ⟨hx, by decide +kernel, hread, by decide +kernel, hzero, hdouble, hpower, hy⟩

/-- The greatest odd whole number among the doubles below `2 ^ 53` is read as the one below it: its
text adds a zero, and with it one bit too many for the digits to be a double. -/
theorem odd_double_drifts :
    let x : Binary64 := ⟨0x433FFFFFFFFFFFFF⟩
    x.isFinite = true ∧ (Value.float x).compactText = "9007199254740991.0" ∧
      readDocument (Value.float x).compactText = .ok (.float ⟨0x433FFFFFFFFFFFFE⟩) ∧
      readDocument (Value.float x).compactText ≠ .ok (.float x) := by
  intro x
  have hread : readDocument (Value.float x).compactText = .ok (.float ⟨0x433FFFFFFFFFFFFE⟩) := by
    decide +kernel
  refine ⟨by decide, by decide +kernel, hread, ?_⟩
  rw [hread, ne_eq, Except.ok.injEq, Value.float.injEq]
  decide

end Json
end GameConfig
