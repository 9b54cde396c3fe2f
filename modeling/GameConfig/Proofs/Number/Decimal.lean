import GameConfig.Proofs.Json.Numeral
import GameConfig.Proofs.Number.Digits
import GameConfig.Proofs.Number.Shortest
import Mathlib.Data.List.TakeWhile

/-!
# Decimals

A decimal is a whole number, spelled by its digits, and the power of ten of its last digit.
Stripping zeros from the end of the digits keeps the number they stand for.  So the digits that
are found for a double spell a decimal that is rounded to it.
-/

namespace GameConfig
namespace Number

/-!
# Digits without trailing zeros
-/

theorem exists_trailing_zeros (digits : List Char) :
    ∃ count, digits =
      (digits.reverse.dropWhile (· == '0')).reverse ++ List.replicate count '0' := by
  have hzeros : digits.reverse.takeWhile (· == '0') =
      List.replicate (digits.reverse.takeWhile (· == '0')).length '0' := by
    rw [List.eq_replicate_iff]
    refine ⟨rfl, fun c hc => ?_⟩
    simpa using List.mem_takeWhile_imp hc
  refine ⟨(digits.reverse.takeWhile (· == '0')).length, ?_⟩
  rw [← List.reverse_replicate, ← hzeros, ← List.reverse_append, List.takeWhile_append_dropWhile,
    List.reverse_reverse]

theorem decimalValue_append (front behind : List Char) :
    decimalValue (front ++ behind) =
      decimalValue front * 10 ^ behind.length + decimalValue behind := by
  rw [decimalValue_eq_ofDigitChars, decimalValue_eq_ofDigitChars, decimalValue_eq_ofDigitChars,
    Nat.ofDigitChars_append, Nat.ofDigitChars_eq_ofDigitChars_zero, Nat.mul_comm]

theorem decimalValue_replicate_zero (count : Nat) :
    decimalValue (List.replicate count '0') = 0 := by
  rw [decimalValue_eq_ofDigitChars, Nat.ofDigitChars_replicate_zero, Nat.mul_zero]

namespace Decimal

def significand (d : Decimal) : Nat :=
  decimalValue d.digits

def lastPower (d : Decimal) : Int :=
  d.exponent + 1 - d.digits.length

structure WellFormed (d : Decimal) : Prop where
  nonempty : d.digits ≠ []
  digits : ∀ c ∈ d.digits, isDigit c = true
  lead : d.digits.head? ≠ some '0'

theorem ofScaled_spec {n : Nat} (hn : 0 < n) (power : Int) :
    (ofScaled n power).WellFormed ∧ ∃ count : Nat,
      (ofScaled n power).significand * 10 ^ count = n ∧
        (ofScaled n power).digits.length + count = (Nat.toDigits 10 n).length ∧
          (ofScaled n power).lastPower = power + count := by
  rcases exists_trailing_zeros (Nat.toDigits 10 n) with ⟨count, hdigits⟩
  have hstripped : (ofScaled n power).digits =
      ((Nat.toDigits 10 n).reverse.dropWhile (· == '0')).reverse := rfl
  rw [← hstripped] at hdigits
  have hvalue : (ofScaled n power).significand * 10 ^ count = n := by
    have hall : decimalValue (Nat.toDigits 10 n) = n := by
      rw [decimalValue_eq_ofDigitChars, Nat.ofDigitChars_ten_toDigits]
    rw [hdigits, decimalValue_append, decimalValue_replicate_zero, List.length_replicate,
      Nat.add_zero] at hall
    exact hall
  have hpower : (ofScaled n power).exponent = power + (Nat.toDigits 10 n).length - 1 := rfl
  have hlength := congrArg List.length hdigits
  rw [List.length_append, List.length_replicate] at hlength
  have hnonempty : (ofScaled n power).digits ≠ [] := by
    intro hempty
    rw [significand, hempty] at hvalue
    simp [decimalValue] at hvalue
    omega
  refine ⟨⟨hnonempty, ?_, ?_⟩, count, hvalue, hlength.symm, ?_⟩
  · intro c hc
    have hmem : c ∈ Nat.toDigits 10 n := by
      rw [hdigits]
      exact List.mem_append_left _ hc
    exact Nat.isDigit_of_mem_toDigits (by decide) (by decide) hmem
  · have hhead := Json.head_toDigits_ne_zero hn
    rwa [hdigits, List.head?_append_of_ne_nil _ hnonempty] at hhead
  · rw [lastPower, hpower, hlength]
    omega

theorem le_of_nearest_lt {n : Nat} {power : Int} (hn : 0 < n)
    (h : binary64.nearest (n * 10 ^ power * (binary64.one : Nat)) < binary64.infinity) :
    power ≤ 308 := by
  by_contra hlarge
  have hbeyond : binary64.steps binary64.infinity ≤ 10 ^ 309 * binary64.one := by decide +kernel
  have hbeyond' : (binary64.steps binary64.infinity : ℚ) ≤ 10 ^ 309 * (binary64.one : Nat) := by
    exact_mod_cast hbeyond
  have hten : (10 : ℚ) ^ 309 ≤ n * 10 ^ power := by
    have hpower : (10 : ℚ) ^ ((309 : Nat) : Int) ≤ 10 ^ power :=
      zpow_le_zpow_right₀ (by norm_num) (by omega)
    rw [zpow_natCast] at hpower
    have hone : (1 : ℚ) ≤ n := by exact_mod_cast hn
    exact hpower.trans (le_mul_of_one_le_left (zpow_nonneg (by norm_num) _) hone)
  have hlarger := hbeyond'.trans (mul_le_mul_of_nonneg_right hten (Nat.cast_nonneg _))
  have hmono : binary64.nearest (binary64.steps binary64.infinity) ≤ _ :=
    Format.nearest_mono (by decide) (Nat.cast_nonneg _) hlarger
  rw [Format.nearest_steps (by decide) le_rfl] at hmono
  omega

structure InRange (d : Decimal) : Prop extends d.WellFormed where
  length : d.digits.length ≤ 18
  bound : d.significand ≤ 10 ^ 17
  least : -324 ≤ d.lastPower
  greatest : d.lastPower ≤ 308

/-- The digits of a double spell a decimal that is rounded to it. -/
theorem shortest_spec (tie : Tie) {magnitude : Nat} (hpos : 0 < magnitude)
    (hfinite : magnitude < binary64.infinity) :
    (shortest tie magnitude).InRange ∧
      binary64.nearest ((shortest tie magnitude).significand *
        10 ^ (shortest tie magnitude).lastPower * (binary64.one : Nat)) = magnitude := by
  rcases exists_shortest tie hpos hfinite with ⟨n, power, hshortest, hn, hpower, hnearest⟩
  generalize shortest tie magnitude = d at *
  have hn' : 0 < n := by
    by_contra hzero
    rw [Nat.eq_zero_of_not_pos hzero, Nat.cast_zero, zero_mul, zero_mul] at hnearest
    have hzero : binary64.nearest 0 = 0 := by decide
    omega
  rcases ofScaled_spec hn' power with ⟨hwellFormed, count, hvalue, hlength, hlast⟩
  rw [← hshortest] at hwellFormed hvalue hlast hlength
  have hdigits : (Nat.toDigits 10 n).length ≤ 18 :=
    (Nat.length_toDigits_le_iff (by decide) (by decide)).mpr (by omega)
  have hsame : (d.significand : ℚ) * 10 ^ d.lastPower = n * 10 ^ power := by
    rw [hlast, ← hvalue, zpow_add₀ (by norm_num), zpow_natCast]
    push_cast
    ring
  have hround : binary64.nearest (d.significand * 10 ^ d.lastPower * (binary64.one : Nat)) =
      magnitude := by
    rw [hsame]
    exact hnearest
  have hpos' : 0 < d.significand := by
    by_contra hzero
    rw [Nat.eq_zero_of_not_pos hzero, Nat.zero_mul] at hvalue
    omega
  refine ⟨⟨hwellFormed, by omega, ?_, by omega, le_of_nearest_lt hpos' (hround.trans_lt hfinite)⟩,
    hround⟩
  exact (Nat.le_mul_of_pos_right _ (Nat.pow_pos (by decide))).trans (hvalue.trans_le hn)

end Decimal
end Number
end GameConfig
