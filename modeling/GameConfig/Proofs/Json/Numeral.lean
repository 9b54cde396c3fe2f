import GameConfig.Proofs.Json.Literal
import Mathlib.Data.Nat.Digits.Defs

/-!
# Whole numbers read back

The digits of a whole number are a numeral without fraction and power, and all of them fit
the unsigned word in which digits are collected.  So every whole number of a document is
read back exactly, as an integer if it fits a signed word.
-/

namespace GameConfig
namespace Json

open Number

/-!
# Digits of natural numbers
-/

theorem head_toDigits_ne_zero {n : Nat} (h : 0 < n) : (Nat.toDigits 10 n).head? ≠ some '0' := by
  induction n using Nat.strongRecOn with
  | ind n ih =>
      rw [Nat.toDigits_eq_if (by decide)]
      split
      · rename_i hlt
        have hdigits : ∀ m < 10, 0 < m → [Nat.digitChar m].head? ≠ some '0' := by
          decide
        exact hdigits n hlt h
      · have hfront := ih (n / 10) (by omega) (by omega)
        cases hdigits : Nat.toDigits 10 (n / 10) with
        | nil => exact absurd hdigits Nat.toDigits_ne_nil
        | cons c digits =>
            rw [hdigits] at hfront
            exact hfront

theorem exists_toDigits_eq_cons (n : Nat) :
    ∃ c digits, Nat.toDigits 10 n = c :: digits ∧ isDigit c = true ∧
      (∀ d ∈ digits, isDigit d = true) ∧ (c = '0' → digits = []) := by
  have hall : ∀ d ∈ Nat.toDigits 10 n, isDigit d = true := by
    intro d hd
    exact Nat.isDigit_of_mem_toDigits (by decide) (by decide) hd
  cases hdigits : Nat.toDigits 10 n with
  | nil => exact absurd hdigits Nat.toDigits_ne_nil
  | cons c digits =>
      rw [hdigits, List.forall_mem_cons] at hall
      refine ⟨c, digits, rfl, hall.left, hall.right, ?_⟩
      rintro rfl
      cases n with
      | zero =>
          rw [Nat.toDigits_zero] at hdigits
          cases hdigits
          rfl
      | succ n =>
          have hhead := head_toDigits_ne_zero (Nat.succ_pos n)
          rw [hdigits] at hhead
          exact absurd rfl hhead

/-!
# The numeral of a whole number
-/

def naturalNumeral (negative : Bool) (n : Nat) : Numeral :=
  ⟨negative, Nat.toDigits 10 n, [], none⟩

theorem wellFormed_naturalNumeral (negative : Bool) (n : Nat) :
    (naturalNumeral negative n).WellFormed := by
  rcases exists_toDigits_eq_cons n with ⟨c, digits, hn, hc, hdigits, hzero⟩
  constructor
  · exact Nat.toDigits_ne_nil
  · rw [naturalNumeral, hn]
    exact List.forall_mem_cons.mpr ⟨hc, hdigits⟩
  · rw [naturalNumeral, hn]
    intro hfirst
    cases hfirst
    rw [hzero rfl]
  · exact List.forall_mem_nil _
  · exact nofun

def wholeLiteral (n : Int) : Literal :=
  ⟨naturalNumeral (decide (n < 0)) n.natAbs, false, false, wellFormed_naturalNumeral _ _⟩

theorem text_wholeLiteral (n : Int) : (wholeLiteral n).text = integerText n := by
  show (if decide (n < 0) = true then '-' :: (Nat.toDigits 10 n.natAbs ++ ([] ++ []))
    else Nat.toDigits 10 n.natAbs ++ ([] ++ [])) = integerText n
  simp [integerText]

/-!
# Its value
-/

theorem collect_eq {digits : List Char} {n : Nat}
    (h : Nat.ofDigitChars 10 digits n < UInt64.size) :
    collect n digits = (Nat.ofDigitChars 10 digits n, []) := by
  induction digits generalizing n with
  | nil => rfl
  | cons c digits ih =>
      rw [Nat.ofDigitChars_cons, Nat.mul_comm] at h ⊢
      have hle : n * 10 + digitValue c < UInt64.size := by
        rw [Nat.ofDigitChars_eq_ofDigitChars_zero] at h
        have hpow := Nat.one_le_pow digits.length 10 (by decide)
        calc n * 10 + digitValue c
            ≤ 10 ^ digits.length * (n * 10 + digitValue c) := Nat.le_mul_of_pos_left _ hpow
          _ < UInt64.size := by
            unfold digitValue
            omega
      rw [collect, if_pos hle]
      exact ih h

theorem value_naturalNumeral (negative : Bool) {n : Nat} (h : n < UInt64.size) :
    (naturalNumeral negative n).value = .ok (wholeValue negative n) := by
  have hcollect : collect 0 (Nat.toDigits 10 n) = (n, []) := by
    rw [collect_eq] <;> rw [Nat.ofDigitChars_ten_toDigits]
    exact h
  rw [Numeral.value]
  simp only [naturalNumeral, Numeral.collected, hcollect, collect, and_self, if_true]

theorem natAbs_toInt_lt (n : Int64) : n.toInt.natAbs < UInt64.size := by
  have hlow := n.le_toInt
  have hhigh := n.toInt_lt
  have hsize : UInt64.size = 18446744073709551616 := rfl
  omega

theorem wholeValue_integer (n : Int64) :
    wholeValue (decide (n.toInt < 0)) n.toInt.natAbs = .integer n := by
  have hlow := n.le_toInt
  have hhigh := n.toInt_lt
  have hlimit : signedLimit = 9223372036854775808 := by
    decide
  by_cases hn : n.toInt < 0
  · have hfits : 0 < n.toInt.natAbs ∧ n.toInt.natAbs ≤ signedLimit := by
      omega
    have hvalue : -(n.toInt.natAbs : Int) = n.toInt := by
      omega
    simp only [wholeValue, hn, decide_true, if_true, hfits, and_self, hvalue, Int64.ofInt_toInt]
  · have hfits : n.toInt.natAbs < signedLimit := by
      omega
    have hvalue : (n.toInt.natAbs : Int) = n.toInt := by
      omega
    simp only [wholeValue, hn, decide_false, Bool.false_eq_true, if_false, hfits, if_true]
    rw [← Int64.ofInt_eq_ofNat, hvalue, Int64.ofInt_toInt]

theorem wholeValue_unsigned (n : UInt64) :
    wholeValue false n.toNat =
      if n.toNat < signedLimit then .integer (Int64.ofNat n.toNat) else .unsigned n := by
  rw [wholeValue, UInt64.ofNat_toNat]
  rfl

end Json
end GameConfig
