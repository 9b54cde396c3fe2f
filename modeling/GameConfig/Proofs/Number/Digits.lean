import GameConfig.Number.Digits
import Mathlib.Algebra.Ring.Nat

/-!
# Digits and their values

A run of decimal digits spells one number, which its length bounds.  The hexadecimal digits are
described by their place among the sixteen, apart from how they are read.
-/

namespace GameConfig
namespace Number

/-!
# Decimal digits
-/

theorem decimalValue_eq_ofDigitChars (digits : List Char) :
    decimalValue digits = Nat.ofDigitChars 10 digits 0 := by
  have hstep : (fun n c => n * 10 + digitValue c) =
      fun (n : Nat) (c : Char) => 10 * n + (c.toNat - '0'.toNat) := by
    funext n c
    rw [digitValue, Nat.mul_comm]
  rw [decimalValue, Nat.ofDigitChars, hstep]

theorem ofDigitChars_lt {digits : List Char} (h : ∀ c ∈ digits, c.isDigit = true) :
    Nat.ofDigitChars 10 digits 0 < 10 ^ digits.length := by
  induction digits with
  | nil => exact Nat.one_pos
  | cons c rest ih =>
      rw [List.forall_mem_cons] at h
      have hvalue : c.toNat - '0'.toNat ≤ 9 :=
        Nat.sub_le_sub_right (Char.isDigit_iff_toNat.mp h.left).right _
      rw [Nat.ofDigitChars_cons, Nat.ofDigitChars_eq_ofDigitChars_zero, Nat.mul_zero,
        Nat.zero_add, List.length_cons, Nat.pow_succ]
      calc 10 ^ rest.length * (c.toNat - '0'.toNat) + Nat.ofDigitChars 10 rest 0
          < 10 ^ rest.length * 9 + 10 ^ rest.length :=
            Nat.add_lt_add_of_le_of_lt (Nat.mul_le_mul_left _ hvalue) (ih h.right)
        _ = 10 ^ rest.length * 10 := (Nat.mul_succ _ 9).symm

/-!
# Hexadecimal digits
-/

def hexDigits : List Char :=
  "0123456789abcdef".toList

def IsHexDigit (c : Char) : Prop :=
  c.toLower ∈ hexDigits

instance : DecidablePred IsHexDigit :=
  fun c => inferInstanceAs (Decidable (c.toLower ∈ hexDigits))

def hexDigitValue (c : Char) : Nat :=
  hexDigits.idxOf c.toLower

theorem hexDigitValue_lt {c : Char} (h : IsHexDigit c) : hexDigitValue c < 16 :=
  List.idxOf_lt_length_iff.mpr h

theorem forall_ascii {P : Char → Prop} (h : ∀ n < 128, P (Char.ofNat n)) :
    ∀ c : Char, c.toNat < 128 → P c := by
  intro c hc
  have hn := h c.toNat hc
  rwa [Char.ofNat_toNat] at hn

theorem toLower_of_not_ascii {c : Char} (hc : 128 ≤ c.toNat) : c.toLower = c := by
  unfold Char.toLower
  split
  · rename_i hcapital
    have hle : c.toNat ≤ 'Z'.toNat := hcapital.right
    exact absurd (Nat.le_trans hc hle) (by decide)
  · rfl

theorem not_isHexDigit_of_not_ascii {c : Char} (hc : 128 ≤ c.toNat) : ¬ IsHexDigit c := by
  intro h
  have hdigits : hexDigits.all (fun d => d.toNat < 128) = true := by
    decide
  have hsmall := of_decide_eq_true (List.all_eq_true.mp hdigits c.toLower h)
  rw [toLower_of_not_ascii hc] at hsmall
  exact absurd hc (Nat.not_le.mpr hsmall)

theorem hexValue?_of_not_ascii {c : Char} (hc : 128 ≤ c.toNat) : hexValue? c = none := by
  have hnot : ∀ d : Char, d.toNat < 128 → ¬ c ≤ d := by
    intro d hd hle
    exact absurd (Nat.le_trans hc hle) (Nat.not_le.mpr hd)
  rw [hexValue?, if_neg fun h => hnot '9' (by decide) h.right,
    if_neg fun h => hnot 'f' (by decide) h.right, if_neg fun h => hnot 'F' (by decide) h.right]

theorem hexValue?_eq (c : Char) :
    hexValue? c = if IsHexDigit c then some (hexDigitValue c) else none := by
  have hascii : ∀ c : Char, c.toNat < 128 →
      hexValue? c = if IsHexDigit c then some (hexDigitValue c) else none :=
    forall_ascii (by decide +kernel)
  by_cases hc : c.toNat < 128
  · exact hascii c hc
  · have hlarge : 128 ≤ c.toNat := Nat.not_lt.mp hc
    rw [hexValue?_of_not_ascii hlarge, if_neg (not_isHexDigit_of_not_ascii hlarge)]

theorem hexValue?_eq_some_iff {c : Char} {n : Nat} :
    hexValue? c = some n ↔ IsHexDigit c ∧ hexDigitValue c = n := by
  rw [hexValue?_eq]
  split <;> simp [*]

end Number
end GameConfig
