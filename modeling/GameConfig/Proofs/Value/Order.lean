import GameConfig.Proofs.Number.WideWord
import GameConfig.Value.Compare

/-!
# The order of numbers in a document

Whatever their form, two numbers are in the order of what they stand for: a whole number
for itself, a double for the rational or the infinity that its bits spell.
-/

namespace GameConfig

open Number
open Number.Binary64 (Extended)

/-!
# Numbers free of their form
-/

namespace Numeric

def number? : Numeric → Option Extended
  | .whole n => some (n : ℚ)
  | .real x => x.extended?

def IsWide : Numeric → Prop
  | .whole n => -Binary64.wideLimit ≤ n ∧ n < Binary64.wideLimit
  | .real _ => True

theorem compare_whole (a b : Int) :
    Ord.compare a b = cmp ((a : ℚ) : Extended) ((b : ℚ) : Extended) := by
  rw [Extended.cmp_coe, Int.cast_strictMono.cmp_map_eq, cmp_eq_compare]

theorem compare_eq_map₂ {m n : Numeric} (hm : m.IsWide) (hn : n.IsWide) :
    m.compare n = Option.map₂ cmp m.number? n.number? := by
  cases m with
  | whole a =>
      cases n with
      | whole b => exact congrArg some (compare_whole a b)
      | real y => exact Binary64.compareInt_eq_map hm.left hm.right y
  | real x =>
      cases n with
      | whole b =>
          rw [compare, Binary64.compareInt_eq_map hn.left hn.right, number?, number?]
          cases x.extended? with
          | none => rfl
          | some m => exact congrArg some (cmp_swap _ _)
      | real y => exact Binary64.compare_eq_map₂ x y

end Numeric

namespace Value

/-- What a numeric value stands for; other values and doubles that are no number stand for
nothing. -/
def number? : Value → Option Extended
  | .integer n => some ((n.toInt : ℚ) : Extended)
  | .unsigned n => some ((n.toNat : ℚ) : Extended)
  | .float x => x.extended?
  | _ => none

theorem exists_numeric {v : Value} (h : v.kind = .number) :
    ∃ m, v.numeric? = some m ∧ m.IsWide ∧ m.number? = v.number? := by
  cases v with
  | integer n =>
      have hlow := n.le_toInt
      have hhigh := n.toInt_lt
      refine ⟨_, rfl, ?_, rfl⟩
      rw [Numeric.IsWide, Binary64.wideLimit_eq]
      omega
  | unsigned n =>
      have hhigh := n.toNat_lt
      refine ⟨_, rfl, ?_, by simp [Numeric.number?, number?]⟩
      rw [Numeric.IsWide, Binary64.wideLimit_eq]
      omega
  | float x => exact ⟨_, rfl, trivial, rfl⟩
  | _ => cases h

theorem compare_of_number {a b : Value} (ha : a.kind = .number) (hb : b.kind = .number) :
    a.compare b = Option.map₂ cmp a.number? b.number? := by
  rcases exists_numeric ha with ⟨m, hm, hmWide, hmNumber⟩
  rcases exists_numeric hb with ⟨n, hn, hnWide, hnNumber⟩
  rw [← hmNumber, ← hnNumber, ← Numeric.compare_eq_map₂ hmWide hnWide]
  cases a <;> cases ha <;> cases b <;> cases hb <;> simp [compare, hm, hn]

theorem number?_eq_none_iff {v : Value} (h : v.kind = .number) :
    v.number? = none ↔ ∃ x, v = .float x ∧ x.isNaN = true := by
  cases v with
  | float x => simp [number?, Binary64.extended?_eq_none_iff]
  | integer n => simp [number?]
  | unsigned n => simp [number?]
  | _ => cases h

/-- The order of two numeric values is the order of what they stand for, and there is none
exactly when one of them is no number.  Where the floor of a double is cut to a wide word
on the way, which is where the order of a whole number and the double is that of the number and
the word, the floor is whole, the cut loses nothing, and the word is the double's whole part. -/
theorem compare_eq_cmp_number (a b : Value) (ha : a.kind = .number) (hb : b.kind = .number) :
    (a.compare b = none ↔
      (∃ x, a = .float x ∧ x.isNaN = true) ∨ (∃ y, b = .float y ∧ y.isNaN = true)) ∧
    (∀ m n, a.number? = some m → b.number? = some n → a.compare b = some (cmp m n)) ∧
    ∀ x, a = .float x ∨ b = .float x →
      (x.IsCut ↔ ∀ n, Binary64.compareInt n x =
        some ((Ord.compare n x.floor.toWide).then (if x.floor.lt x then .lt else .eq))) ∧
      (x.IsCut →
        x.floor.isFinite = true ∧ (x.floor.toWide : ℚ) = x.floor.rational ∧
          x.floor.toWide = ⌊x.rational⌋) := by
  rw [compare_of_number ha hb]
  refine ⟨?_, ?_, ?_⟩
  · rw [Option.map₂_eq_none_iff, number?_eq_none_iff ha, number?_eq_none_iff hb]
  · intro m n hm hn
    rw [hm, hn, Option.map₂_some_some]
  · intro x _
    refine ⟨Binary64.isCut_iff, fun hcut => ?_⟩
    rcases Binary64.toWide_floor hcut with ⟨hfinite, hword⟩
    refine ⟨(Binary64.floor_of_isFinite hfinite).left, ?_, hword⟩
    rw [hword, Binary64.rational_floor hfinite]

/-- The integer above `2 ^ 53`, which no double can hold, is above the double of `2 ^ 53`. -/
theorem compare_integer_above_double :
    let x : Binary64 := ⟨0x4340000000000000⟩
    (Value.integer 9007199254740993).kind = .number ∧ (Value.float x).kind = .number ∧
      x.IsCut ∧ x.floor.toWide = ⌊x.rational⌋ ∧
      (Value.integer 9007199254740993).compare (.float x) = some .gt := by
  intro x
  have hcut : x.IsCut := ⟨by decide, by decide +kernel⟩
  have hbits : x.bits.toNat = 4845873199050653696 := rfl
  have hrational : x.rational = 9007199254740992 := by
    norm_num [Binary64.rational, Binary64.isNegative, Binary64.signBit, hbits]
  have hnumber : (Value.float x).number? = some ((x.rational : Extended)) :=
    Binary64.extended?_of_isFinite (by decide)
  have horder := compare_eq_cmp_number (.integer 9007199254740993) (.float x) rfl rfl
  refine ⟨rfl, rfl, hcut, ((horder.right.right x (Or.inr rfl)).right hcut).right.right, ?_⟩
  rw [horder.right.left _ _ rfl hnumber, Extended.cmp_coe, hrational]
  rfl

end Value
end GameConfig
