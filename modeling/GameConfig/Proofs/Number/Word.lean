import GameConfig.Number.Word
import Mathlib.Algebra.Ring.Nat

/-!
# Steps that fit

A step on words gives its result exactly if the word holds the result on numbers.
-/

namespace GameConfig
namespace Number

theorem fitting_eq_some_iff {α : Type} {toNat : α → Nat} {size n : Nat} {result c : α}
    (hinjective : ∀ a b, toNat a = toNat b → a = b) (hc : toNat c < size)
    (hresult : n < size → toNat result = n) :
    (if n < size then some result else none) = some c ↔ n = toNat c := by
  constructor
  · intro h
    split at h
    · rename_i hfits
      cases h
      exact (hresult hfits).symm
    · cases h
  · intro h
    have hfits : n < size := h ▸ hc
    rw [if_pos hfits, hinjective result c ((hresult hfits).trans h)]

namespace Word64

variable {a b c : UInt64}

theorem exists_toNat_eq {n : Nat} (h : n < 2 ^ 64) : ∃ c : UInt64, c.toNat = n :=
  ⟨UInt64.ofNat n, UInt64.toNat_ofNat_of_lt' h⟩

theorem add?_eq_some_iff : add? a b = some c ↔ a.toNat + b.toNat = c.toNat := by
  apply fitting_eq_some_iff (fun _ _ => UInt64.toNat_inj.mp) c.toNat_lt
  intro hfits
  rw [UInt64.toNat_add]
  exact Nat.mod_eq_of_lt hfits

theorem mul?_eq_some_iff : mul? a b = some c ↔ a.toNat * b.toNat = c.toNat := by
  apply fitting_eq_some_iff (fun _ _ => UInt64.toNat_inj.mp) c.toNat_lt
  intro hfits
  rw [UInt64.toNat_mul]
  exact Nat.mod_eq_of_lt hfits

theorem exists_power? {base : UInt64} {n : Nat} (hbase : 0 < base.toNat)
    (h : base.toNat ^ n < 2 ^ 64) : ∃ c, power? base n = some c ∧ c.toNat = base.toNat ^ n := by
  induction n with
  | zero => exact ⟨1, rfl, rfl⟩
  | succ n ih =>
      have hpower : base.toNat ^ n < 2 ^ 64 :=
        Nat.lt_of_le_of_lt (Nat.pow_le_pow_right hbase (Nat.le_succ n)) h
      rcases ih hpower with ⟨power, hread, hvalue⟩
      refine ⟨UInt64.ofNat (base.toNat ^ (n + 1)), ?_, UInt64.toNat_ofNat_of_lt' h⟩
      rw [power?, hread]
      show mul? power base = _
      rw [mul?_eq_some_iff, hvalue, UInt64.toNat_ofNat_of_lt' h, Nat.pow_succ]

end Word64

namespace Word32

variable {a b c : UInt32}

theorem add?_eq_some_iff : add? a b = some c ↔ a.toNat + b.toNat = c.toNat := by
  apply fitting_eq_some_iff (fun _ _ => UInt32.toNat_inj.mp) c.toNat_lt
  intro hfits
  rw [UInt32.toNat_add]
  exact Nat.mod_eq_of_lt hfits

theorem sub?_of_le (h : b.toNat ≤ a.toNat) :
    ∃ c, sub? a b = some c ∧ c.toNat = a.toNat - b.toNat :=
  ⟨a - b, if_pos h, UInt32.toNat_sub_of_le a b (UInt32.le_iff_toNat_le.mpr h)⟩

end Word32

end Number
end GameConfig
