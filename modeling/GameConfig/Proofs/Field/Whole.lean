import GameConfig.Field.Basic
import GameConfig.Proofs.Value.InRange
import Mathlib.Algebra.Ring.Int.Defs

/-!
# Words read from whole numbers

A reader of words takes a whole number exactly if the number fits the word, and then gives the
word of that number.  Documents keep a number in a signed word as long as it fits; only of such
values is it true that a signed word finds every number that it could hold.
-/

namespace GameConfig

open Number

namespace Value

def whole? : Value → Option Int
  | .integer n => some n.toInt
  | .unsigned n => some n.toNat
  | _ => none

variable {v : Value} {n : Int}

theorem whole?_of_signed? {m : Int64} (h : v.signed? = some m) : v.whole? = some m.toInt := by
  cases v <;> cases h
  rfl

theorem whole?_of_unsigned? {m : UInt64} (h : v.unsigned? = some m) :
    v.whole? = some (m.toNat : Int) := by
  cases v with
  | integer k =>
      rw [unsigned?] at h
      split at h
      · rename_i hk
        cases h
        rw [whole?, Int64.toNat_toUInt64_of_le hk, Int64.toInt_eq_toNatClampNeg hk]
      · cases h
  | unsigned k =>
      cases h
      rfl
  | _ => cases h

theorem exists_signed? (hrange : v.NumberInRange) (h : v.whole? = some n) (hn : n < 2 ^ 63) :
    ∃ m : Int64, v.signed? = some m ∧ m.toInt = n := by
  cases v with
  | integer k =>
      cases h
      exact ⟨k, rfl, rfl⟩
  | unsigned k =>
      cases h
      have hlarge : Json.signedLimit ≤ k.toNat := hrange
      have hlimit : Json.signedLimit = 2 ^ 63 := rfl
      omega
  | _ => cases h

theorem exists_unsigned? (h : v.whole? = some n) (hn : 0 ≤ n) :
    ∃ m : UInt64, v.unsigned? = some m ∧ (m.toNat : Int) = n := by
  cases v with
  | integer k =>
      cases h
      have hk : 0 ≤ k := Int64.le_iff_toInt_le.mpr hn
      refine ⟨k.toUInt64, if_pos hk, ?_⟩
      rw [Int64.toNat_toUInt64_of_le hk, Int64.toInt_eq_toNatClampNeg hk]
  | unsigned k =>
      cases h
      exact ⟨k, rfl, rfl⟩
  | _ => cases h

end Value

theorem mapM_eq_some_iff {α β : Type} {read? : α → Option β} {items : List α} {xs : List β} :
    items.mapM read? = some xs ↔ List.Forall₂ (fun v x => read? v = some x) items xs := by
  induction items generalizing xs with
  | nil => simp [eq_comm]
  | cons v rest ih =>
      rw [List.mapM_cons]
      cases xs with
      | nil => simp [Option.bind_eq_some_iff]
      | cons x xs => simp [Option.bind_eq_some_iff, ← ih]

namespace Field

structure ReadsWord {α : Type} (read? : Reader α) (number : α → Int) (least greatest : Int) :
    Prop where
  sound {v : Value} {x : α} : read? v = some x →
    v.whole? = some (number x) ∧ least ≤ number x ∧ number x ≤ greatest
  complete {v : Value} {n : Int} : v.NumberInRange → v.whole? = some n → least ≤ n →
    n ≤ greatest → ∃ x, read? v = some x ∧ number x = n

theorem int64_readsWord : ReadsWord int64 Int64.toInt (-(2 ^ 63)) (2 ^ 63 - 1) where
  sound {_ x} h :=
    ⟨Value.whole?_of_signed? h, x.le_toInt, Int.le_sub_one_of_lt x.toInt_lt⟩
  complete hrange h _ hn := Value.exists_signed? hrange h (Int.lt_of_le_sub_one hn)

theorem uint64_readsWord :
    ReadsWord uint64 (fun x => (x.toNat : Int)) 0 (2 ^ 64 - 1) where
  sound {_ x} h :=
    ⟨Value.whole?_of_unsigned? h, Int.natCast_nonneg _,
      Int.le_sub_one_of_lt (by exact_mod_cast x.toNat_lt)⟩
  complete _ h hn _ := Value.exists_unsigned? h hn

theorem int32_readsWord : ReadsWord int32 Int32.toInt (-(2 ^ 31)) (2 ^ 31 - 1) where
  sound {v x} h := by
    rcases Option.bind_eq_some_iff.mp h with ⟨m, hm, hx⟩
    split at hx
    · rename_i hfits
      cases hx
      have hvalue : (Int32.ofInt m.toInt).toInt = m.toInt :=
        Int32.toInt_ofInt_of_le hfits.left (Int.lt_add_one_of_le hfits.right)
      rw [hvalue]
      exact ⟨Value.whole?_of_signed? hm, hfits⟩
    · cases hx
  complete {v n} hrange h hleast hgreatest := by
    rcases Value.exists_signed? hrange h (by omega) with ⟨m, hm, rfl⟩
    refine ⟨Int32.ofInt m.toInt, ?_, Int32.toInt_ofInt_of_le hleast (by omega)⟩
    exact Option.bind_eq_some_iff.mpr ⟨m, hm, if_pos ⟨hleast, hgreatest⟩⟩

theorem narrowed_readsWord {α : Type} {size : Nat} {ofNat : Nat → α} {toNat : α → Nat}
    (hword : ∀ n < size, toNat (ofNat n) = n) :
    ReadsWord
      (fun v => do
        let n ← v.unsigned?
        if n.toNat < size then some (ofNat n.toNat) else none)
      (fun x => (toNat x : Int)) 0 (size - 1) where
  sound {v x} h := by
    rcases Option.bind_eq_some_iff.mp h with ⟨m, hm, hx⟩
    split at hx
    · rename_i hfits
      cases hx
      rw [hword _ hfits]
      exact ⟨Value.whole?_of_unsigned? hm, Int.natCast_nonneg _,
        Int.le_sub_one_of_lt (Int.ofNat_lt.mpr hfits)⟩
    · cases hx
  complete {v n} _ h hleast hgreatest := by
    rcases Value.exists_unsigned? h hleast with ⟨m, hm, hn⟩
    subst hn
    have hfits : m.toNat < size := Int.ofNat_lt.mp (Int.lt_of_le_sub_one hgreatest)
    refine ⟨ofNat m.toNat, ?_, by rw [hword _ hfits]⟩
    exact Option.bind_eq_some_iff.mpr ⟨m, hm, if_pos hfits⟩

theorem uint32_readsWord :
    ReadsWord uint32 (fun x => (x.toNat : Int)) 0 (2 ^ 32 - 1) :=
  narrowed_readsWord fun _ => UInt32.toNat_ofNat_of_lt'

theorem byte_readsWord : ReadsWord byte (fun x => (x.toNat : Int)) 0 (2 ^ 8 - 1) :=
  narrowed_readsWord fun _ => UInt8.toNat_ofNat_of_lt'

end Field
end GameConfig
