import GameConfig.Proofs.Json.Document
import GameConfig.Proofs.Number.Bounds
import GameConfig.Proofs.Number.Rational
import GameConfig.Proofs.Value.InRange

/-!
# Documents that were read

Digits are collected in an unsigned word, whose double is far from infinite.  From then on
it is multiplied only as long as the product is finite, and dividing by powers of ten makes
it smaller.  So the numbers of every document that is read are in range; its members are in
order, and it has no more levels than there was room for.
-/

namespace GameConfig
namespace Json

open Number

/-!
# Collected digits
-/

theorem collect_lt {n : Nat} (h : n < UInt64.size) (digits : List Char) :
    (collect n digits).1 < UInt64.size := by
  induction digits generalizing n with
  | nil => exact h
  | cons c rest ih =>
      rw [collect]
      split
      · rename_i hfits
        exact ih hfits
      · exact h

theorem collected_lt (numeral : Numeral) : numeral.collected.1 < UInt64.size :=
  collect_lt (collect_lt (by decide) numeral.whole) numeral.fraction

theorem ofNat_lt_infinity {n : Nat} (hn : n ≤ 10 ^ largestPower) :
    binary64.ofNat n < binary64.infinity := by
  have hgreatest : 10 ^ largestPower * binary64.one ≤ binary64.steps (binary64.infinity - 1) := by
    decide +kernel
  have hle : binary64.ofNat n ≤ binary64.infinity - 1 :=
    binary64.ofNat_le (Nat.le_trans (Nat.mul_le_mul_right _ hn) hgreatest)
  exact Nat.lt_of_le_pred Binary64.infinity_pos hle

theorem ofNat_finite {digits : Nat} (h : digits < UInt64.size) :
    binary64.ofNat digits < binary64.infinity := by
  have hwords : UInt64.size ≤ 10 ^ 20 := by decide
  exact ofNat_lt_infinity (Nat.le_trans (Nat.le_trans (Nat.le_of_lt h) hwords)
    (Nat.pow_le_pow_right (by decide) (by decide)))

/-!
# Powers of ten
-/

theorem steps_powerOfTen {k : Nat} (hk : k ≤ 22) :
    binary64.steps (powerOfTen k) = 10 ^ k * binary64.one := by
  have hexact : ∀ k ≤ 22, binary64.steps (powerOfTen k) = 10 ^ k * binary64.one := by
    decide +kernel
  exact hexact k hk

theorem one_le_powerOfTen (k : Nat) : binary64.one ≤ binary64.steps (powerOfTen k) := by
  have hone : binary64.steps (powerOfTen 0) = binary64.one := by
    rw [steps_powerOfTen (Nat.zero_le _), Nat.pow_zero, Nat.one_mul]
  have hfinite : powerOfTen 0 ≤ binary64.infinity :=
    Nat.min_le_left _ _
  have hle : powerOfTen 0 ≤ powerOfTen k := by
    apply Format.le_ofNat _ hfinite
    rw [hone]
    exact Nat.le_mul_of_pos_left _ (Nat.pow_pos (by decide))
  rw [← hone]
  exact (Format.steps_strictMono _).monotone hle

theorem div_powerOfTen_le (magnitude k : Nat) :
    binary64.div magnitude (powerOfTen k) ≤ magnitude :=
  Format.div_le _ (one_le_powerOfTen k)

theorem scaleByPower_finite {magnitude scaled : Nat} {power : Int}
    (h : magnitude < binary64.infinity) (hscaled : scaleByPower magnitude power = some scaled) :
    scaled < binary64.infinity := by
  fun_induction scaleByPower magnitude power with
  | case1 magnitude power hsmall hpositive product hfinite =>
      rw [Option.some.injEq] at hscaled
      rw [← hscaled]
      exact hfinite
  | case2 magnitude power hsmall hpositive product hinfinite => cases hscaled
  | case3 magnitude power hsmall hnegative =>
      rw [Option.some.injEq] at hscaled
      rw [← hscaled]
      exact Nat.lt_of_le_of_lt (div_powerOfTen_le magnitude _) h
  | case4 power hlarge =>
      cases hscaled
      exact h
  | case5 magnitude power hlarge hzero hpositive => cases hscaled
  | case6 magnitude power hlarge hzero hnegative ih =>
      exact ih (Nat.lt_of_le_of_lt (div_powerOfTen_le magnitude _) h) hscaled

/-!
# Numbers
-/

theorem isFinite_ofMagnitude (negative : Bool) {magnitude : Nat}
    (h : magnitude < binary64.infinity) :
    (Binary64.ofMagnitude negative magnitude).isFinite = true := by
  rw [Binary64.isFinite_iff, Binary64.magnitude_ofMagnitude]
  · exact h
  · exact Nat.lt_trans h Binary64.infinity_lt_signBit

def IsPlain (v : Value) : Prop :=
  v.form = .scalar ∧ v.NumberInRange

theorem isPlain_float (negative : Bool) {magnitude : Nat} (h : magnitude < binary64.infinity) :
    IsPlain (.float (.ofMagnitude negative magnitude)) :=
  ⟨rfl, isFinite_ofMagnitude negative h⟩

theorem isPlain_wholeValue (negative : Bool) {digits : Nat} (h : digits < UInt64.size) :
    IsPlain (wholeValue negative digits) := by
  unfold wholeValue
  split
  · split
    · exact ⟨rfl, trivial⟩
    · exact isPlain_float true (ofNat_finite h)
  split
  · exact ⟨rfl, trivial⟩
  · rename_i hlarge
    refine ⟨rfl, ?_⟩
    rw [Value.NumberInRange, UInt64.toNat_ofNat_of_lt' h]
    exact Nat.le_of_not_lt hlarge

theorem isPlain_of_double? {negative : Bool} {digits : Nat} {power : Int} {v : Value}
    (h : digits < UInt64.size) (hv : double? negative digits power = some v) : IsPlain v := by
  rcases Option.map_eq_some_iff.mp hv with ⟨magnitude, hscaled, rfl⟩
  exact isPlain_float negative (scaleByPower_finite (ofNat_finite h) hscaled)

theorem isPlain_of_value {numeral : Numeral} {v : Value} (h : numeral.value = .ok v) :
    IsPlain v := by
  have hdigits := collected_lt numeral
  rw [Numeral.value] at h
  generalize numeral.collected = collected at *
  obtain ⟨digits, power⟩ := collected
  dsimp only at h hdigits
  split at h
  · split at h
    · cases h
      exact isPlain_wholeValue numeral.negative hdigits
    split at h
    · rename_i hdouble
      cases h
      exact isPlain_of_double? hdigits hdouble
    · cases h
  split at h
  · split at h
    · cases h
    · cases h
      exact isPlain_float numeral.negative Binary64.infinity_pos
  split at h
  · rename_i hdouble
    cases h
    exact isPlain_of_double? hdigits hdouble
  · cases h

theorem isPlain_of_takes_number {s rest : List Char} {v : Value} (h : Takes number s v rest) :
    IsPlain v := by
  rcases h with ⟨shorter, h⟩
  rcases bind_eq_ok_iff.mp h with ⟨found, -, h⟩
  dsimp only at h
  split at h
  · rename_i hvalue
    rw [Except.ok.injEq, Prod.mk.injEq] at h
    rw [← h.left]
    exact isPlain_of_value hvalue
  · cases h

/-!
# Values
-/

theorem eq_of_word_eq_ok {α : Type} {meaning found : α} {letters s : List Char} {t : Tail s}
    (h : word meaning letters s = .ok (found, t)) : found = meaning := by
  induction letters generalizing s with
  | nil =>
      cases h
      rfl
  | cons letter letters ih =>
      cases s with
      | nil => cases h
      | cons c rest =>
          rw [word] at h
          split at h
          · rcases bind_eq_ok_iff.mp h with ⟨⟨found', t'⟩, hword, h⟩
            cases h
            exact ih hword
          · cases h

theorem isPlain_of_takes {s rest : List Char} {v : Value}
    (h : Takes (valueWithin none) s v rest) : IsPlain v := by
  have hword : ∀ {meaning : Value} {letters : List Char} {behind r : Rest s},
      behind.carry <$> word meaning letters behind.text = .ok (v, r) → IsPlain meaning →
        IsPlain v := by
    intro meaning letters behind r hfound hmeaning
    rcases map_eq_ok_iff.mp hfound with ⟨found, hword, hv⟩
    cases hv
    rwa [eq_of_word_eq_ok hword]
  rcases h with ⟨shorter, h⟩
  rw [valueWithin] at h
  split at h
  · cases h
  dsimp only at h
  split at h
  · exact hword h ⟨rfl, trivial⟩
  split at h
  · exact hword h ⟨rfl, trivial⟩
  split at h
  · exact hword h ⟨rfl, trivial⟩
  split at h
  · rcases bind_eq_ok_iff.mp h with ⟨found, -, hv⟩
    cases hv
    exact ⟨rfl, trivial⟩
  split at h
  · rcases map_eq_ok_iff.mp h with ⟨found, hnumber, hv⟩
    cases hv
    exact isPlain_of_takes_number ⟨found.2.shorter, hnumber⟩
  split at h
  · cases h
  split at h
  · cases h
  · cases h

theorem forall_of_takes_elements {α : Type} {P : α → Prop} {item : Scan α}
    (hitem : ∀ s x rest, Takes item s x rest → P x) {first : Bool} {s rest : List Char}
    {xs : List α} (h : Takes (elements item first) s xs rest) : ∀ x ∈ xs, P x := by
  induction xs generalizing s first with
  | nil => exact List.forall_mem_nil P
  | cons x xs ih =>
      rcases takes_elements_cons_iff.mp h with ⟨t, u, -, hx, hxs⟩
      exact List.forall_mem_cons.mpr ⟨hitem t x u hx, ih hxs⟩

theorem forall_of_takes_members {α β : Type} {P : β → Prop} {name : Scan α} {item : Scan β}
    (hitem : ∀ s x rest, Takes item s x rest → P x) {first : Bool} {s rest : List Char}
    {xs : List (α × β)} (h : Takes (members name item first) s xs rest) :
    ∀ member ∈ xs, P member.2 := by
  induction xs generalizing s first with
  | nil => exact List.forall_mem_nil _
  | cons member xs ih =>
      obtain ⟨key, x⟩ := member
      rcases takes_members_cons_iff.mp h with ⟨-, t, u, -, -, hx, hxs⟩
      exact List.forall_mem_cons.mpr ⟨hitem t x u hx, ih hxs⟩

theorem isDocument_of_takes {room : Nat} {s rest : List Char} {v : Value}
    (h : Takes (value room) s v rest) : v.IsDocument room := by
  -- On the room, since brackets and braces are opened only while there is some.
  induction room generalizing s v rest with
  | zero =>
      have hplain := isPlain_of_takes h
      exact .of_scalar hplain.left hplain.right 0
  | succ room ih =>
      have hinside : ∀ s w rest, Takes (value room) s w rest → w.IsDocument room := by
        intro s w rest hw
        exact ih hw
      rcases takes_valueWithin_cases h with ⟨gap, c, t, -, -, -,
        ⟨-, item, items, hitem, hitems, rfl⟩ | ⟨-, item, pairs, hitem, hpairs, rfl⟩ |
        ⟨-, -, hscalar⟩⟩
      · cases hitem
        exact .array (forall_of_takes_elements hinside hitems)
      · cases hitem
        have hmembers := forall_of_takes_members hinside hpairs
        refine .object (Dictionary.ascending_ofList pairs) fun member hmember => ?_
        exact hmembers member (Dictionary.mem_of_mem_ofList hmember)
      · have hplain := isPlain_of_takes (hscalar none)
        exact .of_scalar hplain.left hplain.right (room + 1)

theorem isDocument_of_readDocument {text : String} {v : Value}
    (h : readDocument text = .ok v) : v.IsDocument nestingLimit := by
  rcases takes_of_readDocument h with ⟨rest, hvalue⟩
  exact isDocument_of_takes hvalue

end Json
end GameConfig
