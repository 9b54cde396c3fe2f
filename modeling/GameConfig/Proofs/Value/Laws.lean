import GameConfig.Proofs.Value.Equality

/-!
# Laws of the comparison

Turning two values around turns their order around.  Equal values are of one kind, count
alike as conditions, and have the same order with every other value, so that equality is
kept by numbers of different forms at every depth; and the order is transitive.  All of
this holds for values in which no object has a name twice.
-/

namespace GameConfig
namespace Value

open Number
open Number.Binary64 (Extended)

theorem IsContainer.of_kind_eq {a b : Value} (h : a.IsContainer) (hkind : a.kind = b.kind) :
    b.IsContainer := by
  rw [IsContainer, ← hkind]
  exact h

/-!
# Turning a comparison around
-/

theorem map_swap_eq_some_eq {order? : Option Ordering} :
    order?.map Ordering.swap = some .eq ↔ order? = some .eq := by
  cases order? with
  | none => simp
  | some order => cases order <;> simp

theorem compare_number_swap {a b : Value} (ha : a.kind = .number) (hb : b.kind = .number) :
    b.compare a = (a.compare b).map Ordering.swap := by
  rw [compare_of_number ha hb, compare_of_number hb ha]
  cases a.number? with
  | none => rw [Option.map₂_none_left, Option.map₂_none_right, Option.map_none]
  | some m =>
      cases b.number? with
      | none => rfl
      | some n => exact congrArg some (cmp_swap m n).symm

theorem option_rel_comm {R : Value → Value → Prop} {x? y? : Option Value}
    (h : ∀ x y, x? = some x → y? = some y → (R x y ↔ R y x)) :
    Option.Rel R x? y? ↔ Option.Rel R y? x? := by
  cases x? <;> cases y? <;> simp_all

theorem compare_swap {a b : Value} (ha : a.WellFormed) (hb : b.WellFormed) :
    b.compare a = (a.compare b).map Ordering.swap := by
  induction a using inside_induction generalizing b with
  | inside a ih =>
      by_cases hkind : a.kind = b.kind
      · cases alike_of_kind_eq hkind with
        | null => rfl
        | boolean x y => cases x <;> cases y <;> rfl
        | string x y =>
            simp only [compare, Option.map_some]
            rw [Std.OrientedOrd.eq_swap]
        | number hleft hright => exact compare_number_swap hleft hright
        | container hleft _ =>
            have hright := hleft.of_kind_eq hkind
            have hequal : b.equal a = a.equal b := by
              rw [Bool.eq_iff_iff, equal_container_iff ha.self hb.self hleft hkind,
                equal_container_iff hb.self ha.self hright hkind.symm]
              refine forall_congr' fun step => option_rel_comm ?_
              intro y x hy hx
              rw [equal_iff, equal_iff, ih step x hx (ha.step hx) (hb.step hy),
                map_swap_eq_some_eq]
            rw [compare_of_container hleft, compare_of_container hright, hequal]
            split <;> rfl
      · rw [compare_of_kind_ne hkind, compare_of_kind_ne (Ne.symm hkind)]
        rfl

/-- Turning two values around turns their order around, and equality goes both ways. -/
theorem compare_swap_and_equal_comm (a b : Value) (ha : a.WellFormed) (hb : b.WellFormed) :
    b.compare a = (a.compare b).map Ordering.swap ∧ a.equal b = b.equal a := by
  refine ⟨compare_swap ha hb, ?_⟩
  rw [Bool.eq_iff_iff, equal_iff, equal_iff, compare_swap ha hb, map_swap_eq_some_eq]

theorem equal_comm_of_reordered :
    let a : Value := .object [("a", .array [.integer 1]), ("b", .null)]
    let b : Value := .object [("b", .null), ("a", .array [.float ⟨0x3ff0000000000000⟩])]
    a.WellFormed ∧ b.WellFormed ∧ a.equal b = true ∧ a.equal b = b.equal a := by
  intro a b
  have ha : a.WellFormed := throughout_of_everywhere (by decide)
  have hb : b.WellFormed := throughout_of_everywhere (by decide)
  exact ⟨ha, hb, by decide +kernel, (compare_swap_and_equal_comm a b ha hb).right⟩

/-!
# Equal values
-/

theorem number?_eq_of_equal {a b : Value} (ha : a.kind = .number) (hb : b.kind = .number)
    (h : a.equal b = true) : ∃ m, a.number? = some m ∧ b.number? = some m := by
  rw [equal_iff, compare_of_number ha hb] at h
  cases hm : a.number? with
  | none =>
      rw [hm] at h
      cases h
  | some m =>
      cases hn : b.number? with
      | none =>
          rw [hm, hn] at h
          cases h
      | some n =>
          rw [hm, hn, Option.map₂_some_some, Option.some.injEq, cmp_eq_eq_iff] at h
          exact ⟨m, rfl, congrArg some h.symm⟩

theorem option_rel_congr {R : Value → Value → Prop} {x? y? z? : Option Value}
    (hxy : Option.Rel R x? y?)
    (h : ∀ x y z, x? = some x → y? = some y → z? = some z → R x y → (R x z ↔ R y z)) :
    Option.Rel R x? z? ↔ Option.Rel R y? z? := by
  cases hxy with
  | none => rfl
  | some hxy =>
      cases z? with
      | none => simp
      | some z => simpa using h _ _ z rfl rfl rfl hxy

theorem compare_congr {a b c : Value} (ha : a.WellFormed) (hb : b.WellFormed)
    (hc : c.WellFormed) (h : a.equal b = true) : a.compare c = b.compare c := by
  induction a using inside_induction generalizing b c with
  | inside a ih =>
      have hkind := kind_eq_of_compare (equal_iff.mp h)
      by_cases hthird : a.kind = c.kind
      · have hthird' : b.kind = c.kind := hkind.symm.trans hthird
        cases alike_of_kind_eq hkind with
        | null => rfl
        | boolean x y => cases x <;> cases y <;> first | rfl | cases h
        | string x y =>
            rw [equal_iff, compare, Option.some.injEq, Std.compare_eq_iff_eq] at h
            rw [h]
        | number hleft hright =>
            rcases number?_eq_of_equal hleft hright h with ⟨m, hm, hn⟩
            rw [compare_of_number hleft (hthird.symm.trans hleft),
              compare_of_number hright (hthird'.symm.trans hright), hm, hn]
        | container hleft _ =>
            have hright := hleft.of_kind_eq hkind
            have hinside := (equal_container_iff ha.self hb.self hleft hkind).mp h
            have hequal : a.equal c = b.equal c := by
              rw [Bool.eq_iff_iff, equal_container_iff ha.self hc.self hleft hthird,
                equal_container_iff hb.self hc.self hright hthird']
              refine forall_congr' fun step => option_rel_congr (hinside step) ?_
              intro x y z hx hy hz hxy
              rw [equal_iff, equal_iff,
                ih step x hx (ha.step hx) (hb.step hy) (hc.step hz) hxy]
            rw [compare_of_container hleft, compare_of_container hright, hequal]
      · rw [compare_of_kind_ne hthird, compare_of_kind_ne (hkind ▸ hthird)]

theorem truthy_of_number {v : Value} {m : Extended} (h : v.number? = some m) :
    v.truthy = true ↔ m ≠ 0 := by
  cases v with
  | integer n =>
      cases h
      rw [ne_eq, Extended.coe_eq_zero, Int.cast_eq_zero]
      simp [truthy, ← Int64.toInt_inj]
  | unsigned n =>
      cases h
      rw [ne_eq, Extended.coe_eq_zero, Nat.cast_eq_zero]
      simp [truthy, ← UInt64.toNat_inj]
  | float x =>
      cases hx : x.isNaN with
      | true => simp [number?, Binary64.extended?, hx] at h
      | false =>
          simp only [number?, Binary64.extended?, hx, Bool.false_eq_true, if_false,
            Option.some.injEq] at h
          rw [← h, ne_eq, ← Binary64.isZero_iff hx]
          simp [truthy, hx]
  | _ => cases h

theorem truthy_of_container {a b : Value} (h : a.IsContainer) (hequal : a.equal b = true) :
    a.truthy = b.truthy := by
  have hkind := kind_eq_of_compare (equal_iff.mp hequal)
  cases a <;> rcases h with h | h <;> cases h <;> cases b <;> cases hkind
  case array.inl.refl.array xs ys =>
    rw [equal_array_iff] at hequal
    cases xs <;> cases ys <;> first | rfl | cases hequal
  case object.inr.refl.object xs ys =>
    rw [equal_object_iff] at hequal
    cases xs <;> cases ys <;> first | rfl | cases hequal.left

theorem truthy_of_equal {a b : Value} (h : a.equal b = true) : a.truthy = b.truthy := by
  have hkind := kind_eq_of_compare (equal_iff.mp h)
  cases alike_of_kind_eq hkind with
  | null => rfl
  | boolean x y => cases x <;> cases y <;> first | rfl | cases h
  | string x y =>
      rw [equal_iff, compare, Option.some.injEq, Std.compare_eq_iff_eq] at h
      rw [h]
  | number hleft hright =>
      rcases number?_eq_of_equal hleft hright h with ⟨m, hm, hn⟩
      rw [Bool.eq_iff_iff, truthy_of_number hm, truthy_of_number hn]
  | container hleft _ => exact truthy_of_container hleft h

/-!
# Transitivity
-/

theorem compare_lt_trans {a b c : Value} (hab : a.compare b = some .lt)
    (hbc : b.compare c = some .lt) : a.compare c = some .lt := by
  have hleft := kind_eq_of_compare hab
  have hright := kind_eq_of_compare hbc
  cases alike_of_kind_eq hleft with
  | null => cases hab
  | boolean x y =>
      cases c <;> cases hright
      simp only [compare, Option.some.injEq] at hab hbc ⊢
      exact Std.TransCmp.lt_trans hab hbc
  | string x y =>
      cases c <;> cases hright
      simp only [compare, Option.some.injEq] at hab hbc ⊢
      exact Std.TransCmp.lt_trans hab hbc
  | number ha hb =>
      have hc := hright.symm.trans hb
      rw [compare_of_number ha hb, Option.map₂_eq_some_iff] at hab
      rw [compare_of_number hb hc, Option.map₂_eq_some_iff] at hbc
      rcases hab with ⟨m, n, hm, hn, hmn⟩
      rcases hbc with ⟨n', k, hn', hk, hnk⟩
      cases hn.symm.trans hn'
      have hmk : m < k :=
        lt_trans ((cmp_eq_lt_iff _ _).mp hmn) ((cmp_eq_lt_iff _ _).mp hnk)
      rw [compare_of_number ha hc, hm, hk, Option.map₂_some_some,
        (cmp_eq_lt_iff _ _).mpr hmk]
  | container ha _ =>
      rw [compare_of_container ha] at hab
      split at hab <;> cases hab

/-- Equal values can stand for each other: they are of one kind, count alike as conditions,
and have the same order with every value.  What is below something below a value is below
that value. -/
theorem equal_interchangeable_and_lt_trans (a b : Value) (ha : a.WellFormed)
    (hb : b.WellFormed) :
    (a.equal b = true →
      a.kind = b.kind ∧ a.truthy = b.truthy ∧
        ∀ c, c.WellFormed → a.compare c = b.compare c) ∧
    ∀ c, a.compare b = some .lt → b.compare c = some .lt → a.compare c = some .lt := by
  constructor
  · intro h
    exact ⟨kind_eq_of_compare (equal_iff.mp h), truthy_of_equal h,
      fun c hc => compare_congr ha hb hc h⟩
  · intro c hab hbc
    exact compare_lt_trans hab hbc

theorem interchange_two_and_double_two :
    let two : Value := .object [("gold", .integer 2)]
    let double : Value := .object [("gold", .float ⟨0x4000000000000000⟩)]
    let word : Value := .object [("gold", .unsigned 2)]
    two.WellFormed ∧ double.WellFormed ∧ word.WellFormed ∧ two.equal double = true ∧
      two.compare word = double.compare word ∧
      (Value.integer 1).compare (.float ⟨0x3ff8000000000000⟩) = some .lt ∧
      (Value.float ⟨0x3ff8000000000000⟩).compare (.unsigned 2) = some .lt ∧
      (Value.integer 1).compare (.unsigned 2) = some .lt := by
  intro two double word
  have htwo : two.WellFormed := throughout_of_everywhere (by decide)
  have hdouble : double.WellFormed := throughout_of_everywhere (by decide)
  have hword : word.WellFormed := throughout_of_everywhere (by decide)
  have hequal : two.equal double = true := by decide +kernel
  have hone : (Value.integer 1).WellFormed := throughout_of_everywhere (by decide)
  have hhalf : (Value.float ⟨0x3ff8000000000000⟩).WellFormed :=
    throughout_of_everywhere (by decide)
  have hbelow : (Value.integer 1).compare (.float ⟨0x3ff8000000000000⟩) = some .lt := by
    decide +kernel
  have habove : (Value.float ⟨0x3ff8000000000000⟩).compare (.unsigned 2) = some .lt := by
    decide +kernel
  have hchange := (equal_interchangeable_and_lt_trans two double htwo hdouble).left hequal
  have hchain := (equal_interchangeable_and_lt_trans _ _ hone hhalf).right (.unsigned 2)
  exact ⟨htwo, hdouble, hword, hequal, hchange.right.right word hword, hbelow, habove,
    hchain hbelow habove⟩

end Value
end GameConfig
