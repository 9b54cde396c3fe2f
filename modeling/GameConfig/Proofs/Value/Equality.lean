import GameConfig.Proofs.Value.Inside
import GameConfig.Proofs.Value.Order

/-!
# Equality of values

Values of different kinds have no order.  Two containers of one kind are equal exactly
when every step leads into both of them to equal values, or into neither; for objects
this is where names are counted.  With it, the laws of the comparison go from the
values inside two containers to the containers.
-/

namespace GameConfig
namespace Value

/-!
# Pairs of values of one kind
-/

def IsContainer (v : Value) : Prop :=
  v.kind = .array ∨ v.kind = .object

inductive Alike : Value → Value → Prop where
  | null : Alike .null .null
  | boolean (x y : Bool) : Alike (.boolean x) (.boolean y)
  | string (x y : String) : Alike (.string x) (.string y)
  | number {a b : Value} (left : a.kind = .number) (right : b.kind = .number) : Alike a b
  | container {a b : Value} (left : a.IsContainer) (same : a.kind = b.kind) : Alike a b

theorem alike_of_kind_eq {a b : Value} (h : a.kind = b.kind) : Alike a b := by
  cases a with
  | null =>
      cases b <;> cases h
      exact .null
  | boolean x =>
      cases b <;> cases h
      exact .boolean x _
  | string x =>
      cases b <;> cases h
      exact .string x _
  | integer _ => exact .number rfl h.symm
  | unsigned _ => exact .number rfl h.symm
  | float _ => exact .number rfl h.symm
  | array _ => exact .container (Or.inl rfl) h
  | object _ => exact .container (Or.inr rfl) h

theorem compare_of_kind_ne {a b : Value} (h : a.kind ≠ b.kind) : a.compare b = none := by
  cases a <;> cases b <;> simp_all [kind, compare, numeric?]

theorem kind_eq_of_compare {a b : Value} {order : Ordering} (h : a.compare b = some order) :
    a.kind = b.kind := by
  by_contra hne
  rw [compare_of_kind_ne hne] at h
  cases h

theorem equal_iff {a b : Value} : a.equal b = true ↔ a.compare b = some .eq := by
  simp [equal]

/-!
# Containers
-/

theorem compare_of_container {a : Value} (h : a.IsContainer) (b : Value) :
    a.compare b = if a.equal b then some .eq else none := by
  unfold equal
  by_cases hkind : a.kind = b.kind
  · cases a <;> rcases h with h | h <;> cases h <;> cases b <;> cases hkind
    · unfold compare
      split <;> simp
    · unfold compare
      split <;> simp
  · simp [compare_of_kind_ne hkind]

theorem equal_array_iff {xs ys : List Value} :
    (Value.array xs).equal (.array ys) = true ↔ equalItems xs ys = true := by
  rw [equal_iff, compare]
  split <;> simp_all

theorem equal_object_iff {xs ys : Dictionary Value} :
    (Value.object xs).equal (.object ys) = true ↔
      xs.length = ys.length ∧ equalMembers xs ys = true := by
  rw [equal_iff, compare]
  split <;> simp_all

theorem equalItems_iff (xs ys : List Value) :
    equalItems xs ys = true ↔
      ∀ index : Nat, Option.Rel (fun x y => x.equal y = true) xs[index]? ys[index]? := by
  induction xs generalizing ys with
  | nil =>
      cases ys with
      | nil =>
          simp [equalItems]
      | cons y ys =>
          simp only [equalItems, Bool.false_eq_true, false_iff]
          intro h
          cases h 0
  | cons x xs ih =>
      cases ys with
      | nil =>
          simp only [equalItems, Bool.false_eq_true, false_iff]
          intro h
          cases h 0
      | cons y ys =>
          rw [equalItems, Bool.and_eq_true, ih]
          constructor
          · rintro ⟨hhead, htail⟩ index
            cases index with
            | zero => exact .some hhead
            | succ index => exact htail index
          · intro h
            have hhead : Option.Rel (fun x y => x.equal y = true) (some x) (some y) := h 0
            cases hhead with
            | some hxy => exact ⟨hxy, fun index => h (index + 1)⟩

theorem equalMembers_cons (name : String) (x : Value) (xs ys : Dictionary Value) :
    equalMembers ((name, x) :: xs) ys =
      ((Dictionary.find? name ys).any x.equal && equalMembers xs ys) := by
  rw [equalMembers]
  cases Dictionary.find? name ys <;> rfl

theorem equalMembers_iff (xs ys : Dictionary Value) :
    equalMembers xs ys = true ↔
      ∀ name x, (name, x) ∈ xs → ∃ y, Dictionary.find? name ys = some y ∧ x.equal y = true := by
  induction xs with
  | nil =>
      simp [equalMembers]
  | cons member xs ih =>
      obtain ⟨name, x⟩ := member
      rw [equalMembers_cons, Bool.and_eq_true, Option.any_eq_true, ih]
      constructor
      · rintro ⟨hfirst, hrest⟩ other y hmem
        cases hmem with
        | head => exact hfirst
        | tail _ hmem => exact hrest other y hmem
      · intro h
        exact ⟨h name x List.mem_cons_self,
          fun other y hmem => h other y (List.mem_cons_of_mem _ hmem)⟩

/-- Two containers of one kind are equal exactly when every step leads into both to equal
values or into neither. -/
theorem equal_container_iff {a b : Value} (ha : a.HasDistinctNames) (hb : b.HasDistinctNames)
    (hcontainer : a.IsContainer) (hkind : a.kind = b.kind) :
    a.equal b = true ↔
      ∀ step, Option.Rel (fun x y => x.equal y = true) (a.step? step) (b.step? step) := by
  cases a <;> rcases hcontainer with h | h <;> cases h <;> cases b <;> cases hkind
  case array.inl.refl.array xs ys =>
    rw [equal_array_iff, equalItems_iff]
    constructor
    · intro h step
      cases step with
      | member name => exact .none
      | element index => exact h index
    · intro h index
      exact h (.element index)
  case object.inr.refl.object xs ys =>
    rw [equal_object_iff, equalMembers_iff, ← Dictionary.Distinct.rel_find?_iff ha hb]
    constructor
    · intro h step
      cases step with
      | member name => exact h name
      | element index => exact .none
    · intro h name
      exact h (.member name)

end Value
end GameConfig
