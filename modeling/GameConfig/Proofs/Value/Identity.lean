import GameConfig.Proofs.Json.InRange
import GameConfig.Proofs.Value.Laws
import GameConfig.Proofs.Value.Same

/-!
# Identity beside equality

Identical values have the same form and content at every level.  Equal ones may differ in the
forms of their numbers, and in nothing else.  A double that is no number is equal to nothing,
itself included.  Documents keep a whole number in one form only, so that among documents
without doubles equal values are identical.
-/

namespace GameConfig
namespace Value

open Number

variable {a b : Value}

theorem form_of_number (h : a.kind = .number) : a.form = .scalar := by
  cases a <;> first | rfl | cases h

theorem isContainer_of_step? {step : Step} {x : Value} (h : a.step? step = some x) :
    a.IsContainer := by
  cases a with
  | array items => exact Or.inl rfl
  | object members => exact Or.inr rfl
  | _ => cases step <;> cases h

/-!
# Identity of containers
-/

theorem kind_eq_of_identical (h : a.identical b = true) : a.kind = b.kind := by
  cases a <;> cases b <;> first | rfl | cases h

theorem identicalItems_iff (xs ys : List Value) :
    identicalItems xs ys = true ↔ List.Forall₂ (fun x y => x.identical y = true) xs ys := by
  induction xs generalizing ys with
  | nil =>
      cases ys <;> simp [identicalItems]
  | cons x xs ih =>
      cases ys with
      | nil => simp [identicalItems]
      | cons y ys => rw [identicalItems, Bool.and_eq_true, ih, List.forall₂_cons]

theorem identicalMembers_eq_all (xs ys : Dictionary Value) :
    identicalMembers xs ys =
      xs.all fun member => (Dictionary.find? member.1 ys).any member.2.identical := by
  induction xs with
  | nil =>
      rfl
  | cons member xs ih =>
      obtain ⟨name, x⟩ := member
      rw [identicalMembers, ih, List.all_cons]
      cases Dictionary.find? name ys <;> rfl

theorem identical_container_iff (ha : a.HasDistinctNames) (hb : b.HasDistinctNames)
    (hcontainer : a.IsContainer) (hkind : a.kind = b.kind) :
    a.identical b = true ↔
      ∀ step, Option.Rel (fun x y => x.identical y = true) (a.step? step) (b.step? step) := by
  cases a <;> rcases hcontainer with h | h <;> cases h <;> cases b <;> cases hkind
  case array.inl.refl.array xs ys =>
    rw [identical, identicalItems_iff, forall₂_iff_getElem?]
    constructor
    · intro h step
      cases step with
      | member name => exact .none
      | element index => exact h index
    · intro h index
      exact h (.element index)
  case object.inr.refl.object xs ys =>
    have hmembers : (xs.length == ys.length && identicalMembers xs ys) = true ↔
        xs.length = ys.length ∧
          ∀ name x, (name, x) ∈ xs →
            ∃ y, Dictionary.find? name ys = some y ∧ x.identical y = true := by
      rw [Bool.and_eq_true, beq_iff_eq, identicalMembers_eq_all, List.all_eq_true, Prod.forall]
      simp only [Option.any_eq_true]
    rw [identical, hmembers, ← Dictionary.Distinct.rel_find?_iff ha hb]
    constructor
    · intro h step
      cases step with
      | member name => exact h name
      | element index => exact .none
    · intro h name
      exact h (.member name)

/-!
# Identity of numbers
-/

theorem equal_number_iff (ha : a.kind = .number) (hb : b.kind = .number) :
    a.equal b = true ↔ ∃ m, a.number? = some m ∧ b.number? = some m := by
  constructor
  · intro h
    exact number?_eq_of_equal ha hb h
  · intro h
    rcases h with ⟨m, hm, hn⟩
    rw [equal_iff, compare_of_number ha hb, hm, hn, Option.map₂_some_some, cmp_self_eq_eq]

theorem equal_integer_iff (m n : Int64) :
    (Value.integer m).equal (.integer n) = true ↔ m = n := by
  rw [equal_number_iff rfl rfl]
  simp only [number?, Option.some.injEq, exists_eq_left']
  rw [WithBotTop.coe_injective.eq_iff, Int.cast_inj, Int64.toInt_inj, eq_comm]

theorem equal_unsigned_iff (m n : UInt64) :
    (Value.unsigned m).equal (.unsigned n) = true ↔ m = n := by
  rw [equal_number_iff rfl rfl]
  simp only [number?, Option.some.injEq, exists_eq_left']
  rw [WithBotTop.coe_injective.eq_iff, Nat.cast_inj, UInt64.toNat_inj, eq_comm]

theorem identical_number_iff (ha : a.kind = .number) (hb : b.kind = .number) :
    a.identical b = true ↔ a.equal b = true ∧ a.typeName = b.typeName := by
  cases a <;> cases ha <;> cases b <;> cases hb
  case integer.refl.integer.refl m n => simp [identical, equal_integer_iff, typeName]
  case unsigned.refl.unsigned.refl m n => simp [identical, equal_unsigned_iff, typeName]
  case float.refl.float.refl x y =>
    simp [identical, equal, compare, numeric?, Numeric.compare, typeName]
  all_goals simp [identical, typeName]

/-!
# The forms of numbers
-/

/-- Where two values have numbers at the same position, these are of one form. -/
def SameNumberForms (a b : Value) : Prop :=
  ∀ position m n, a.at? position = some m → b.at? position = some n →
    m.kind = .number → n.kind = .number → m.typeName = n.typeName

theorem sameNumberForms_iff :
    SameNumberForms a b ↔
      (a.kind = .number → b.kind = .number → a.typeName = b.typeName) ∧
        ∀ step x y, a.step? step = some x → b.step? step = some y → SameNumberForms x y := by
  constructor
  · intro h
    refine ⟨h [] a b rfl rfl, fun step x y hx hy position m n hm hn => ?_⟩
    apply h (step :: position) m n
    · rw [at?_cons, hx]
      exact hm
    · rw [at?_cons, hy]
      exact hn
  · intro h position m n hm hn
    cases position with
    | nil =>
        cases hm
        cases hn
        exact h.left
    | cons step rest =>
        rw [at?_cons, Option.bind_eq_some_iff] at hm hn
        rcases hm with ⟨x, hx, hm⟩
        rcases hn with ⟨y, hy, hn⟩
        exact h.right step x y hx hy rest m n hm hn

theorem sameNumberForms_of_scalar (h : a.form = .scalar) :
    SameNumberForms a b ↔ (a.kind = .number → b.kind = .number → a.typeName = b.typeName) := by
  rw [sameNumberForms_iff]
  refine and_iff_left fun step x y hx => ?_
  rw [step?_of_scalar h] at hx
  cases hx

theorem option_rel_and {P Q R : Value → Value → Prop} {x? y? : Option Value}
    (h : ∀ x y, x? = some x → y? = some y → (P x y ↔ Q x y ∧ R x y)) :
    Option.Rel P x? y? ↔
      Option.Rel Q x? y? ∧ ∀ x y, x? = some x → y? = some y → R x y := by
  cases x? <;> cases y? <;> simp_all

/-- Identical values are the equal ones whose numbers are of the same forms. -/
theorem identical_iff (ha : a.WellFormed) (hb : b.WellFormed) :
    a.identical b = true ↔ a.equal b = true ∧ SameNumberForms a b := by
  induction a using inside_induction generalizing b with
  | inside a ih =>
      by_cases hkind : a.kind = b.kind
      · cases alike_of_kind_eq hkind with
        | null => simp [sameNumberForms_of_scalar (a := .null) rfl, identical, equal, compare, kind]
        | boolean x y =>
            rw [sameNumberForms_of_scalar rfl]
            cases x <;> cases y <;> simp [identical, equal, compare, kind]
        | string x y =>
            rw [sameNumberForms_of_scalar rfl]
            simp [identical, equal, compare, kind]
        | number hleft hright =>
            rw [identical_number_iff hleft hright,
              sameNumberForms_of_scalar (form_of_number hleft)]
            simp [hleft, hright]
        | container hleft _ =>
            have hnumber : a.kind ≠ .number := by
              rcases hleft with h | h <;> rw [h] <;> decide
            rw [identical_container_iff ha.self hb.self hleft hkind,
              equal_container_iff ha.self hb.self hleft hkind, sameNumberForms_iff]
            simp only [hnumber, false_implies, true_and, ← forall_and]
            refine forall_congr' fun step => option_rel_and fun x y hx hy => ?_
            exact ih step x hx (ha.step hx) (hb.step hy)
      · constructor
        · intro h
          exact absurd (kind_eq_of_identical h) hkind
        · intro h
          exact absurd (kind_eq_of_compare (equal_iff.mp h.left)) hkind

/-!
# A value and itself
-/

def IsNoNaN : Value → Prop
  | .float x => x.isNaN = false
  | _ => True

instance : DecidablePred IsNoNaN
  | .float x => inferInstanceAs (Decidable (x.isNaN = false))
  | .null | .boolean _ | .integer _ | .unsigned _ | .string _ | .array _ | .object _ =>
      .isTrue trivial

theorem isNoNaN_iff_of_number (ha : a.kind = .number) :
    a.IsNoNaN ↔ ∃ m, a.number? = some m := by
  rw [← Option.isSome_iff_exists, ← Option.ne_none_iff_isSome, ne_eq, number?_eq_none_iff ha]
  cases a <;> cases ha <;> simp [IsNoNaN]

theorem option_rel_self_iff {R : Value → Value → Prop} {x? : Option Value} :
    Option.Rel R x? x? ↔ ∀ x, x? = some x → R x x := by
  cases x? <;> simp

theorem equal_self_iff (ha : a.WellFormed) : a.equal a = true ↔ a.Throughout IsNoNaN := by
  induction a using inside_induction with
  | inside a ih =>
      cases alike_of_kind_eq (a := a) rfl with
      | null => exact iff_of_true rfl (throughout_of_scalar rfl trivial)
      | boolean x _ =>
          refine iff_of_true ?_ (throughout_of_scalar rfl trivial)
          cases x <;> rfl
      | string x _ =>
          refine iff_of_true ?_ (throughout_of_scalar rfl trivial)
          simp [equal, compare]
      | number hnumber _ =>
          have hscalar := form_of_number hnumber
          have hself : a.Throughout IsNoNaN ↔ a.IsNoNaN :=
            ⟨Throughout.self, throughout_of_scalar hscalar⟩
          rw [hself, isNoNaN_iff_of_number hnumber, equal_number_iff hnumber hnumber]
          simp only [and_self]
      | container hcontainer _ =>
          have hself : a.IsNoNaN := by
            cases a with
            | float x => rcases hcontainer with h | h <;> cases h
            | _ => trivial
          rw [equal_container_iff ha.self ha.self hcontainer rfl, throughout_iff,
            and_iff_right hself]
          simp only [option_rel_self_iff]
          refine forall_congr' fun step => forall_congr' fun x => ?_
          exact imp_congr_right fun hx => ih step x hx (ha.step hx)

/-!
# Documents
-/

theorem equal_at? {position : Position} {x y : Value} (ha : a.WellFormed) (hb : b.WellFormed)
    (h : a.equal b = true) (hx : a.at? position = some x) (hy : b.at? position = some y) :
    x.equal y = true := by
  induction position generalizing a b with
  | nil =>
      cases hx
      cases hy
      exact h
  | cons step rest ih =>
      rw [at?_cons, Option.bind_eq_some_iff] at hx hy
      rcases hx with ⟨u, hu, hx⟩
      rcases hy with ⟨w, hw, hy⟩
      have hcontainer : a.IsContainer := isContainer_of_step? hu
      have hkind := kind_eq_of_compare (equal_iff.mp h)
      have hinside := (equal_container_iff ha.self hb.self hcontainer hkind).mp h step
      rw [hu, hw, Option.rel_some_some] at hinside
      exact ih (ha.step hu) (hb.step hw) hinside hx hy

def IsNoDouble : Value → Prop
  | .float _ => False
  | _ => True

instance : DecidablePred IsNoDouble
  | .float _ => .isFalse id
  | .null | .boolean _ | .integer _ | .unsigned _ | .string _ | .array _ | .object _ =>
      .isTrue trivial

theorem not_equal_integer_unsigned {m : Int64} {n : UInt64}
    (hn : (Value.unsigned n).NumberInRange) : (Value.integer m).equal (.unsigned n) ≠ true := by
  intro h
  rw [equal_number_iff rfl rfl] at h
  simp only [number?, Option.some.injEq, exists_eq_left'] at h
  have hnumber : ((n.toNat : Int) : ℚ) = m.toInt := by
    rw [Int.cast_natCast]
    exact WithBotTop.coe_injective h
  have hword : (n.toNat : Int) = m.toInt := Int.cast_injective hnumber
  have hlimit : 2 ^ 63 ≤ n.toNat := hn
  have hhigh := m.toInt_lt
  omega

theorem typeName_eq_of_equal (ha : a.kind = .number) (hb : b.kind = .number)
    (hrange : a.NumberInRange ∧ b.NumberInRange) (hleft : a.IsNoDouble) (hright : b.IsNoDouble)
    (h : a.equal b = true) : a.typeName = b.typeName := by
  cases a with
  | integer m =>
      cases b with
      | integer n => rfl
      | unsigned n => exact absurd h (not_equal_integer_unsigned hrange.right)
      | float y => exact absurd hright id
      | _ => cases hb
  | unsigned m =>
      cases b with
      | integer n =>
          rw [equal_number_iff rfl rfl] at h
          rcases h with ⟨k, hm, hn⟩
          have hswap : (Value.integer n).equal (.unsigned m) = true :=
            (equal_number_iff rfl rfl).mpr ⟨k, hn, hm⟩
          exact absurd hswap (not_equal_integer_unsigned hrange.left)
      | unsigned n => rfl
      | float y => exact absurd hright id
      | _ => cases hb
  | float x => exact absurd hleft id
  | _ => cases ha

theorem IsDocument.wellFormed {levels : Nat} (h : a.IsDocument levels) : a.WellFormed := by
  intro position w hw
  have hnames := h.names position w hw
  cases w with
  | object members => exact Dictionary.Ascending.distinct hnames
  | _ => trivial

theorem IsDocument.sameNumberForms {levels : Nat} (ha : a.IsDocument levels)
    (hb : b.IsDocument levels) (hleft : a.Throughout IsNoDouble) (hright : b.Throughout IsNoDouble)
    (h : a.equal b = true) : SameNumberForms a b := by
  intro position m n hm hn hkind hkind'
  have hequal := equal_at? ha.wellFormed hb.wellFormed h hm hn
  exact typeName_eq_of_equal hkind hkind' ⟨ha.numbers position m hm, hb.numbers position n hn⟩
    (hleft position m hm) (hright position n hn) hequal

/-- A value is equal to itself exactly if no double without a number is inside it.  Identical
values are equal, and equal values are identical if their numbers, place by place, are of one
form.  Documents without doubles are equal exactly if they are identical. -/
theorem identity_and_equality (a b : Value) (ha : a.WellFormed) (hb : b.WellFormed) :
    (a.equal a = true ↔
      ∀ position x, a.at? position = some (.float x) → x.isNaN = false) ∧
    (a.identical b = true → a.equal b = true) ∧
    (a.equal b = true → SameNumberForms a b → a.identical b = true) ∧
    ∀ (s t : String) (v w : Value), Json.readDocument s = .ok v → Json.readDocument t = .ok w →
      v.Throughout IsNoDouble → w.Throughout IsNoDouble → v.equal w = v.identical w := by
  refine ⟨?_, fun h => ((identical_iff ha hb).mp h).left,
    fun h hforms => (identical_iff ha hb).mpr ⟨h, hforms⟩, ?_⟩
  · rw [equal_self_iff ha]
    constructor
    · intro h position x hx
      exact h position (.float x) hx
    · intro h position w hw
      cases w with
      | float x => exact h position x hw
      | _ => trivial
  · intro s t v w hs ht hv hw
    have hvdocument := Json.isDocument_of_readDocument hs
    have hwdocument := Json.isDocument_of_readDocument ht
    rw [Bool.eq_iff_iff, identical_iff hvdocument.wellFormed hwdocument.wellFormed]
    constructor
    · intro h
      exact ⟨h, hvdocument.sameNumberForms hwdocument hv hw h⟩
    · intro h
      exact h.left

theorem identity_of_zeros_and_words :
    let a : Value := .object [("depth", .float ⟨0⟩), ("seeds", .array [.unsigned 7])]
    let b : Value :=
      .object [("seeds", .array [.unsigned 7]), ("depth", .float ⟨0x8000000000000000⟩)]
    let s := "\x7b\"hash\": 18446744073709551615, \"seed\": [9223372036854775807]\x7d"
    let t := "\x7b\"seed\": [9223372036854775807], \"hash\": 18446744073709551615\x7d"
    let v : Value := .object
      [("hash", .unsigned 18446744073709551615), ("seed", .array [.integer 9223372036854775807])]
    a.WellFormed ∧ b.WellFormed ∧ a.identical b = true ∧ a.equal b = true ∧
      Json.readDocument s = .ok v ∧ Json.readDocument t = .ok v ∧ v.Throughout IsNoDouble ∧
      v.equal v = v.identical v := by
  intro a b s t v
  have ha : a.WellFormed := throughout_of_everywhere (by decide)
  have hb : b.WellFormed := throughout_of_everywhere (by decide)
  have hidentical : a.identical b = true := by decide +kernel
  have hs : Json.readDocument s = .ok v := by decide +kernel
  have ht : Json.readDocument t = .ok v := by decide +kernel
  have hv : v.Throughout IsNoDouble := throughout_of_everywhere (by decide)
  have hfacts := identity_and_equality a b ha hb
  exact ⟨ha, hb, hidentical, hfacts.right.left hidentical, hs, ht, hv,
    hfacts.right.right.right s t v v hs ht hv hv⟩

end Value
end GameConfig
