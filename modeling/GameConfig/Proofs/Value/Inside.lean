import GameConfig.Proofs.Dictionary.Lookup
import GameConfig.Value.Position

/-!
# What lies inside a value

One step from a value leads to something smaller.  So what holds of a value as soon as it
holds one step inside holds of every value.
-/

namespace GameConfig
namespace Value

/-- A property of a value and of everything inside it. -/
def Throughout (P : Value → Prop) (v : Value) : Prop :=
  ∀ position w, v.at? position = some w → P w

theorem Throughout.self {P : Value → Prop} {v : Value} (h : v.Throughout P) : P v :=
  h [] v rfl

theorem Throughout.step {P : Value → Prop} {v w : Value} {step : Step}
    (h : v.Throughout P) (hstep : v.step? step = some w) : w.Throughout P := by
  intro position u hu
  apply h (step :: position) u
  rw [at?, hstep]
  exact hu

theorem throughout_iff {P : Value → Prop} {v : Value} :
    v.Throughout P ↔ P v ∧ ∀ step w, v.step? step = some w → w.Throughout P := by
  constructor
  · intro h
    exact ⟨h.self, fun step w hstep => h.step hstep⟩
  · rintro ⟨hself, hinside⟩ position w hw
    cases position with
    | nil =>
        cases hw
        exact hself
    | cons step rest =>
        rw [at?] at hw
        cases hstep : v.step? step with
        | none =>
            rw [hstep] at hw
            cases hw
        | some u =>
            rw [hstep] at hw
            exact hinside step u hstep rest w hw

/-!
# Induction
-/

theorem sizeOf_lt_of_step? {v w : Value} {step : Step} (h : v.step? step = some w) :
    sizeOf w < sizeOf v := by
  cases step with
  | member name =>
      cases v with
      | object members =>
          have hmem := Dictionary.mem_of_find? h
          have hsize := List.sizeOf_lt_of_mem hmem
          simp only [Prod.mk.sizeOf_spec] at hsize
          simp only [object.sizeOf_spec]
          omega
      | _ => cases h
  | element index =>
      cases v with
      | array items =>
          have hsize := List.sizeOf_lt_of_mem (List.mem_of_getElem? h)
          simp only [array.sizeOf_spec]
          omega
      | _ => cases h

/-- What holds of a value when it holds one step inside it holds of every value. -/
theorem inside_induction {P : Value → Prop}
    (inside : ∀ v, (∀ step w, v.step? step = some w → P w) → P v) (v : Value) : P v :=
  inside v fun _ w _ => inside_induction inside w
termination_by v
decreasing_by exact sizeOf_lt_of_step? ‹_›

/-!
# Testing everything inside a value
-/

mutual

def everywhere (test : Value → Bool) : Value → Bool
  | .array items => test (.array items) && everywhereItems test items
  | .object members => test (.object members) && everywhereMembers test members
  | v => test v

def everywhereItems (test : Value → Bool) : List Value → Bool
  | [] => true
  | v :: vs => everywhere test v && everywhereItems test vs

def everywhereMembers (test : Value → Bool) : List (String × Value) → Bool
  | [] => true
  | (_, v) :: rest => everywhere test v && everywhereMembers test rest

end

theorem everywhere_of_mem_items {test : Value → Bool} {items : List Value}
    (h : everywhereItems test items = true) {v : Value} (hmem : v ∈ items) :
    v.everywhere test = true := by
  induction items with
  | nil =>
      cases hmem
  | cons first rest ih =>
      rw [everywhereItems, Bool.and_eq_true] at h
      cases hmem with
      | head => exact h.left
      | tail _ hmem => exact ih h.right hmem

theorem everywhere_of_mem_members {test : Value → Bool} {members : List (String × Value)}
    (h : everywhereMembers test members = true) {name : String} {v : Value}
    (hmem : (name, v) ∈ members) : v.everywhere test = true := by
  induction members with
  | nil =>
      cases hmem
  | cons first rest ih =>
      rw [everywhereMembers, Bool.and_eq_true] at h
      cases hmem with
      | head => exact h.left
      | tail _ hmem => exact ih h.right hmem

theorem everywhere_self {test : Value → Bool} {v : Value} (h : v.everywhere test = true) :
    test v = true := by
  cases v <;> simp_all [everywhere]

theorem everywhere_step {test : Value → Bool} {v w : Value} {step : Step}
    (h : v.everywhere test = true) (hstep : v.step? step = some w) :
    w.everywhere test = true := by
  cases step with
  | member name =>
      cases v with
      | object members =>
          rw [everywhere, Bool.and_eq_true] at h
          exact everywhere_of_mem_members h.right (Dictionary.mem_of_find? hstep)
      | _ => cases hstep
  | element index =>
      cases v with
      | array items =>
          rw [everywhere, Bool.and_eq_true] at h
          exact everywhere_of_mem_items h.right (List.mem_of_getElem? hstep)
      | _ => cases hstep

theorem throughout_of_everywhere {P : Value → Prop} [DecidablePred P] {v : Value}
    (h : v.everywhere (fun w => decide (P w)) = true) : v.Throughout P := by
  induction v using inside_induction with
  | inside v ih =>
      rw [throughout_iff]
      exact ⟨of_decide_eq_true (everywhere_self h),
        fun step w hstep => ih step w hstep (everywhere_step h hstep)⟩

/-!
# Distinct names
-/

def HasDistinctNames : Value → Prop
  | .object members => Dictionary.Distinct members
  | _ => True

instance : DecidablePred HasDistinctNames
  | .object members => inferInstanceAs (Decidable (Dictionary.Distinct members))
  | .null | .boolean _ | .integer _ | .unsigned _ | .float _ | .string _ | .array _ =>
      .isTrue trivial

def WellFormed (v : Value) : Prop :=
  v.Throughout HasDistinctNames

end Value
end GameConfig
