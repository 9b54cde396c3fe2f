import GameConfig.Proofs.Value.Shape
import GameConfig.Proofs.Value.Text

/-!
# Numbers in range

A document keeps its whole numbers in signed words as long as they fit, and its doubles are
finite.  These numbers are what a text can keep, so that nothing is lost of a value in which
all numbers are of this kind.
-/

namespace GameConfig
namespace Value

open Number

def NumberInRange : Value → Prop
  | .unsigned n => Json.signedLimit ≤ n.toNat
  | .float x => x.isFinite = true
  | _ => True

structure IsDocument (levels : Nat) (v : Value) : Prop where
  numbers : v.Throughout NumberInRange
  names : v.Throughout HasAscendingNames
  depth_le : v.depth ≤ levels

/-!
# Scalars and containers
-/

theorem throughout_of_scalar {P : Value → Prop} {v : Value} (hform : v.form = .scalar)
    (h : P v) : v.Throughout P := by
  rw [throughout_iff]
  refine ⟨h, fun step w hw => ?_⟩
  rw [step?_of_scalar hform] at hw
  cases hw

theorem throughout_array {P : Value → Prop} {items : List Value} (hself : P (.array items))
    (h : ∀ v ∈ items, v.Throughout P) : (Value.array items).Throughout P := by
  rw [throughout_iff]
  refine ⟨hself, fun step w hw => ?_⟩
  cases step with
  | member name => cases hw
  | element index => exact h w (List.mem_of_getElem? hw)

theorem throughout_object {P : Value → Prop} {members : Dictionary Value}
    (hself : P (.object members)) (h : ∀ member ∈ members, member.2.Throughout P) :
    (Value.object members).Throughout P := by
  rw [throughout_iff]
  refine ⟨hself, fun step w hw => ?_⟩
  cases step with
  | member name => exact h (name, w) (Dictionary.mem_of_find? hw)
  | element index => cases hw

theorem depthOfItems_le {items : List Value} {levels : Nat}
    (h : ∀ v ∈ items, v.depth ≤ levels) : depthOfItems items ≤ levels := by
  induction items with
  | nil => exact Nat.zero_le levels
  | cons v rest ih =>
      rw [List.forall_mem_cons] at h
      exact Nat.max_le.mpr ⟨h.left, ih h.right⟩

theorem depthOfMembers_le {members : List (String × Value)} {levels : Nat}
    (h : ∀ member ∈ members, member.2.depth ≤ levels) : depthOfMembers members ≤ levels := by
  induction members with
  | nil => exact Nat.zero_le levels
  | cons member rest ih =>
      rw [List.forall_mem_cons] at h
      exact Nat.max_le.mpr ⟨h.left, ih h.right⟩

theorem depth_of_scalar {v : Value} (h : v.form = .scalar) : v.depth = 0 := by
  cases v <;> first | rfl | cases h

namespace IsDocument

variable {levels : Nat} {v : Value}

theorem of_scalar (hform : v.form = .scalar) (h : v.NumberInRange) (levels : Nat) :
    v.IsDocument levels := by
  constructor
  · exact throughout_of_scalar hform h
  · refine throughout_of_scalar hform ?_
    cases v <;> trivial
  · rw [depth_of_scalar hform]
    exact Nat.zero_le levels

theorem array {items : List Value} (h : ∀ v ∈ items, v.IsDocument levels) :
    (Value.array items).IsDocument (levels + 1) := by
  constructor
  · exact throughout_array trivial fun v hv => (h v hv).numbers
  · exact throughout_array trivial fun v hv => (h v hv).names
  · exact Nat.succ_le_succ (depthOfItems_le fun v hv => (h v hv).depth_le)

theorem object {members : Dictionary Value} (hnames : members.Ascending)
    (h : ∀ member ∈ members, member.2.IsDocument levels) :
    (Value.object members).IsDocument (levels + 1) := by
  constructor
  · exact throughout_object trivial fun member hmember => (h member hmember).numbers
  · exact throughout_object hnames fun member hmember => (h member hmember).names
  · exact Nat.succ_le_succ (depthOfMembers_le fun member hmember => (h member hmember).depth_le)

theorem step {w : Value} {step : Step} (h : v.IsDocument levels)
    (hstep : v.step? step = some w) : w.IsDocument levels := by
  refine ⟨h.numbers.step hstep, h.names.step hstep, Nat.le_trans ?_ h.depth_le⟩
  cases step with
  | member name =>
      cases v with
      | object members =>
          have hle := depth_le_of_mem_members (Dictionary.mem_of_find? hstep)
          exact Nat.le_succ_of_le hle
      | _ => cases hstep
  | element index =>
      cases v with
      | array items =>
          have hle := depth_le_of_mem_items (List.mem_of_getElem? hstep)
          exact Nat.le_succ_of_le hle
      | _ => cases hstep

end IsDocument

/-!
# What a text keeps
-/

theorem asWritten_of_numberInRange {v : Value} (hform : v.form = .scalar)
    (h : v.NumberInRange) : v.asWritten = v := by
  cases v with
  | unsigned n => exact if_neg (Nat.not_lt.mpr h)
  | float x => exact if_pos h
  | array items => cases hform
  | object members => cases hform
  | _ => rfl

theorem asWritten_eq_self {v : Value} (hnumbers : v.Throughout NumberInRange)
    (hnames : v.Throughout HasAscendingNames) : v.asWritten = v := by
  induction v using inside_induction with
  | inside v ih =>
    cases v with
    | array items =>
        have hitems : items.map asWritten = items.map id := by
          apply List.map_congr_left
          intro w hw
          rcases List.getElem?_of_mem hw with ⟨index, hindex⟩
          exact ih (.element index) w hindex (hnumbers.of_mem_items hw)
            (hnames.of_mem_items hw)
        rw [asWritten, itemsAsWritten_eq_map, hitems, List.map_id]
    | object members =>
        have hdistinct : Dictionary.Distinct members := Dictionary.Ascending.distinct hnames.self
        have hmembers :
            (members.map fun member => (member.1, member.2.asWritten)) = members.map id := by
          apply List.map_congr_left
          rintro ⟨name, w⟩ hw
          rw [ih (.member name) w (hdistinct.find?_of_mem hw)
            (hnumbers.of_mem_members hdistinct hw) (hnames.of_mem_members hdistinct hw)]
          rfl
        rw [asWritten, membersAsWritten_eq_map, hmembers, List.map_id]
    | _ => exact asWritten_of_numberInRange rfl hnumbers.self

end Value
end GameConfig
