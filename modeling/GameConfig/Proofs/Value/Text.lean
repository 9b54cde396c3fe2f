import GameConfig.Json.Numeral
import GameConfig.Proofs.Dictionary.Ascending
import GameConfig.Proofs.Value.Inside

/-!
# What a text keeps of a value

A text has one form for a number, so that a word which fits a signed one is read back as
that, and no form for a double that is not finite, which becomes null.  It nests as deep as
the value.
-/

namespace GameConfig
namespace Value

open Number

/-!
# Depth
-/

mutual

def depth : Value → Nat
  | .array items => depthOfItems items + 1
  | .object members => depthOfMembers members + 1
  | _ => 0

def depthOfItems : List Value → Nat
  | [] => 0
  | v :: vs => max (depth v) (depthOfItems vs)

def depthOfMembers : List (String × Value) → Nat
  | [] => 0
  | (_, v) :: rest => max (depth v) (depthOfMembers rest)

end

theorem depth_le_of_mem_items {items : List Value} {v : Value} (h : v ∈ items) :
    v.depth ≤ depthOfItems items := by
  induction items with
  | nil => cases h
  | cons first rest ih =>
      rw [depthOfItems]
      cases h with
      | head => exact Nat.le_max_left _ _
      | tail _ h => exact Nat.le_trans (ih h) (Nat.le_max_right _ _)

theorem depth_le_of_mem_members {members : List (String × Value)} {name : String} {v : Value}
    (h : (name, v) ∈ members) : v.depth ≤ depthOfMembers members := by
  induction members with
  | nil => cases h
  | cons first rest ih =>
      rw [depthOfMembers]
      cases h with
      | head => exact Nat.le_max_left _ _
      | tail _ h => exact Nat.le_trans (ih h) (Nat.le_max_right _ _)

/-!
# The value of a text
-/

mutual

/-- A value with every double that is not finite replaced by null, and every unsigned word
that fits a signed one by the integer of the same value. -/
def asWritten : Value → Value
  | .unsigned n =>
      if n.toNat < Json.signedLimit then .integer (Int64.ofNat n.toNat) else .unsigned n
  | .float x => if x.isFinite then .float x else .null
  | .array items => .array (itemsAsWritten items)
  | .object members => .object (membersAsWritten members)
  | v => v

def itemsAsWritten : List Value → List Value
  | [] => []
  | v :: vs => asWritten v :: itemsAsWritten vs

def membersAsWritten : List (String × Value) → List (String × Value)
  | [] => []
  | (name, v) :: rest => (name, asWritten v) :: membersAsWritten rest

end

theorem membersAsWritten_eq_map (members : List (String × Value)) :
    membersAsWritten members = members.map fun member => (member.1, member.2.asWritten) := by
  induction members with
  | nil => rfl
  | cons member rest ih =>
      obtain ⟨name, v⟩ := member
      rw [membersAsWritten, ih, List.map_cons]

theorem itemsAsWritten_eq_map (items : List Value) :
    itemsAsWritten items = items.map asWritten := by
  induction items with
  | nil => rfl
  | cons v rest ih => rw [itemsAsWritten, ih, List.map_cons]

mutual

def mapDoubles (f : Binary64 → Binary64) : Value → Value
  | .float x => .float (f x)
  | .array items => .array (mapDoublesOfItems f items)
  | .object members => .object (mapDoublesOfMembers f members)
  | v => v

def mapDoublesOfItems (f : Binary64 → Binary64) : List Value → List Value
  | [] => []
  | v :: vs => mapDoubles f v :: mapDoublesOfItems f vs

def mapDoublesOfMembers (f : Binary64 → Binary64) :
    List (String × Value) → List (String × Value)
  | [] => []
  | (name, v) :: rest => (name, mapDoubles f v) :: mapDoublesOfMembers f rest

end

theorem mapDoublesOfItems_eq_map (f : Binary64 → Binary64) (items : List Value) :
    mapDoublesOfItems f items = items.map (mapDoubles f) := by
  induction items with
  | nil => rfl
  | cons v rest ih => rw [mapDoublesOfItems, ih, List.map_cons]

theorem mapDoublesOfMembers_eq_map (f : Binary64 → Binary64)
    (members : List (String × Value)) :
    mapDoublesOfMembers f members =
      members.map fun member => (member.1, member.2.mapDoubles f) := by
  induction members with
  | nil => rfl
  | cons member rest ih =>
      obtain ⟨name, v⟩ := member
      rw [mapDoublesOfMembers, ih, List.map_cons]

/-!
# Values that a text can hold
-/

/-- The members of an object stand in the order that entering them one by one leads to. -/
def HasAscendingNames : Value → Prop
  | .object members => Dictionary.Ascending members
  | _ => True

instance : DecidablePred HasAscendingNames
  | .object members => inferInstanceAs (Decidable (Dictionary.Ascending members))
  | .null | .boolean _ | .integer _ | .unsigned _ | .float _ | .string _ | .array _ =>
      .isTrue trivial

def IsNoFiniteDouble : Value → Prop
  | .float x => x.isFinite = false
  | _ => True

instance : DecidablePred IsNoFiniteDouble
  | .float x => inferInstanceAs (Decidable (x.isFinite = false))
  | .null | .boolean _ | .integer _ | .unsigned _ | .string _ | .array _ | .object _ =>
      .isTrue trivial

theorem Throughout.of_mem_items {P : Value → Prop} {items : List Value} {v : Value}
    (h : (Value.array items).Throughout P) (hmem : v ∈ items) : v.Throughout P := by
  rcases List.getElem?_of_mem hmem with ⟨index, hindex⟩
  have hstep : (Value.array items).step? (.element index) = some v := hindex
  exact h.step hstep

theorem Throughout.of_mem_members {P : Value → Prop} {members : Dictionary Value}
    {name : String} {v : Value} (h : (Value.object members).Throughout P)
    (hdistinct : members.Distinct) (hmem : (name, v) ∈ members) : v.Throughout P := by
  have hstep : (Value.object members).step? (.member name) = some v :=
    hdistinct.find?_of_mem hmem
  exact h.step hstep

end Value
end GameConfig
