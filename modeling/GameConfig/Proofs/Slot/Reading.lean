import GameConfig.Slot.Basic

/-!
# Reading slots

A value is read as a condition exactly if it has an operator; the operands are then read from
the elements of the operator's member, or from the member itself if that is no array.  A value
without operator is read as a variable, and what is read as a constant is the value itself.
-/

namespace GameConfig

namespace Operator

def operandValues : Value → List Value
  | .array items => items
  | v => [v]

theorem operandValues_of_items?_eq_none {v : Value} (h : v.items? = none) :
    operandValues v = [v] := by
  cases v with
  | array items => cases h
  | _ => rfl

end Operator

namespace Slot

theorem ofItems_eq_map (items : List Value) : ofItems items = items.map ofValue := by
  induction items with
  | nil => rfl
  | cons v vs ih => rw [ofItems, ih, List.map_cons]

theorem find?_operandLists (name : String) (members : Dictionary Value) :
    Dictionary.find? name (operandLists members) =
      (members.find? name).map fun v => (Operator.operandValues v).map ofValue := by
  induction members with
  | nil => rfl
  | cons member rest ih =>
      obtain ⟨other, v⟩ := member
      have hfirst : operandLists ((other, v) :: rest) =
          (other, (Operator.operandValues v).map ofValue) :: operandLists rest := by
        cases v with
        | array items => exact congrArg (fun slots => (other, slots) :: _) (ofItems_eq_map items)
        | _ => rfl
      rw [hfirst, Dictionary.find?_cons, Dictionary.find?_cons, ih]
      split <;> rfl

theorem first?_operandLists (members : Dictionary Value) :
    Operator.first? (operandLists members) =
      (Operator.first? members).map fun found =>
        (found.1, (Operator.operandValues found.2).map ofValue) := by
  unfold Operator.first?
  simp only [find?_operandLists, List.map_findSome?, Function.comp_def, Option.map_map]

theorem ofValue_of_operator {v member : Value} {op : Operator}
    (h : Operator.ofValue? v = some (op, member)) :
    ofValue v = .condition op ((Operator.operandValues member).map ofValue) := by
  cases v with
  | object members =>
      have hfirst : Operator.first? members = some (op, member) := h
      rw [ofValue, first?_operandLists, hfirst]
      rfl
  | _ => cases h

theorem ofValue_of_no_operator {v : Value} (h : Operator.ofValue? v = none) :
    ofValue v = .variable (.ofValue v) := by
  cases v with
  | object members =>
      have hfirst : Operator.first? members = none := h
      rw [ofValue, first?_operandLists, hfirst]
      rfl
  | _ => rfl

end Slot

theorem Variable.ofValue_cases (v : Value) :
    ofValue v = .literal v ∨ ∃ scope name, ofValue v = .reference scope name := by
  cases v with
  | object members =>
      rw [ofValue]
      split
      · rename_i scope name _
        exact Or.inr ⟨scope, name, rfl⟩
      · exact Or.inl rfl
  | _ => exact Or.inl rfl

/-!
# Entering the member of an operator
-/

namespace Operator

theorem word_injective : Function.Injective (Keyword.word : Operator → String) := by
  intro op other h
  cases op <;> cases other <;> first | rfl | (revert h; decide)

theorem first?_singleton {α : Type} (op : Operator) (entry : α) :
    first? [(Keyword.word op, entry)] = some (op, entry) := by
  cases op <;> rfl

theorem first?_insert {α : Type} {members : Dictionary α} {op : Operator} {old : α}
    (h : first? members = some (op, old)) (entry : α) :
    first? (members.insert (Keyword.word op) entry) = some (op, entry) := by
  unfold first? at h ⊢
  rw [List.findSome?_eq_some_iff] at h ⊢
  rcases h with ⟨before, other, behind, hall, hfound, hbefore⟩
  rcases Option.map_eq_some_iff.mp hfound with ⟨entry', hentry', hpair⟩
  cases hpair
  refine ⟨before, op, behind, hall, ?_, ?_⟩
  · rw [Dictionary.find?_insert_self]
    rfl
  · intro earlier hearlier
    have hmissing := hbefore earlier hearlier
    have hne : Keyword.word earlier ≠ Keyword.word op := by
      intro hsame
      rw [word_injective hsame, hentry'] at hmissing
      cases hmissing
    rwa [Dictionary.find?_insert_of_ne hne]

end Operator

end GameConfig
