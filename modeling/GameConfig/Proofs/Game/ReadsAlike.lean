import GameConfig.Proofs.Game.WellFormed

/-!
# Saved games that read alike

A name that was never set reads like one that was set to the value of its scope, and an
inventory that was never opened like one without items.  So saved games can differ in what
they store and still read alike: then all questions are settled between them.
-/

namespace GameConfig
namespace SaveState

/-- Two saved games read alike if every name has the same value in both, whether it was set
or not, and the inventories of every name have the same items. -/
structure ReadsAlike (state state' : SaveState) : Prop where
  lookup : ∀ scope name,
    (state'.lookup scope name).getD scope.unset = (state.lookup scope name).getD scope.unset
  hasItem : ∀ item inventory,
    state'.hasItem item (some inventory) = state.hasItem item (some inventory)

variable {state state' : SaveState}

theorem reading_hasFlag (state : SaveState) (name : String) :
    (state.lookup .flag name).getD Scope.flag.unset = .boolean (state.hasFlag name) := by
  show ((state.flags.find? name).map Value.boolean).getD (.boolean false) =
    .boolean ((state.flags.find? name).getD false)
  cases state.flags.find? name with
  | none => rfl
  | some held => rfl

theorem ReadsAlike.hasFlag_eq (h : state.ReadsAlike state') (name : String) :
    state'.hasFlag name = state.hasFlag name := by
  have hread := h.lookup .flag name
  rw [reading_hasFlag, reading_hasFlag] at hread
  exact Value.boolean.inj hread

theorem ReadsAlike.hasItem_none_eq (h : state.ReadsAlike state') (hstate : state.WellFormed)
    (hstate' : state'.WellFormed) (item : String) :
    state'.hasItem item none = state.hasItem item none := by
  rw [Bool.eq_iff_iff, hstate.hasItem_none_iff, hstate'.hasItem_none_iff]
  constructor
  · rintro ⟨inventory, hitem⟩
    exact ⟨inventory, by rwa [← h.hasItem]⟩
  · rintro ⟨inventory, hitem⟩
    exact ⟨inventory, by rwa [h.hasItem]⟩

theorem ReadsAlike.settled (h : state.ReadsAlike state') (hstate : state.WellFormed)
    (hstate' : state'.WellFormed) (q : Question) : state.game.Settled state'.game q := by
  cases q with
  | lookup scope name => exact h.lookup scope name
  | hasItem item asked? =>
      apply Game.settled_of_answer_eq
      apply congrArg (some ∘ Value.boolean)
      cases asked? with
      | none => exact h.hasItem_none_eq hstate hstate' item
      | some inventory => exact h.hasItem item inventory
  | hasFlag name =>
      apply Game.settled_of_answer_eq
      exact congrArg (some ∘ Value.boolean) (h.hasFlag_eq name)

/-!
# Setting a name to the value of its scope
-/

def Update.unset : Scope → String → Update
  | .flag, name => .setFlag name false
  | .counter, name => .setCounter name 0
  | .quest, name => .setQuest name 0
  | .text, name => .setText name ""

theorem lookup_unset_self (state : SaveState) (scope : Scope) (name : String) :
    (state.apply (.unset scope name)).lookup scope name = some scope.unset := by
  cases scope <;> exact congrArg (Option.map _) (Dictionary.find?_insert_self name _ _)

theorem Update.not_touches_unset {scope other : Scope} {name asked : String}
    (h : ¬ (other = scope ∧ asked = name)) :
    ¬ (Update.unset scope name).Touches (.lookup other asked) := by
  intro htouches
  apply h
  cases scope <;> cases other <;> first | exact ⟨rfl, htouches⟩ | exact htouches.elim

theorem readsAlike_unset {scope : Scope} {name : String}
    (h : state.lookup scope name = none) :
    state.ReadsAlike (state.apply (.unset scope name)) := by
  constructor
  · intro other asked
    by_cases hsame : other = scope ∧ asked = name
    · rcases hsame with ⟨rfl, rfl⟩
      rw [lookup_unset_self, h]
      rfl
    · rw [lookup_apply_of_not_touches state (Update.not_touches_unset hsame)]
  · intro item inventory
    apply hasItem_apply_of_not_touches
    cases scope <;> exact id

/-!
# Opening an inventory
-/

/-- Opens an inventory without items, unless it is there already. -/
def openInventory (state : SaveState) (inventory : String) : SaveState :=
  { state with
    inventories := state.inventories.insert inventory (state.items inventory) }

theorem WellFormed.openInventory (h : state.WellFormed) (inventory : String) :
    (state.openInventory inventory).WellFormed :=
  { h with inventories := h.inventories.insert inventory _ }

theorem items_openInventory (state : SaveState) (inventory asked : String) :
    (state.openInventory inventory).items asked = state.items asked := by
  show ((state.inventories.insert inventory _).find? asked).getD [] = _
  by_cases hasked : asked = inventory
  · subst hasked
    rw [Dictionary.find?_insert_self]
    rfl
  · rw [Dictionary.find?_insert_of_ne hasked]
    rfl

theorem readsAlike_openInventory (state : SaveState) (inventory : String) :
    state.ReadsAlike (state.openInventory inventory) := by
  constructor
  · intro scope name
    cases scope <;> rfl
  · intro item asked
    exact congrArg (List.contains · item) (items_openInventory state inventory asked)

/-!
# Adding items

Neither the order in which items are added nor their number can be read.
-/

def addItems (state : SaveState) (additions : List (String × String)) : SaveState :=
  state.run (additions.map fun addition => .addItem addition.1 addition.2)

theorem hasItem_addItem_iff {inventory item asked other : String} :
    (state.addItem inventory item).hasItem other (some asked) = true ↔
      state.hasItem other (some asked) = true ∨ (asked, other) = (inventory, item) := by
  by_cases hasked : asked = inventory
  · subst hasked
    show ((state.addItem asked item).items asked).contains other = true ↔
      (state.items asked).contains other = true ∨ _
    rw [items_addItem_self, List.contains_iff_mem, List.contains_iff_mem, List.mem_append,
      List.mem_singleton]
    simp
  · rw [hasItem_addItem_of_ne_inventory state item other hasked]
    simp [hasked]

theorem hasItem_addItems_iff {additions : List (String × String)} {item inventory : String} :
    (state.addItems additions).hasItem item (some inventory) = true ↔
      state.hasItem item (some inventory) = true ∨ (inventory, item) ∈ additions := by
  induction additions generalizing state with
  | nil => simp [addItems]
  | cons addition additions ih =>
      show ((state.addItem addition.1 addition.2).addItems additions).hasItem item
        (some inventory) = true ↔ _
      rw [ih, hasItem_addItem_iff, List.mem_cons, or_assoc]

theorem lookup_addItems (state : SaveState) (additions : List (String × String))
    (scope : Scope) (name : String) :
    (state.addItems additions).lookup scope name = state.lookup scope name := by
  apply answer_run_of_not_touches (q := .lookup scope name)
  intro update hupdate
  rcases List.mem_map.mp hupdate with ⟨addition, -, rfl⟩
  exact id

theorem readsAlike_addItem {item inventory : String}
    (h : state.hasItem item (some inventory) = true) :
    state.ReadsAlike (state.addItem inventory item) := by
  constructor
  · intro scope name
    cases scope <;> rfl
  · intro other asked
    rw [Bool.eq_iff_iff, hasItem_addItem_iff, or_iff_left_iff_imp]
    intro hsame
    cases hsame
    exact h

theorem readsAlike_addItems {additions additions' : List (String × String)}
    (h : ∀ addition, addition ∈ additions' ↔ addition ∈ additions) :
    (state.addItems additions).ReadsAlike (state.addItems additions') := by
  constructor
  · intro scope name
    rw [lookup_addItems, lookup_addItems]
  · intro item inventory
    rw [Bool.eq_iff_iff, hasItem_addItems_iff, hasItem_addItems_iff, h]

end SaveState
end GameConfig
