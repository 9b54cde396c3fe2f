import GameConfig.Proofs.Dictionary.Ascending
import GameConfig.Proofs.Game.Update

/-!
# Saved games in order

The dictionaries of a saved game are in order from its start on, and every update keeps them
so.  Then no name stands twice in any of them, and an item is in some inventory exactly if
some name leads to an inventory that has it.
-/

namespace GameConfig
namespace SaveState

structure WellFormed (state : SaveState) : Prop where
  flags : state.flags.Ascending
  counters : state.counters.Ascending
  quests : state.quests.Ascending
  text : state.text.Ascending
  inventories : state.inventories.Ascending

instance (state : SaveState) : Decidable state.WellFormed :=
  decidable_of_iff
    (state.flags.Ascending ∧ state.counters.Ascending ∧ state.quests.Ascending ∧
      state.text.Ascending ∧ state.inventories.Ascending)
    ⟨fun ⟨flags, counters, quests, text, inventories⟩ =>
      ⟨flags, counters, quests, text, inventories⟩,
      fun h => ⟨h.flags, h.counters, h.quests, h.text, h.inventories⟩⟩

theorem wellFormed_empty : empty.WellFormed := by
  decide

theorem WellFormed.apply {state : SaveState} (h : state.WellFormed) (update : Update) :
    (state.apply update).WellFormed := by
  cases update with
  | setFlag name held => exact { h with flags := h.flags.insert name held }
  | setCounter name count => exact { h with counters := h.counters.insert name count }
  | setQuest name stage => exact { h with quests := h.quests.insert name stage }
  | setText name text => exact { h with text := h.text.insert name text }
  | addItem inventory item => exact { h with inventories := h.inventories.insert inventory _ }

theorem WellFormed.run {state : SaveState} (h : state.WellFormed) (updates : List Update) :
    (state.run updates).WellFormed := by
  induction updates generalizing state with
  | nil => exact h
  | cons update updates ih =>
      rw [run_cons]
      exact ih (h.apply update)

/-!
# Items in any inventory
-/

theorem hasItem_some_iff {state : SaveState} {item inventory : String} :
    state.hasItem item (some inventory) = true ↔
      ∃ items, state.inventories.find? inventory = some items ∧ item ∈ items := by
  show ((state.inventories.find? inventory).getD []).contains item = true ↔ _
  cases state.inventories.find? inventory with
  | none => simp
  | some items => simp

theorem WellFormed.hasItem_none_iff {state : SaveState} (h : state.WellFormed)
    {item : String} :
    state.hasItem item none = true ↔
      ∃ inventory, state.hasItem item (some inventory) = true := by
  have hdistinct : state.inventories.Distinct := h.inventories.distinct
  show (state.inventories.any fun entry => entry.2.contains item) = true ↔ _
  rw [hdistinct.any_iff]
  constructor
  · rintro ⟨inventory, items, hfound, hitem⟩
    exact ⟨inventory, hasItem_some_iff.mpr ⟨items, hfound, List.contains_iff_mem.mp hitem⟩⟩
  · rintro ⟨inventory, hitem⟩
    rcases hasItem_some_iff.mp hitem with ⟨items, hfound, hmem⟩
    exact ⟨inventory, items, hfound, List.contains_iff_mem.mpr hmem⟩

end SaveState
end GameConfig
