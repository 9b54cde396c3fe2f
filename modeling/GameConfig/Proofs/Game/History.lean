import GameConfig.Proofs.Game.SaveFile

/-!
# Saved games after any updates

What a saved game holds after a run of updates is told by the updates and by what it held
before.  A name has the value that was set last, and an inventory has the items that were added
to it behind those that it had.  No update says anything about other names and inventories.
-/

namespace GameConfig
namespace SaveState

namespace Update

def sets? (scope : Scope) (name : String) : Update → Option Value
  | .setFlag other held => if scope = .flag ∧ name = other then some (.boolean held) else none
  | .setCounter other count =>
      if scope = .counter ∧ name = other then some (.integer count) else none
  | .setQuest other stage =>
      if scope = .quest ∧ name = other then some (.integer stage) else none
  | .setText other text => if scope = .text ∧ name = other then some (.string text) else none
  | .addItem _ _ => none

def adds? (inventory : String) : Update → Option String
  | .addItem other item => if inventory = other then some item else none
  | _ => none

def lastSet? (updates : List Update) (scope : Scope) (name : String) : Option Value :=
  (updates.filterMap (sets? scope name)).getLast?

def added (updates : List Update) (inventory : String) : List String :=
  updates.filterMap (adds? inventory)

end Update

variable {state : SaveState}

/-!
# One update
-/

theorem touches_of_sets?_eq_none {update : Update} {scope : Scope} {name : String}
    (h : update.sets? scope name = none) : ¬ update.Touches (.lookup scope name) := by
  intro htouches
  cases update <;> cases scope <;>
    first
    | exact htouches.elim
    | (rw [Update.sets?, if_pos ⟨rfl, htouches⟩] at h
       cases h)

theorem lookup_apply_of_sets? {update : Update} {scope : Scope} {name : String} {v : Value}
    (h : update.sets? scope name = some v) : (state.apply update).lookup scope name = some v := by
  cases update with
  | addItem inventory item => cases h
  | _ =>
      rw [Update.sets?] at h
      split at h
      · rename_i hname
        rcases hname with ⟨rfl, rfl⟩
        cases h
        exact congrArg (Option.map _) (Dictionary.find?_insert_self _ _ _)
      · cases h

theorem lookup_apply (state : SaveState) (update : Update) (scope : Scope) (name : String) :
    (state.apply update).lookup scope name =
      (update.sets? scope name).or (state.lookup scope name) := by
  cases h : update.sets? scope name with
  | none => exact lookup_apply_of_not_touches state (touches_of_sets?_eq_none h)
  | some v => exact lookup_apply_of_sets? h

theorem items_apply (state : SaveState) (update : Update) (inventory : String) :
    (state.apply update).items inventory =
      state.items inventory ++ (update.adds? inventory).toList := by
  cases update with
  | addItem other item =>
      rw [Update.adds?]
      split
      · rename_i hsame
        subst hsame
        exact items_addItem_self state inventory item
      · rename_i hne
        rw [Option.toList_none, List.append_nil]
        exact items_addItem_of_ne state item hne
  | _ => exact (List.append_nil _).symm

theorem find?_apply_eq_none_iff (state : SaveState) (update : Update) (inventory : String) :
    (state.apply update).inventories.find? inventory = none ↔
      state.inventories.find? inventory = none ∧ update.adds? inventory = none := by
  cases update with
  | addItem other item =>
      rw [Update.adds?]
      split
      · rename_i hsame
        subst hsame
        simp [apply, addItem]
      · rename_i hne
        simp [apply, addItem, Dictionary.find?_insert_of_ne hne]
  | _ => exact (and_iff_left rfl).symm

/-!
# Runs
-/

theorem lookup_run (state : SaveState) (updates : List Update) (scope : Scope) (name : String) :
    (state.run updates).lookup scope name =
      (Update.lastSet? updates scope name).or (state.lookup scope name) := by
  induction updates generalizing state with
  | nil => rfl
  | cons update updates ih =>
      rw [run_cons, ih, lookup_apply, Update.lastSet?, Update.lastSet?, List.filterMap_cons]
      cases update.sets? scope name with
      | none => rfl
      | some v =>
          rw [List.getLast?_cons]
          cases (updates.filterMap (Update.sets? scope name)).getLast? <;> rfl

theorem items_run (state : SaveState) (updates : List Update) (inventory : String) :
    (state.run updates).items inventory =
      state.items inventory ++ Update.added updates inventory := by
  induction updates generalizing state with
  | nil => exact (List.append_nil _).symm
  | cons update updates ih =>
      rw [run_cons, ih, items_apply, List.append_assoc, Update.added, Update.added,
        List.filterMap_cons]
      cases update.adds? inventory <;> rfl

theorem find?_run_eq_none_iff (state : SaveState) (updates : List Update) (inventory : String) :
    (state.run updates).inventories.find? inventory = none ↔
      state.inventories.find? inventory = none ∧ Update.added updates inventory = [] := by
  induction updates generalizing state with
  | nil => exact (and_iff_left rfl).symm
  | cons update updates ih =>
      rw [run_cons, ih, find?_apply_eq_none_iff, Update.added, Update.added,
        List.filterMap_eq_nil_iff, List.filterMap_eq_nil_iff, List.forall_mem_cons, and_assoc]

/-- A saved game as it is at first: a new one, or one that was read from a text. -/
inductive Started : SaveState → Prop
  | new : Started empty
  | loaded {text : String} {state : SaveState} (h : read text = .ok state) : Started state

theorem Started.wellFormed (h : state.Started) : state.WellFormed := by
  cases h with
  | new => exact wellFormed_empty
  | loaded h => exact wellFormed_of_read h

theorem hasItem_some_iff_mem_items {item inventory : String} :
    state.hasItem item (some inventory) = true ↔ item ∈ state.items inventory :=
  List.contains_iff_mem

/-- Whatever updates a saved game goes through, every name has the value that was set last, or
else the one that it had at first; every inventory has the items that it had at first and behind
them the added ones in order, and is there if it was at first or something was added to it; and
an item is found where it is in such an inventory. -/
theorem run_stores_last_and_appends (h : state.Started) (updates : List Update) :
    (∀ scope name, (state.run updates).lookup scope name =
      (Update.lastSet? updates scope name).or (state.lookup scope name)) ∧
    (∀ inventory, (state.run updates).items inventory =
      state.items inventory ++ Update.added updates inventory) ∧
    (∀ inventory, (state.run updates).inventories.find? inventory = none ↔
      state.inventories.find? inventory = none ∧ Update.added updates inventory = []) ∧
    (∀ item inventory, (state.run updates).hasItem item (some inventory) = true ↔
      item ∈ state.items inventory ++ Update.added updates inventory) ∧
    (∀ item, (state.run updates).hasItem item none = true ↔
      ∃ inventory, item ∈ state.items inventory ++ Update.added updates inventory) := by
  have hnamed : ∀ item inventory, (state.run updates).hasItem item (some inventory) = true ↔
      item ∈ state.items inventory ++ Update.added updates inventory := by
    intro item inventory
    rw [hasItem_some_iff_mem_items, items_run]
  refine ⟨lookup_run state updates, items_run state updates,
    find?_run_eq_none_iff state updates, hnamed, ?_⟩
  intro item
  rw [(h.wellFormed.run updates).hasItem_none_iff]
  exact exists_congr (hnamed item)

theorem run_loaded_belt_and_gold :
    let text := "\x7b\"counters\": \x7b\"gold\": 120, \"rats\": 3\x7d, " ++
      "\"inventories\": \x7b\"belt\": [\"rope\", \"key\"]\x7d\x7d"
    let updates : List Update :=
      [.setCounter "gold" 7, .addItem "belt" "cube", .setText "gold" "coin",
        .addItem "stash" "key", .setCounter "gold" 9, .addItem "belt" "key"]
    ∃ state, read text = .ok state ∧
      (state.run updates).lookup .counter "gold" = some (.integer 9) ∧
      (state.run updates).lookup .counter "rats" = some (.integer 3) ∧
      (state.run updates).lookup .quest "gold" = none ∧
      (state.run updates).items "belt" = ["rope", "key", "cube", "key"] ∧
      (state.run updates).inventories.find? "chest" = none ∧
      (state.run updates).hasItem "cube" (some "belt") = true ∧
      (state.run updates).hasItem "cube" (some "stash") = false ∧
      (state.run updates).hasItem "rope" none = true := by
  intro text updates
  let state : SaveState :=
    ⟨[], [("gold", 120), ("rats", 3)], [], [], [("belt", ["rope", "key"])]⟩
  have hread : read text = .ok state := by decide +kernel
  rcases run_stores_last_and_appends (.loaded hread) updates with
    ⟨hlookup, hitems, hthere, hnamed, hany⟩
  refine ⟨state, hread, hlookup .counter "gold", hlookup .counter "rats",
    hlookup .quest "gold", hitems "belt", (hthere "chest").mpr ⟨rfl, rfl⟩,
    (hnamed "cube" "belt").mpr (by decide), ?_, (hany "rope").mpr ⟨"belt", by decide⟩⟩
  rw [Bool.eq_false_iff, ne_eq, hnamed]
  decide

end SaveState
end GameConfig
