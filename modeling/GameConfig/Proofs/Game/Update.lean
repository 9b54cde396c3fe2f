import GameConfig.Game.SaveState
import GameConfig.Proofs.Dictionary.Lookup
import GameConfig.Proofs.Game.Answer

/-!
# Updates of saved games

A saved game changes by single updates, one after the other.  An update can change the
answers to few questions only: those for the name that it sets, and those for the item
that it adds.
-/

namespace GameConfig
namespace SaveState

inductive Update where
  | setFlag (name : String) (held : Bool)
  | setCounter (name : String) (count : Int64)
  | setQuest (name : String) (stage : Int64)
  | setText (name : String) (text : String)
  | addItem (inventory item : String)
deriving Repr

def apply (state : SaveState) : Update → SaveState
  | .setFlag name held => state.setFlag name held
  | .setCounter name count => state.setCounter name count
  | .setQuest name stage => state.setQuest name stage
  | .setText name text => state.setText name text
  | .addItem inventory item => state.addItem inventory item

def run (state : SaveState) (updates : List Update) : SaveState :=
  updates.foldl apply state

@[simp] theorem run_nil (state : SaveState) : state.run [] = state := rfl

@[simp] theorem run_cons (state : SaveState) (update : Update) (updates : List Update) :
    state.run (update :: updates) = (state.apply update).run updates := rfl

def Update.Touches : Update → Question → Prop
  | .setFlag name _, .lookup .flag other => other = name
  | .setFlag name _, .hasFlag other => other = name
  | .setCounter name _, .lookup .counter other => other = name
  | .setQuest name _, .lookup .quest other => other = name
  | .setText name _, .lookup .text other => other = name
  | .addItem _ item, .hasItem other none => other = item
  | .addItem inventory item, .hasItem other (some asked) => other = item ∧ asked = inventory
  | _, _ => False

theorem calls_game {α : Type} (state : SaveState) (t : Transcript α) :
    state.game.calls t = t.questions := by
  have hreduce : state.game.reduce = id := by
    funext q
    cases q <;> rfl
  rw [Game.calls, hreduce, List.map_id]

/-!
# What an update leaves alone
-/

theorem items_addItem_self (state : SaveState) (inventory item : String) :
    (state.addItem inventory item).items inventory = state.items inventory ++ [item] := by
  simp [addItem, items]

theorem items_addItem_of_ne (state : SaveState) {inventory asked : String} (item : String)
    (h : asked ≠ inventory) :
    (state.addItem inventory item).items asked = state.items asked := by
  simp [addItem, items, Dictionary.find?_insert_of_ne h]

theorem hasItem_addItem_of_ne_item (state : SaveState) {item other : String}
    (inventory : String) (asked? : Option String) (h : other ≠ item) :
    (state.addItem inventory item).hasItem other asked? = state.hasItem other asked? := by
  cases asked? with
  | none =>
      apply Dictionary.any_insert
      cases hfound : state.inventories.find? inventory <;> simp [items, hfound, h]
  | some asked =>
      by_cases hasked : asked = inventory
      · subst hasked
        simp [hasItem, items_addItem_self, h]
      · simp [hasItem, items_addItem_of_ne state item hasked]

theorem hasItem_addItem_of_ne_inventory (state : SaveState) {inventory asked : String}
    (item other : String) (h : asked ≠ inventory) :
    (state.addItem inventory item).hasItem other (some asked) =
      state.hasItem other (some asked) := by
  rw [hasItem, hasItem, items_addItem_of_ne state item h]

theorem lookup_apply_of_not_touches (state : SaveState) {update : Update} {scope : Scope}
    {name : String} (h : ¬ update.Touches (.lookup scope name)) :
    (state.apply update).lookup scope name = state.lookup scope name := by
  cases update with
  | addItem inventory item => cases scope <;> rfl
  | _ =>
      cases scope <;>
        first
        | rfl
        | exact congrArg (Option.map _) (Dictionary.find?_insert_of_ne h _ _)

theorem hasFlag_apply_of_not_touches (state : SaveState) {update : Update} {name : String}
    (h : ¬ update.Touches (.hasFlag name)) :
    (state.apply update).hasFlag name = state.hasFlag name := by
  cases update with
  | setFlag other held =>
      rw [hasFlag, hasFlag, apply, setFlag, Dictionary.find?_insert_of_ne h]
  | _ => rfl

theorem hasItem_apply_of_not_touches (state : SaveState) {update : Update} {item : String}
    {asked? : Option String} (h : ¬ update.Touches (.hasItem item asked?)) :
    (state.apply update).hasItem item asked? = state.hasItem item asked? := by
  cases update with
  | addItem inventory added =>
      by_cases hitem : item = added
      · cases asked? with
        | none => exact absurd hitem h
        | some asked =>
            apply hasItem_addItem_of_ne_inventory
            intro hasked
            exact h ⟨hitem, hasked⟩
      · exact hasItem_addItem_of_ne_item state inventory asked? hitem
  | _ => rfl

theorem answer_apply_of_not_touches (state : SaveState) {update : Update} {q : Question}
    (h : ¬ update.Touches q) :
    (state.apply update).game.answer q = state.game.answer q := by
  cases q with
  | lookup scope name => exact lookup_apply_of_not_touches state h
  | hasItem item asked? =>
      exact congrArg (some ∘ Value.boolean) (hasItem_apply_of_not_touches state h)
  | hasFlag name =>
      exact congrArg (some ∘ Value.boolean) (hasFlag_apply_of_not_touches state h)

theorem answer_run_of_not_touches (state : SaveState) {updates : List Update}
    {q : Question} (h : ∀ update ∈ updates, ¬ update.Touches q) :
    (state.run updates).game.answer q = state.game.answer q := by
  induction updates generalizing state with
  | nil => rfl
  | cons update updates ih =>
      rw [List.forall_mem_cons] at h
      rw [run_cons, ih (state.apply update) h.right]
      exact answer_apply_of_not_touches state h.left

end SaveState
end GameConfig
