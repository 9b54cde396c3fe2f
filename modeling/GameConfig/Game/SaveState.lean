import GameConfig.Game.Basic

/-!
# Saved games

A saved game holds the four stores and the inventories.  Setting a name replaces what it
held; items are added behind those that an inventory has already.
-/

namespace GameConfig

structure SaveState where
  flags : Dictionary Bool
  counters : Dictionary Int64
  quests : Dictionary Int64
  text : Dictionary String
  inventories : Dictionary (List String)
deriving Repr

namespace SaveState

def empty : SaveState :=
  ⟨[], [], [], [], []⟩

def setFlag (state : SaveState) (name : String) (held : Bool) : SaveState :=
  { state with flags := state.flags.insert name held }

def setCounter (state : SaveState) (name : String) (count : Int64) : SaveState :=
  { state with counters := state.counters.insert name count }

def setQuest (state : SaveState) (name : String) (stage : Int64) : SaveState :=
  { state with quests := state.quests.insert name stage }

def setText (state : SaveState) (name : String) (text : String) : SaveState :=
  { state with text := state.text.insert name text }

def items (state : SaveState) (inventory : String) : List String :=
  (state.inventories.find? inventory).getD []

def addItem (state : SaveState) (inventory item : String) : SaveState :=
  { state with
    inventories := state.inventories.insert inventory (state.items inventory ++ [item]) }

/-!
# Questions to a saved game
-/

def lookup (state : SaveState) : Scope → String → Option Value
  | .flag, name => (state.flags.find? name).map Value.boolean
  | .counter, name => (state.counters.find? name).map Value.integer
  | .quest, name => (state.quests.find? name).map Value.integer
  | .text, name => (state.text.find? name).map Value.string

def hasItem (state : SaveState) (item : String) : Option String → Bool
  | some inventory => (state.items inventory).contains item
  | none => state.inventories.any fun entry => entry.2.contains item

def hasFlag (state : SaveState) (name : String) : Bool :=
  (state.flags.find? name).getD false

/-- A saved game as a game; it tests its flags by itself. -/
def game (state : SaveState) : Game where
  lookup := state.lookup
  hasItem := state.hasItem
  flagTest? := some state.hasFlag

end SaveState

end GameConfig
