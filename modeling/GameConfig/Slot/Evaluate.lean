import GameConfig.Game.Basic
import GameConfig.Pattern.Match
import GameConfig.Slot.Basic
import GameConfig.Value.Compare

/-!
# Evaluating slots

The value of a slot may ask questions of a game.  Evaluation never fails: an operator with a
wrong number of operands asks nothing and is false, and operands of a wrong kind make it
false.
-/

namespace GameConfig

namespace Variable

def value (game : Game) : Variable → Transcript Value
  | .literal v => pure v
  | .reference scope name => do
      let found ← game.askLookup scope name
      pure (found.getD scope.unset)

end Variable

namespace Operator

def comparison? : Operator → Option (Option Ordering → Bool)
  | .equals => some fun order => order == some .eq
  | .notEquals => some fun order => order != some .eq
  | .lessThan => some fun order => order == some .lt
  | .lessOrEqual => some fun order => order == some .lt || order == some .eq
  | .greaterThan => some fun order => order == some .gt
  | .greaterOrEqual => some fun order => order == some .gt || order == some .eq
  | _ => none

end Operator

namespace Game

def testItem (game : Game) : Value → Transcript Bool
  | .string item => game.askItem item none
  | _ => pure false

def testItemIn (game : Game) : Value → Value → Transcript Bool
  | .string item, .string inventory => game.askItem item (some inventory)
  | _, _ => pure false

def testFlag (game : Game) : Value → Transcript Bool
  | .string name => game.askFlag name
  | _ => pure false

end Game

def Value.matchedBy : Value → Value → Bool
  | .string text, .string pattern => Pattern.search text pattern
  | _, _ => false

namespace Slot

mutual

def value (game : Game) : Slot → Transcript Value
  | .variable v => v.value game
  | .condition .and operands => do
      let holds ← every game operands
      pure (.boolean holds)
  | .condition .or operands => do
      let holds ← any game operands
      pure (.boolean holds)
  | .condition .not [operand] => do
      let v ← value game operand
      pure (.boolean (!v.truthy))
  | .condition .hasItem [item] => do
      let v ← value game item
      let holds ← game.testItem v
      pure (.boolean holds)
  | .condition .hasItem [item, inventory] => do
      let v ← value game item
      let w ← value game inventory
      let holds ← game.testItemIn v w
      pure (.boolean holds)
  | .condition .hasFlag [name] => do
      let v ← value game name
      let holds ← game.testFlag v
      pure (.boolean holds)
  | .condition .matches [text, pattern] => do
      let v ← value game text
      let w ← value game pattern
      pure (.boolean (v.matchedBy w))
  | .condition op [left, right] =>
      match op.comparison? with
      | some accepts => do
          let v ← value game left
          let w ← value game right
          pure (.boolean (accepts (v.compare w)))
      | none => pure (.boolean false)
  | .condition _ _ => pure (.boolean false)

/-- Whether all slots are true; nothing is asked for behind the first false one. -/
def every (game : Game) : List Slot → Transcript Bool
  | [] => pure true
  | slot :: slots => do
      let v ← value game slot
      if v.truthy then every game slots else pure false

/-- Whether some slot is true; nothing is asked for behind the first true one. -/
def any (game : Game) : List Slot → Transcript Bool
  | [] => pure false
  | slot :: slots => do
      let v ← value game slot
      if v.truthy then pure true else any game slots

end

def truth (game : Game) (slot : Slot) : Transcript Bool := do
  let v ← slot.value game
  pure v.truthy

end Slot

end GameConfig
