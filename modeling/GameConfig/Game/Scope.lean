import GameConfig.Keyword
import GameConfig.Value.Basic

/-!
# Scopes

Game state is kept in four stores, each with values of one kind and a value that stands
for whatever was never set.
-/

namespace GameConfig

inductive Scope where
  | flag
  | counter
  | quest
  | text
deriving DecidableEq, Repr

namespace Scope

instance : Keyword Scope where
  all := [.flag, .counter, .quest, .text]
  word
    | .flag => "flag"
    | .counter => "counter"
    | .quest => "quest"
    | .text => "text"

def unset : Scope → Value
  | .flag => .boolean false
  | .counter => .integer 0
  | .quest => .integer 0
  | .text => .string ""

end Scope

end GameConfig
