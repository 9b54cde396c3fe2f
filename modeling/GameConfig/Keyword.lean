/-!
# Keywords

Closed sets of words that a configuration uses.  Words are matched exactly, letter case
included.
-/

namespace GameConfig

/-- A finite type whose elements a configuration spells as words. -/
class Keyword (α : Type) where
  all : List α
  word : α → String

namespace Keyword

variable {α : Type} [Keyword α]

def words (α : Type) [Keyword α] : List String :=
  (all : List α).map word

def ofWord? (text : String) : Option α :=
  (all : List α).find? fun a => word a == text

end Keyword

end GameConfig
