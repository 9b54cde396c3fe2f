import GameConfig.Pattern.CharSet
import GameConfig.Unicode.Age
import GameConfig.Unicode.Script
import GameConfig.Unicode.ScriptExtension

/-!
# Looking up sets by name

Names of properties, categories and scripts are loose: case, blanks, hyphens and low lines
do not matter, nor does a leading "is".  A name by itself is a property, a category or a
script, in that order; three short names that could be both are categories.
-/

namespace GameConfig
namespace Pattern
namespace CharSet

open Unicode (find?)

def looseChar? (c : Char) : Option Char :=
  if c = ' ' ∨ c = '_' ∨ c = '-' ∨ 0x80 ≤ c.toNat then none
  else some c.toLower

/-- The loose form of a name.  The one name that is nothing but "is" and a letter keeps
both. -/
def looseName (name : List Char) : String :=
  let loose (s : List Char) := s.filterMap looseChar?
  match name with
  | a :: b :: rest =>
      if a.toLower = 'i' ∧ b.toLower = 's' then
        if loose rest = ['c'] then "isc" else String.ofList (loose rest)
      else String.ofList (loose name)
  | _ => String.ofList (loose name)

def category? (name : String) : Option CharSet :=
  match name with
  | "any" => some every
  | "ascii" => some (range 0 0x7F)
  | "assigned" => some (.complement (category "cn"))
  | _ =>
      match find? Unicode.categoryTables name with
      | some s => some s
      | none =>
          (Unicode.categoryGroups.find? (·.1.contains name)).map fun group =>
            unions (group.2.map category)

def property? (name : String) : Option CharSet :=
  if name = "cf" ∨ name = "sc" ∨ name = "lc" then none
  else find? Unicode.propertyTables name

def script? (name : String) : Option CharSet :=
  find? Unicode.scriptTables name

def age? (name : String) : Option CharSet :=
  let version (entry : Unicode.Table) : Bool := entry.names.contains name
  match Unicode.ageTables.find? version with
  | none => none
  | some latest =>
      let earlier := Unicode.ageTables.takeWhile fun entry => !version entry
      some (unions ((latest :: earlier).map Unicode.Table.ranges))

def lookup? (name : List Char) : Option CharSet :=
  let name := looseName name
  match property? name with
  | some s => some s
  | none =>
      match category? name with
      | some s => some s
      | none => script? name

def lookupValue? (property value : List Char) : Option CharSet :=
  let value := looseName value
  match looseName property with
  | "gc" | "generalcategory" => category? value
  | "sc" | "script" => script? value
  | "scx" | "scriptextensions" => find? Unicode.scriptExtensionTables value
  | "age" => age? value
  | "gcb" | "graphemeclusterbreak" => find? Unicode.graphemeTables value
  | "wb" | "wordbreak" => find? Unicode.wordTables value
  | "sb" | "sentencebreak" => find? Unicode.sentenceTables value
  | _ => none

end CharSet
end Pattern
end GameConfig
