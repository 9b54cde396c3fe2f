import GameConfig.Proofs.Dictionary.ByteOrder
import GameConfig.Proofs.Json.FloatText
import GameConfig.Proofs.Json.Tree
import GameConfig.Proofs.Value.Text

/-!
# The trees of values

What is written for a value is the text of a tree: a double that is not finite is a null in it,
every other number is a literal, and the members of an object stand in the order in which the
value has them.  So what holds of the texts of trees holds of what is written.
-/

namespace GameConfig
namespace Json

open Number

namespace Tree

mutual

def ofValue : Value → Tree
  | .null => .null
  | .boolean b => .boolean b
  | .integer n => .number (wholeLiteral n.toInt)
  | .unsigned n => .number (wholeLiteral n.toNat)
  | .float x => if hx : x.isFinite = true then .number (floatLiteral x hx) else .null
  | .string s => .string s
  | .array items => .array (ofItems items)
  | .object members => .object (ofMembers members)

def ofItems : List Value → List Tree
  | [] => []
  | v :: vs => ofValue v :: ofItems vs

def ofMembers : List (String × Value) → List (String × Tree)
  | [] => []
  | (name, v) :: ms => (name, ofValue v) :: ofMembers ms

end

theorem ofItems_eq_map (items : List Value) : ofItems items = items.map ofValue := by
  induction items with
  | nil => rfl
  | cons v vs ih => rw [ofItems, ih, List.map_cons]

theorem ofMembers_eq_map (members : List (String × Value)) :
    ofMembers members = members.map fun member => (member.1, ofValue member.2) := by
  induction members with
  | nil => rfl
  | cons member ms ih =>
      obtain ⟨name, v⟩ := member
      rw [ofMembers, ih, List.map_cons]

/-!
# Their texts
-/

variable {g : Spacing}

theorem write_ofValue_float (x : Binary64) (level : Nat) (rest : List Char) :
    (ofValue (.float x)).write g level rest = floatText x ++ rest := by
  rw [ofValue]
  split
  · rename_i hx
    rw [write, text_floatLiteral]
  · rename_i hx
    rw [write, floatText, if_neg hx]

mutual

theorem write_ofValue (level : Nat) (v : Value) (rest : List Char) :
    (ofValue v).write g level rest = g.write level v rest := by
  match v with
  | .array (v :: vs) =>
      rw [ofValue, ofItems, write, writeArray, Spacing.write, write_ofValue (level + 1) v,
        writeItems_ofItems (level + 1) vs]
  | .object ((name, v) :: ms) =>
      rw [ofValue, ofMembers, write, writeObject, Spacing.write, write_ofValue (level + 1) v,
        writeMembers_ofMembers (level + 1) ms]
  | .array [] => rfl
  | .object [] => rfl
  | .null => rfl
  | .boolean b => rfl
  | .integer n =>
      rw [ofValue, write, text_wholeLiteral]
      rfl
  | .unsigned n =>
      rw [ofValue, write, text_wholeLiteral]
      rfl
  | .float x => exact write_ofValue_float x level rest
  | .string s => rfl

theorem writeItems_ofItems (level : Nat) (vs : List Value) (rest : List Char) :
    writeItems g level (ofItems vs) rest = g.writeItems level vs rest := by
  match vs with
  | [] => rfl
  | v :: vs =>
      rw [ofItems, writeItems, Spacing.writeItems, write_ofValue level v,
        writeItems_ofItems level vs]

theorem writeMembers_ofMembers (level : Nat) (ms : List (String × Value)) (rest : List Char) :
    writeMembers g level (ofMembers ms) rest = g.writeMembers level ms rest := by
  match ms with
  | [] => rfl
  | (name, v) :: ms =>
      rw [ofMembers, writeMembers, Spacing.writeMembers, write_ofValue level v,
        writeMembers_ofMembers level ms]

end

theorem compactText_eq (v : Value) : v.compactText = (ofValue v).text .compact := by
  rw [Value.compactText, text, write_ofValue, Spacing.write_compact]

theorem prettyText_eq (v : Value) : v.prettyText = (ofValue v).text .pretty := by
  rw [Value.prettyText, text, write_ofValue, Spacing.write_pretty]

/-!
# The order of members
-/

/-- The members of every object in a tree are written in ascending order of the bytes of their
names. -/
inductive InByteOrder : Tree → Prop where
  | null : InByteOrder .null
  | boolean (b : Bool) : InByteOrder (.boolean b)
  | number (literal : Literal) : InByteOrder (.number literal)
  | string (s : String) : InByteOrder (.string s)
  | array {items : List Tree} (h : ∀ t ∈ items, InByteOrder t) : InByteOrder (.array items)
  | object {ms : List (String × Tree)} (names : Dictionary.BytesAscending ms)
      (h : ∀ member ∈ ms, InByteOrder member.2) : InByteOrder (.object ms)

theorem inByteOrder_ofValue {v : Value} (h : v.Throughout Value.HasAscendingNames) :
    (ofValue v).InByteOrder := by
  induction v using Value.inside_induction with
  | inside v ih =>
    cases v with
    | null => exact .null
    | boolean b => exact .boolean b
    | integer n => exact .number _
    | unsigned n => exact .number _
    | float x =>
        rw [ofValue]
        split
        · exact .number _
        · exact .null
    | string s => exact .string s
    | array items =>
        rw [ofValue, ofItems_eq_map]
        apply InByteOrder.array
        rw [List.forall_mem_map]
        intro w hw
        rcases List.getElem?_of_mem hw with ⟨index, hindex⟩
        exact ih (.element index) w hindex (h.of_mem_items hw)
    | object members =>
        have hascending : Dictionary.Ascending members := h.self
        have hdistinct := hascending.distinct
        rw [ofValue, ofMembers_eq_map]
        apply InByteOrder.object
        · rw [Dictionary.bytesAscending_iff]
          exact Dictionary.ascending_map_iff.mpr hascending
        · rw [List.forall_mem_map]
          rintro ⟨name, w⟩ hw
          exact ih (.member name) w (hdistinct.find?_of_mem hw) (h.of_mem_members hdistinct hw)

end Tree
end Json
end GameConfig
