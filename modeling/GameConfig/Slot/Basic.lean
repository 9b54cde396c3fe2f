import GameConfig.Game.Scope

/-!
# Slots

A slot of a configuration holds a constant, a reference to game state, or a condition.  An
object is a condition if it has the keyword of an operator; the operator's operands are
slots again.  An object that is no condition is a reference if it names a scope, and a
constant otherwise.
-/

namespace GameConfig

inductive Operator where
  | and
  | or
  | not
  | equals
  | notEquals
  | lessThan
  | lessOrEqual
  | greaterThan
  | greaterOrEqual
  | hasItem
  | hasFlag
  | matches
deriving DecidableEq, Repr

namespace Operator

/-- An object with several operators has the first of these. -/
instance : Keyword Operator where
  all :=
    [.and, .or, .not, .equals, .notEquals, .lessThan, .lessOrEqual, .greaterThan,
      .greaterOrEqual, .hasItem, .hasFlag, .matches]
  word
    | .and => "and"
    | .or => "or"
    | .not => "not"
    | .equals => "equals"
    | .notEquals => "notEquals"
    | .lessThan => "lessThan"
    | .lessOrEqual => "lessOrEqual"
    | .greaterThan => "greaterThan"
    | .greaterOrEqual => "greaterOrEqual"
    | .hasItem => "hasItem"
    | .hasFlag => "hasFlag"
    | .matches => "matches"

def first? {α : Type} (entries : Dictionary α) : Option (Operator × α) :=
  (Keyword.all : List Operator).findSome? fun op =>
    (entries.find? (Keyword.word op)).map (op, ·)

def ofValue? : Value → Option (Operator × Value)
  | .object members => first? members
  | _ => none

end Operator

/-!
# Variables
-/

inductive Variable where
  | literal (v : Value)
  | reference (scope : Scope) (name : String)
deriving Repr, Inhabited

namespace Variable

def genericName : String := "var"
def scopeName : String := "scope"

/-- The reference that the members of an object make.  The first scope among them decides,
and then has to hold a name; the generic form comes last, and means a counter unless it
says otherwise. -/
def reference? (members : Dictionary Value) : Option (Scope × String) :=
  let named :=
    (Keyword.all : List Scope).findSome? fun scope =>
      (members.find? (Keyword.word scope)).map (scope, ·)
  match named with
  | some (scope, v) => v.string?.map (scope, ·)
  | none => do
      let name ← (← members.find? genericName).string?
      match members.find? scopeName with
      | none => pure (.counter, name)
      | some v => do
          let scope ← Keyword.ofWord? (← v.string?)
          pure (scope, name)

def ofValue : Value → Variable
  | .object members =>
      match reference? members with
      | some (scope, name) => .reference scope name
      | none => .literal (.object members)
  | v => .literal v

def isReference : Variable → Bool
  | .literal _ => false
  | .reference _ _ => true

def missing : Variable :=
  .literal .null

end Variable

/-!
# Slots and conditions
-/

inductive Slot where
  | variable (v : Variable)
  | condition (op : Operator) (operands : List Slot)
deriving Repr, Inhabited

namespace Slot

mutual

def ofValue : Value → Slot
  | .object members =>
      match Operator.first? (operandLists members) with
      | some (op, operands) => .condition op operands
      | none => .variable (Variable.ofValue (.object members))
  | v => .variable (.ofValue v)

def ofItems : List Value → List Slot
  | [] => []
  | v :: vs => ofValue v :: ofItems vs

/-- Every member as a list of operands: an array gives one for each element, any other value
is the only one. -/
def operandLists : List (String × Value) → List (String × List Slot)
  | [] => []
  | (name, .array items) :: rest => (name, ofItems items) :: operandLists rest
  | (name, v) :: rest => (name, [ofValue v]) :: operandLists rest

end

def missing : Slot :=
  .variable .missing

def isCondition : Slot → Bool
  | .variable _ => false
  | .condition _ _ => true

/-- Whether a slot is the same as a missing one, which a written null is too. -/
def isInert : Slot → Bool
  | .variable (.literal .null) => true
  | _ => false

end Slot

structure Condition where
  op : Operator
  operands : List Slot
deriving Repr

namespace Condition

def never : Condition :=
  ⟨.or, []⟩

def ofSlot? : Slot → Option Condition
  | .condition op operands => some ⟨op, operands⟩
  | .variable _ => none

def parse? (v : Value) : Option Condition :=
  ofSlot? (Slot.ofValue v)

def ofValue (v : Value) : Condition :=
  (parse? v).getD never

end Condition

end GameConfig
