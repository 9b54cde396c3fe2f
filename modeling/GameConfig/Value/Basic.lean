import GameConfig.Dictionary
import GameConfig.Number.Binary64

/-!
# Values of a configuration document

A document is a tree of values.  Whole numbers that fit a signed word are
integers; only the larger ones that still fit an unsigned word are unsigned; all
other numbers are doubles.  The members of an object form a dictionary.
-/

namespace GameConfig

open Number

inductive Value where
  | null
  | boolean (b : Bool)
  | integer (n : Int64)
  | unsigned (n : UInt64)
  | float (x : Binary64)
  | string (s : String)
  | array (items : List Value)
  | object (members : List (String × Value))
deriving Repr, Inhabited

namespace Value

inductive Kind where
  | null
  | boolean
  | number
  | string
  | array
  | object
deriving DecidableEq, Repr

def kind : Value → Kind
  | .null => .null
  | .boolean _ => .boolean
  | .integer _ | .unsigned _ | .float _ => .number
  | .string _ => .string
  | .array _ => .array
  | .object _ => .object

def typeName : Value → String
  | .null => "null"
  | .boolean _ => "boolean"
  | .integer _ => "integer"
  | .unsigned _ => "unsigned"
  | .float _ => "float"
  | .string _ => "string"
  | .array _ => "array"
  | .object _ => "object"

/-- How a value counts as a condition: zeros, empty texts, empty containers, null and a
double that is no number are false. -/
def truthy : Value → Bool
  | .null => false
  | .boolean b => b
  | .integer n => n != 0
  | .unsigned n => n != 0
  | .float x => !x.isZero && !x.isNaN
  | .string s => s != ""
  | .array items => !items.isEmpty
  | .object members => !members.isEmpty

/-!
# Looking into containers
-/

def member? (name : String) : Value → Option Value
  | .object members => Dictionary.find? name members
  | _ => none

def element? (index : Nat) : Value → Option Value
  | .array items => items[index]?
  | _ => none

/-!
# Reading scalars

Whole numbers are never made from doubles; a double can be asked of any number.
-/

def boolean? : Value → Option Bool
  | .boolean b => some b
  | _ => none

def string? : Value → Option String
  | .string s => some s
  | _ => none

def items? : Value → Option (List Value)
  | .array items => some items
  | _ => none

def signed? : Value → Option Int64
  | .integer n => some n
  | _ => none

def unsigned? : Value → Option UInt64
  | .integer n => if 0 ≤ n then some n.toUInt64 else none
  | .unsigned n => some n
  | _ => none

def double? : Value → Option Binary64
  | .integer n => some (Binary64.ofInt n.toInt)
  | .unsigned n => some (Binary64.ofInt n.toNat)
  | .float x => some x
  | _ => none

end Value

end GameConfig
