import GameConfig.Number.Digits
import GameConfig.Pieces
import GameConfig.Value.Position

/-!
# Segments of a route

A segment says where to go from a value.  A name leads to the member of that name, and
into an array when it spells an index; a number leads to an element, and to the member
of an object that is spelled that way.  All other segments lead nowhere.
-/

namespace GameConfig
namespace Query

open Number
open Value (Step Position)

inductive Segment where
  | name (text : String)
  | number (n : Int)
  | unusable
deriving DecidableEq, Repr

/-- Indices and counts are unsigned words of 64 bits. -/
def indexLimit : Nat := UInt64.size

def withoutPlus : List Char → List Char
  | '+' :: rest => rest
  | s => s

/-- The index that a name spells: an optional plus sign and at least one digit. -/
def index? (name : String) : Option Nat :=
  let digits := withoutPlus name.toList
  let n := decimalValue digits
  if digits ≠ [] ∧ digits.all isDigit ∧ n < indexLimit then some n else none

namespace Segment

def ofValue : Value → Segment
  | .string text => .name text
  | .integer n => .number n.toInt
  | .unsigned n => .number n.toNat
  | _ => .unusable

def step? : Segment → Value → Option Step
  | .name text, .object _ => some (.member text)
  | .name text, .array _ => (index? text).map Step.element
  | .number n, .object _ => some (.member (String.ofList (integerText n)))
  | .number n, .array _ => if 0 ≤ n then some (.element n.toNat) else none
  | _, _ => none

def follow (segment : Segment) (v : Value) : Option (Step × Value) :=
  match segment.step? v with
  | none => none
  | some step => (v.step? step).map (step, ·)

end Segment

def descend : List Segment → Value → Option (Position × Value)
  | [], v => some ([], v)
  | segment :: rest, v =>
      match segment.follow v with
      | none => none
      | some (step, next) =>
          match descend rest next with
          | none => none
          | some (steps, target) => some (step :: steps, target)

/-- The segments of a dotted text; the empty text has none. -/
def dotted (text : String) : List Segment :=
  match text.toList with
  | [] => []
  | s => (pieces '.' s).map fun piece => .name (String.ofList piece)

end Query
end GameConfig
