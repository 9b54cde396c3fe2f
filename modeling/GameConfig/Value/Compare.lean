import GameConfig.Value.Basic

/-!
# Comparing values

Numbers compare by the number they stand for, whatever their form.  Texts compare by
code point and false is below true.  Containers are only ever equal or
unordered, and their contents compare by these same rules.  Values of different
kinds are unordered.

Beside this comparison stands identity, which also asks for the same form of every
number.
-/

namespace GameConfig

open Number

inductive Numeric where
  | whole (n : Int)
  | real (x : Binary64)
deriving DecidableEq, Repr

namespace Numeric

def compare : Numeric → Numeric → Option Ordering
  | .whole a, .whole b => some (Ord.compare a b)
  | .whole a, .real y => Binary64.compareInt a y
  | .real x, .whole b => (Binary64.compareInt b x).map Ordering.swap
  | .real x, .real y => Binary64.compare x y

end Numeric

namespace Value

def numeric? : Value → Option Numeric
  | .integer n => some (.whole n.toInt)
  | .unsigned n => some (.whole n.toNat)
  | .float x => some (.real x)
  | _ => none

mutual

def compare : Value → Value → Option Ordering
  | .null, .null => some .eq
  | .boolean a, .boolean b => some (Ord.compare a b)
  | .string a, .string b => some (Ord.compare a b)
  | .array xs, .array ys => if equalItems xs ys then some .eq else none
  | .object xs, .object ys =>
      if xs.length = ys.length ∧ equalMembers xs ys then some .eq else none
  | a, b =>
      match a.numeric?, b.numeric? with
      | some m, some n => m.compare n
      | _, _ => none

def equalItems : List Value → List Value → Bool
  | [], [] => true
  | x :: xs, y :: ys => compare x y == some .eq && equalItems xs ys
  | _, _ => false

/-- Whether every member of the first list has an equal of the same name in the
second. -/
def equalMembers : List (String × Value) → List (String × Value) → Bool
  | [], _ => true
  | (name, x) :: xs, ys =>
      (match Dictionary.find? name ys with
        | some y => compare x y == some .eq
        | none => false) && equalMembers xs ys

end

def equal (a b : Value) : Bool :=
  compare a b == some .eq

mutual

/-- Equality of form and content at every level.  The two zero doubles are identical, and
a double that is no number is identical to nothing. -/
def identical : Value → Value → Bool
  | .null, .null => true
  | .boolean a, .boolean b => a == b
  | .integer a, .integer b => a == b
  | .unsigned a, .unsigned b => a == b
  | .float x, .float y => Binary64.compare x y == some .eq
  | .string a, .string b => a == b
  | .array xs, .array ys => identicalItems xs ys
  | .object xs, .object ys => xs.length == ys.length && identicalMembers xs ys
  | _, _ => false

def identicalItems : List Value → List Value → Bool
  | [], [] => true
  | x :: xs, y :: ys => identical x y && identicalItems xs ys
  | _, _ => false

def identicalMembers : List (String × Value) → List (String × Value) → Bool
  | [], _ => true
  | (name, x) :: xs, ys =>
      (match Dictionary.find? name ys with
        | some y => identical x y
        | none => false) && identicalMembers xs ys

end

end Value

end GameConfig
