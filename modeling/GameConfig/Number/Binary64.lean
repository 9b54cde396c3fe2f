import GameConfig.Number.Rounding

/-!
# Double-precision numbers

A double is its 64 bits.  The lower 63 bits are the magnitude, which orders the
numbers of one sign; a finite magnitude is a whole number of steps of size
`2 ^ -1074`.  All arithmetic below is exact arithmetic on those steps, rounded at
most once.
-/

namespace GameConfig
namespace Number

structure Binary64 where
  bits : UInt64
deriving DecidableEq, Repr, Inhabited

namespace Binary64

def signBit : Nat := Nat.pow 2 63

def magnitude (x : Binary64) : Nat :=
  x.bits.toNat % signBit

def isNegative (x : Binary64) : Bool :=
  signBit ≤ x.bits.toNat

def isFinite (x : Binary64) : Bool :=
  x.magnitude < binary64.infinity

def isNaN (x : Binary64) : Bool :=
  binary64.infinity < x.magnitude

def isZero (x : Binary64) : Bool :=
  x.magnitude == 0

def ofMagnitude (negative : Bool) (magnitude : Nat) : Binary64 :=
  ⟨UInt64.ofNat (if negative then signBit + magnitude else magnitude)⟩

def ofInt (n : Int) : Binary64 :=
  ofMagnitude (n < 0) (binary64.ofNat n.natAbs)

def steps (x : Binary64) : Int :=
  if x.isNegative then -(binary64.steps x.magnitude : Int)
  else (binary64.steps x.magnitude : Int)

/-!
# Order

Two doubles that are numbers are ordered by magnitude within a sign, and both
zeros are the same number.  A double that is no number has no place in the
order.
-/

/-- The place of a double among all doubles that are numbers. -/
def rank (x : Binary64) : Int :=
  if x.isNegative then -(x.magnitude : Int) else (x.magnitude : Int)

def compare (x y : Binary64) : Option Ordering :=
  if x.isNaN || y.isNaN then none
  else some (Ord.compare x.rank y.rank)

def lt (x y : Binary64) : Bool :=
  compare x y == some .lt

def le (x y : Binary64) : Bool :=
  compare x y == some .lt || compare x y == some .eq

/-!
# Whole parts

Cutting a double to a word never fails: what is no number gives zero, and what lies
beyond the words gives the nearest of them.
-/

def neg (x : Binary64) : Binary64 :=
  ofMagnitude (!x.isNegative) x.magnitude

/-- The greatest whole double that is not above a double, with its sign; infinities and
what is no number stay as they are. -/
def floor (x : Binary64) : Binary64 :=
  if x.isFinite then
    ofMagnitude x.isNegative (binary64.ofNat (x.steps / (binary64.one : Int)).natAbs)
  else x

/-- Wide words are signed words of 128 bits.  They reach from minus this number up to, but
not including, it. -/
def wideLimit : Int := Nat.pow 2 127

def toWide (x : Binary64) : Int :=
  if x.isNaN then 0
  else if x.isFinite then
    max (-wideLimit) (min (wideLimit - 1) (x.steps.tdiv (binary64.one : Int)))
  else if x.isNegative then -wideLimit
  else wideLimit - 1

/-!
# Integers against doubles

Doubles whose floor lies beyond the wide words are settled by that alone, all others by
the floor cut to a wide word and, when that ties, by what the double has above its floor.
-/

def wideBound : Binary64 :=
  ofInt (wideLimit - 1)

def orderByRange? (x : Binary64) : Option Ordering :=
  if wideBound.le x.floor then some .lt
  else if x.floor.lt wideBound.neg then some .gt
  else none

def compareInt (n : Int) (x : Binary64) : Option Ordering :=
  if x.isNaN then none
  else
    match x.orderByRange? with
    | some order => some order
    | none =>
        match Ord.compare n x.floor.toWide with
        | .eq => some (if x.floor.lt x then .lt else .eq)
        | order => some order

end Binary64

end Number
end GameConfig
