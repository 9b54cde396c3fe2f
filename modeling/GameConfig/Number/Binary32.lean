import GameConfig.Number.Binary64

/-!
# Single-precision numbers

A single is its 32 bits.  Doubles narrow to the nearest single, a half going to
the even one; what lies beyond the largest single becomes infinite.
-/

namespace GameConfig
namespace Number

structure Binary32 where
  bits : UInt32
deriving DecidableEq, Repr, Inhabited

namespace Binary32

def signBit : Nat := Nat.pow 2 31

def magnitude (x : Binary32) : Nat :=
  x.bits.toNat % signBit

def isNegative (x : Binary32) : Bool :=
  signBit ≤ x.bits.toNat

def isFinite (x : Binary32) : Bool :=
  x.magnitude < binary32.infinity

def isNaN (x : Binary32) : Bool :=
  binary32.infinity < x.magnitude

def ofMagnitude (negative : Bool) (magnitude : Nat) : Binary32 :=
  ⟨UInt32.ofNat (if negative then signBit + magnitude else magnitude)⟩

/-- How many doubles' steps make one step of a single. -/
def stepRatio : Nat :=
  Nat.pow 2 (binary64.unitExponent - binary32.unitExponent)

def largestSteps : Nat :=
  binary32.steps (binary32.infinity - 1) * stepRatio

def ofBinary64 (x : Binary64) : Binary32 :=
  if x.isNaN then ofMagnitude x.isNegative (binary32.infinity + 1)
  else if !x.isFinite then ofMagnitude x.isNegative binary32.infinity
  else
    ofMagnitude x.isNegative
      (binary32.round (binary64.steps x.magnitude) stepRatio)

def covers (x : Binary64) : Bool :=
  x.isFinite && decide (binary64.steps x.magnitude ≤ largestSteps)

end Binary32

end Number
end GameConfig
