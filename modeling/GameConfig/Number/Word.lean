/-!
# Arithmetic on words

A step of arithmetic gives nothing if its result does not fit the word.  Where a computation
takes it for granted that a step fits, one that does not is an overflow, which ends the whole
computation.
-/

namespace GameConfig
namespace Number

inductive Overflow where
  | overflow
deriving DecidableEq, Repr

def granted {α : Type} : Option α → Except Overflow α
  | some a => .ok a
  | none => .error .overflow

namespace Word64

def add? (a b : UInt64) : Option UInt64 :=
  if a.toNat + b.toNat < UInt64.size then some (a + b) else none

def mul? (a b : UInt64) : Option UInt64 :=
  if a.toNat * b.toNat < UInt64.size then some (a * b) else none

def power? (base : UInt64) : Nat → Option UInt64
  | 0 => some 1
  | n + 1 => do
      let power ← power? base n
      mul? power base

end Word64

namespace Word32

def add? (a b : UInt32) : Option UInt32 :=
  if a.toNat + b.toNat < UInt32.size then some (a + b) else none

def sub? (a b : UInt32) : Option UInt32 :=
  if b.toNat ≤ a.toNat then some (a - b) else none

end Word32

end Number
end GameConfig
