import GameConfig.Json.Writer
import GameConfig.Keyword
import GameConfig.Number.Binary32

/-!
# Fields

A field is read by a reader, which gives something only for values of its own form.  The
caller's default stands in for a member that is missing and for a value of another form, so
that a result is taken from the document or from the caller, and never from both.
-/

namespace GameConfig

open Number

abbrev Reader (α : Type) := Value → Option α

namespace Reader

variable {α : Type}

def orDefault (read? : Reader α) (v : Value) (default : α) : α :=
  (read? v).getD default

def member (read? : Reader α) (v : Value) (name : String) (default : α) : α :=
  match v.member? name with
  | some field => read?.orDefault field default
  | none => default

end Reader

namespace Field

/-!
# Whole numbers

A whole number has to fit the word that it is read for.
-/

def boolean : Reader Bool :=
  Value.boolean?

def int64 : Reader Int64 :=
  Value.signed?

def uint64 : Reader UInt64 :=
  Value.unsigned?

def int32 : Reader Int32 := fun v => do
  let n ← v.signed?
  if Int32.minValue.toInt ≤ n.toInt ∧ n.toInt ≤ Int32.maxValue.toInt then
    some (Int32.ofInt n.toInt)
  else none

def uint32 : Reader UInt32 := fun v => do
  let n ← v.unsigned?
  if n.toNat < UInt32.size then some (UInt32.ofNat n.toNat) else none

def byte : Reader UInt8 := fun v => do
  let n ← v.unsigned?
  if n.toNat < UInt8.size then some (UInt8.ofNat n.toNat) else none

/-!
# Doubles and singles

Whole numbers are no doubles here.
-/

def double : Reader Binary64
  | .float x => some x
  | _ => none

def single : Reader Binary32
  | .float x => if Binary32.covers x then some (Binary32.ofBinary64 x) else none
  | _ => none

/-!
# Texts and words
-/

def string : Reader String :=
  Value.string?

/-- A text for each element of an array, or the one text that stands by itself. -/
def strings : Reader (List String)
  | .array items => some (items.map Value.plainText)
  | .string s => some [s]
  | _ => none

def keyword (α : Type) [Keyword α] : Reader α := fun v => do
  let word ← v.string?
  Keyword.ofWord? word

/-!
# Frames and rectangles
-/

/-- Two numbers, or one that stands for both. -/
def frames : Reader (UInt32 × UInt32)
  | .array [first, last] => do
      let first ← uint32 first
      let last ← uint32 last
      some (first, last)
  | .array _ => none
  | v => do
      let n ← uint32 v
      some (n, n)

structure Rectangle (α : Type) where
  left : α
  top : α
  width : α
  height : α
deriving DecidableEq, Repr

def rectangle {α : Type} (read? : Reader α) : Reader (Rectangle α)
  | .array [left, top, width, height] => do
      let left ← read? left
      let top ← read? top
      let width ← read? width
      let height ← read? height
      some ⟨left, top, width, height⟩
  | _ => none

/-- Any number as a double, narrowed however large it is. -/
def narrowed : Reader Binary32 := fun v =>
  v.double?.map Binary32.ofBinary64

def intRectangle : Reader (Rectangle Int32) :=
  rectangle int32

def floatRectangle : Reader (Rectangle Binary32) :=
  rectangle narrowed

end Field

end GameConfig
