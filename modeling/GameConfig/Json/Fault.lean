import GameConfig.Number.Binary64

/-!
# What can be wrong with a text

A fault is a reason and a place.  While a text is read, the place is known by the
number of bytes that are still to come; the finished error gives it as a line and
a column, both counted over the bytes before it.
-/

namespace GameConfig
namespace Json

open Number

inductive Found where
  | null
  | boolean (b : Bool)
  | integer (n : Int)
  | float (x : Binary64)
  | string (s : String)
  | sequence
  | map
deriving DecidableEq, Repr

inductive Expected where
  | savedGame
  | map
  | boolean
  | integer
  | string
  | sequence
deriving DecidableEq, Repr

inductive Reason where
  | endInValue
  | endInList
  | endInObject
  | endInString
  | expectedWord
  | expectedValue
  | expectedColon
  | expectedListEnd
  | expectedObjectEnd
  | keyNotString
  | trailingComma
  | trailingCharacters
  | controlCharacter
  | invalidEscape
  | loneSurrogate
  | endOfHexEscape
  | invalidNumber
  | numberOutOfRange
  | nestedTooDeep
  | invalidType (found : Found) (expected : Expected)
  | invalidValue (found : Found) (expected : Expected)
  | duplicateField (name : String)
deriving DecidableEq, Repr

inductive Category where
  | syntactic
  | unfinished
  | data
deriving DecidableEq, Repr

def Reason.category : Reason → Category
  | .endInValue | .endInList | .endInObject | .endInString => .unfinished
  | .invalidType _ _ | .invalidValue _ _ | .duplicateField _ => .data
  | _ => .syntactic

def byteCount : List Char → Nat
  | [] => 0
  | c :: rest => c.utf8Size + byteCount rest

/-- A reason, and the number of bytes of the text that lie behind its place. -/
structure Fault where
  reason : Reason
  left : Nat
deriving DecidableEq, Repr

namespace Fault

def before (rest : List Char) (reason : Reason) : Fault :=
  ⟨reason, byteCount rest⟩

def within (rest : List Char) (reason : Reason) : Fault :=
  ⟨reason, byteCount rest - 1⟩

def atEnd (reason : Reason) : Fault :=
  ⟨reason, 0⟩

end Fault

structure Place where
  line : Nat
  column : Nat
deriving DecidableEq, Repr

/-- The place behind the given number of bytes: one more than the line ends before it, and
the bytes since the last of them. -/
def Place.after (bytes : Nat) (text : List Char) : Place :=
  go bytes ⟨1, 0⟩ text
where
  go (bytes : Nat) (place : Place) : List Char → Place
    | [] => place
    | c :: rest =>
        if c.utf8Size ≤ bytes then
          go (bytes - c.utf8Size)
            (if c = '\n' then ⟨place.line + 1, 0⟩
              else ⟨place.line, place.column + c.utf8Size⟩) rest
        else ⟨place.line, place.column + bytes⟩

structure Error where
  reason : Reason
  place : Place
deriving DecidableEq, Repr

def Fault.locate (text : List Char) (fault : Fault) : Error :=
  ⟨fault.reason, Place.after (byteCount text - fault.left) text⟩

end Json
end GameConfig
