import GameConfig.Json.Quoted
import GameConfig.Number.Decimal
import GameConfig.Number.Digits
import GameConfig.Value.Basic

/-!
# Writing values

The compact form has no white space; the pretty form puts every element and member on a
line of its own.  Members are written in the order of their names.  Every writer puts its
text in front of the text that is to follow.
-/

namespace GameConfig
namespace Json

open Number

/-- Doubles are written with a power of ten below `10 ^ -5` and from `10 ^ 16` on; a whole
number has a zero behind its point, and a tie goes to the even digit. -/
def floatLayout : Layout where
  tie := .toEven
  positional exponent := -5 ≤ exponent && exponent ≤ 15
  wholeMark := ['.', '0']

def nullText : List Char := ['n', 'u', 'l', 'l']

def booleanText (b : Bool) : List Char :=
  if b then ['t', 'r', 'u', 'e'] else ['f', 'a', 'l', 's', 'e']

def floatText (x : Binary64) : List Char :=
  if x.isFinite then floatLayout.text x else nullText

mutual

def writeCompact : Value → List Char → List Char
  | .null, rest => nullText ++ rest
  | .boolean b, rest => booleanText b ++ rest
  | .integer n, rest => integerText n.toInt ++ rest
  | .unsigned n, rest => integerText n.toNat ++ rest
  | .float x, rest => floatText x ++ rest
  | .string s, rest => writeString s rest
  | .array items, rest => '[' :: writeItems true items (']' :: rest)
  | .object members, rest => '{' :: writeMembers true members ('}' :: rest)

def writeItems (first : Bool) : List Value → List Char → List Char
  | [], rest => rest
  | v :: vs, rest =>
      let text := writeCompact v (writeItems false vs rest)
      if first then text else ',' :: text

def writeMembers (first : Bool) : List (String × Value) → List Char → List Char
  | [], rest => rest
  | (name, v) :: ms, rest =>
      let text := writeString name (':' :: writeCompact v (writeMembers false ms rest))
      if first then text else ',' :: text

end

def newLine (level : Nat) : List Char :=
  '\n' :: List.replicate (2 * level) ' '

mutual

def writePretty (level : Nat) : Value → List Char → List Char
  | .array (v :: vs), rest =>
      '[' :: (newLine (level + 1) ++
        writePretty (level + 1) v
          (writePrettyItems (level + 1) vs (newLine level ++ ']' :: rest)))
  | .object ((name, v) :: ms), rest =>
      '{' :: (newLine (level + 1) ++
        writeString name (':' :: ' ' ::
          writePretty (level + 1) v
            (writePrettyMembers (level + 1) ms (newLine level ++ '}' :: rest))))
  | v, rest => writeCompact v rest

def writePrettyItems (level : Nat) : List Value → List Char → List Char
  | [], rest => rest
  | v :: vs, rest =>
      ',' :: (newLine level ++ writePretty level v (writePrettyItems level vs rest))

def writePrettyMembers (level : Nat) : List (String × Value) → List Char → List Char
  | [], rest => rest
  | (name, v) :: ms, rest =>
      ',' :: (newLine level ++
        writeString name (':' :: ' ' ::
          writePretty level v (writePrettyMembers level ms rest)))

end

end Json

namespace Value

open Number

def compactText (v : Value) : String :=
  String.ofList (Json.writeCompact v [])

def prettyText (v : Value) : String :=
  String.ofList (Json.writePretty 0 v [])

/-- Doubles as plain text never have a power of ten nor a mark for whole numbers, and a tie
goes upward. -/
def plainLayout : Layout where
  tie := .upward
  positional _ := true
  wholeMark := []

def plainFloat (x : Binary64) : String :=
  if x.isNaN then "NaN"
  else if x.isFinite then String.ofList (plainLayout.text x)
  else if x.isNegative then "-inf"
  else "inf"

def plainText : Value → String
  | .string s => s
  | .integer n => String.ofList (integerText n.toInt)
  | .unsigned n => String.ofList (integerText n.toNat)
  | .float x => plainFloat x
  | v => v.compactText

end Value

end GameConfig
