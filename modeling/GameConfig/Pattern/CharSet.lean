import GameConfig.Unicode.Boundary
import GameConfig.Unicode.Category
import GameConfig.Unicode.Folding
import GameConfig.Unicode.Property

/-!
# Sets of characters

The sets that a pattern can name, and those that a bracketed class puts together.
-/

namespace GameConfig
namespace Pattern

abbrev CharSet := Unicode.Ranges

namespace CharSet

def nothing : CharSet := []

def range (first last : Nat) : CharSet :=
  [(first, last)]

def single (c : Char) : CharSet :=
  range c.toNat c.toNat

def unions (sets : List CharSet) : CharSet :=
  sets.foldr .union nothing

def anyLetterCase (s : CharSet) : CharSet :=
  let small := s.intersection (range 0x61 0x7A)
  let capital := s.intersection (range 0x41 0x5A)
  unions [s, small.map fun (a, b) => (a - 0x20, b - 0x20),
    capital.map fun (a, b) => (a + 0x20, b + 0x20)]

def every : CharSet :=
  range 0 Unicode.lastCode

/-!
# Sets with a letter of their own
-/

def category (name : String) : CharSet :=
  Unicode.find Unicode.categoryTables name

def property (name : String) : CharSet :=
  Unicode.find Unicode.propertyTables name

def digits : CharSet :=
  category "nd"

def blanks : CharSet :=
  property "whitespace"

def words : CharSet :=
  unions [range 0x30 0x39, range 0x41 0x5A, range 0x61 0x7A, property "alphabetic",
    category "mn", category "mc", category "me", digits, category "pc",
    property "joincontrol"]

def asciiDigits : CharSet :=
  range 0x30 0x39

def asciiBlanks : CharSet :=
  .union (range 0x09 0x0D) (range 0x20 0x20)

def asciiWords : CharSet :=
  unions [asciiDigits, range 0x41 0x5A, range 0x61 0x7A, range 0x5F 0x5F]

def named? (name : String) : Option CharSet :=
  match name with
  | "alnum" => some (unions [range 0x30 0x39, range 0x41 0x5A, range 0x61 0x7A])
  | "alpha" => some (.union (range 0x41 0x5A) (range 0x61 0x7A))
  | "ascii" => some (range 0 0x7F)
  | "blank" => some (.union (range 0x09 0x09) (range 0x20 0x20))
  | "cntrl" => some (.union (range 0 0x1F) (range 0x7F 0x7F))
  | "digit" => some asciiDigits
  | "graph" => some (range 0x21 0x7E)
  | "lower" => some (range 0x61 0x7A)
  | "print" => some (range 0x20 0x7E)
  | "punct" =>
      some (unions [range 0x21 0x2F, range 0x3A 0x40, range 0x5B 0x60, range 0x7B 0x7E])
  | "space" => some asciiBlanks
  | "upper" => some (range 0x41 0x5A)
  | "word" => some asciiWords
  | "xdigit" => some (unions [asciiDigits, range 0x41 0x46, range 0x61 0x66])
  | _ => none

end CharSet

end Pattern
end GameConfig
