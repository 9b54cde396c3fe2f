import GameConfig.Unicode.Ranges

/-!
# Tables of code points

The tables of this library keep a set of code points as text: for each of its ranges the gap
from the range before it and one less than its length.  A number is written in base 32, its
leading digits marked by 32 more.  Where a module says nothing else, its tables are those of
version 16 of the standard.
-/

namespace GameConfig
namespace Unicode

structure Table where
  names : List String
  rows : List String

/-- The value of one of the 64 digits: the decimal digits, capital letters, small letters,
the point and the low line. -/
def digitOf (c : Char) : Nat :=
  if '0' ≤ c ∧ c ≤ '9' then c.toNat - '0'.toNat
  else if 'A' ≤ c ∧ c ≤ 'Z' then c.toNat - 'A'.toNat + 10
  else if 'a' ≤ c ∧ c ≤ 'z' then c.toNat - 'a'.toNat + 36
  else if c = '.' then 62
  else 63

/-- The numbers of a text of digits; the first argument holds the leading digits read so
far. -/
def numbersFrom (leading : Nat) : List Char → List Nat
  | [] => []
  | c :: rest =>
      let digit := digitOf c
      if digit < 32 then (leading * 32 + digit) :: numbersFrom 0 rest
      else numbersFrom (leading * 32 + (digit - 32)) rest

def numbers (rows : List String) : List Nat :=
  numbersFrom 0 (rows.flatMap String.toList)

/-- Ranges from gaps and lengths; the first argument is the code point that a gap of zero
leads to. -/
def rangesFrom (next : Nat) : List Nat → Ranges
  | gap :: more :: rest =>
      (next + gap, next + gap + more) :: rangesFrom (next + gap + more + 1) rest
  | _ => []

def Ranges.ofRows (rows : List String) : Ranges :=
  rangesFrom 0 (numbers rows)

def Table.ranges (table : Table) : Ranges :=
  .ofRows table.rows

def find? (tables : List Table) (name : String) : Option Ranges :=
  (tables.find? (·.names.contains name)).map Table.ranges

def find (tables : List Table) (name : String) : Ranges :=
  (find? tables name).getD []

end Unicode
end GameConfig
