/-!
# Ranges of code points

A set of code points is a list of ranges in ascending order.  Between two ranges at least one
code point is missing, so a set has one form only, and the operations here keep to it.
-/

namespace GameConfig
namespace Unicode

abbrev Ranges := List (Nat × Nat)

def lastCode : Nat := 0x10FFFF

def surrogates : Ranges := [(0xD800, 0xDFFF)]

namespace Ranges

def contains (ranges : Ranges) (code : Nat) : Bool :=
  ranges.any fun range => range.1 ≤ code && code ≤ range.2

/-- Joins a range to the ranges behind it that it overlaps or touches.  The first bounds have to
be in ascending order. -/
def joinFrom (range : Nat × Nat) : Ranges → Ranges
  | [] => [range]
  | next :: rest =>
      if next.1 ≤ range.2 + 1 then joinFrom (range.1, max range.2 next.2) rest
      else range :: joinFrom next rest

def join : Ranges → Ranges
  | [] => []
  | range :: rest => joinFrom range rest

/-- Puts a range among others, with what is to follow it. -/
def enter (range : Nat × Nat) (follow : Ranges → Ranges) : Ranges → Ranges
  | [] => range :: follow []
  | next :: rest =>
      if range.1 ≤ next.1 then range :: follow (next :: rest)
      else next :: enter range follow rest

def together : Ranges → Ranges → Ranges
  | [], t => t
  | range :: rest, t => enter range (together rest) t

def union (s t : Ranges) : Ranges :=
  join (together s t)

def gapsFrom (code : Nat) : Ranges → Ranges
  | [] => if code ≤ lastCode then [(code, lastCode)] else []
  | (first, last) :: rest =>
      if code < first then (code, first - 1) :: gapsFrom (last + 1) rest
      else gapsFrom (last + 1) rest

def complement (s : Ranges) : Ranges :=
  gapsFrom 0 (union surrogates s)

def intersection (s t : Ranges) : Ranges :=
  complement (union (complement s) (complement t))

def difference (s t : Ranges) : Ranges :=
  complement (union (complement s) t)

def symmetricDifference (s t : Ranges) : Ranges :=
  union (difference s t) (difference t s)

def ofCodes (codes : List Nat) : Ranges :=
  join (codes.mergeSort.map fun code => (code, code))

end Ranges

end Unicode
end GameConfig
