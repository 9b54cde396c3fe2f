import GameConfig.Number.Binary64

/-!
# Decimal text of a double

The digits of a double are the fewest that read back to it, and of those the
nearest to it.  A double is read back from every decimal in its *interval*: the
numbers that round to it, the two ends included when its magnitude is even.  Grids of
one to seventeen digits are tried in turn; on each grid only the two
neighbours of the double can be the answer.

What remains is a matter of layout: where a power of ten is written out, what
marks a whole number, and which way an exact tie between two neighbours goes.
-/

namespace GameConfig
namespace Number

structure Decimal where
  digits : List Char
  exponent : Int
deriving DecidableEq, Repr

inductive Tie where
  | toEven
  | upward
deriving DecidableEq, Repr

namespace Decimal

def ofScaled (n : Nat) (power : Int) : Decimal :=
  let digits := Nat.toDigits 10 n
  { digits := (digits.reverse.dropWhile (· == '0')).reverse
    exponent := power + digits.length - 1 }

/-- A double and the numbers that round to it, in quarters of its step: lower end,
the double itself, upper end, and whether the ends belong to it. -/
structure Interval where
  lower : Nat
  middle : Nat
  upper : Nat
  closed : Bool

/-- The interval of a finite magnitude above zero.  Just above a power of two the gap
below is half the gap above. -/
def Interval.ofMagnitude (magnitude : Nat) : Interval :=
  let middle := 4 * binary64.steps magnitude
  let gap := Nat.pow 2 (binary64.gapExponent magnitude)
  let narrow :=
    magnitude % Nat.pow 2 binary64.fractionBits = 0 ∧
      Nat.pow 2 binary64.fractionBits < magnitude
  { lower := middle - (if narrow then gap else 2 * gap)
    middle := middle
    upper := middle + 2 * gap
    closed := magnitude % 2 == 0 }

def Interval.contains (i : Interval) (point : Nat) : Bool :=
  if i.closed then i.lower ≤ point && point ≤ i.upper
  else i.lower < point && point < i.upper

def Interval.scale (i : Interval) (factor : Nat) : Interval :=
  { i with
    lower := i.lower * factor
    middle := i.middle * factor
    upper := i.upper * factor }

def Interval.nearest? (tie : Tie) (i : Interval) (power : Int) : Option Nat :=
  let scaled := i.scale (Nat.pow 10 (-power).toNat)
  let unit := 4 * binary64.one * Nat.pow 10 power.toNat
  let below := scaled.middle / unit
  let rest := scaled.middle % unit
  match scaled.contains (below * unit), scaled.contains ((below + 1) * unit) with
  | false, false => none
  | true, false => some below
  | false, true => some (below + 1)
  | true, true =>
      if 2 * rest < unit then some below
      else if unit < 2 * rest then some (below + 1)
      else
        match tie with
        | .toEven => some (below + below % 2)
        | .upward => some (below + 1)

/-- The power of ten of the first digit of a finite magnitude above zero.  A step is
larger than `10 ^ -400`, so scaling by `10 ^ 400` keeps every leading digit. -/
def leadingExponent (magnitude : Nat) : Int :=
  let scaled := binary64.steps magnitude * Nat.pow 10 400 / binary64.one
  ((Nat.toDigits 10 scaled).length : Int) - 401

/-- The fewest digits that read back to a finite magnitude above zero, the nearest of
those. -/
def shortest (tie : Tie) (magnitude : Nat) : Decimal :=
  let interval := Interval.ofMagnitude magnitude
  let leading := leadingExponent magnitude
  let onGrid (count : Nat) : Option Decimal :=
    let power := leading - count
    (interval.nearest? tie power).map (ofScaled · power)
  ((List.range 17).findSome? onGrid).getD ⟨['0'], 0⟩

end Decimal

/-!
# Layout
-/

structure Layout where
  tie : Tie
  /-- Leading exponents that are written without a power of ten. -/
  positional : Int → Bool
  wholeMark : List Char

namespace Layout

private def zeros (n : Int) : List Char :=
  List.replicate n.toNat '0'

def positionalText (layout : Layout) (d : Decimal) : List Char :=
  if d.exponent < 0 then
    '0' :: '.' :: (zeros (-d.exponent - 1) ++ d.digits)
  else if d.digits.length ≤ d.exponent + 1 then
    d.digits ++ zeros (d.exponent + 1 - d.digits.length) ++ layout.wholeMark
  else
    d.digits.take (d.exponent.toNat + 1) ++
      '.' :: d.digits.drop (d.exponent.toNat + 1)

def scientificText (d : Decimal) : List Char :=
  let fraction :=
    match d.digits.drop 1 with
    | [] => []
    | rest => '.' :: rest
  d.digits.take 1 ++ fraction ++
    'e' :: (if d.exponent < 0 then '-' else '+') ::
      Nat.toDigits 10 d.exponent.natAbs

def text (layout : Layout) (x : Binary64) : List Char :=
  let body :=
    if x.isZero then '0' :: layout.wholeMark
    else
      let d := Decimal.shortest layout.tie x.magnitude
      if layout.positional d.exponent then layout.positionalText d
      else scientificText d
  if x.isNegative then '-' :: body else body

end Layout

end Number
end GameConfig
