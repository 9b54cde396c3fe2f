/-!
# Rounding to a binary interchange format

A binary format stores a sign and a *magnitude*: the exponent field and the
fraction field read as one number.  Every finite magnitude stands for a whole
number of the format's smallest positive step, so exact arithmetic on
magnitudes is arithmetic on natural numbers.  Rounding a quotient of natural
numbers to a format takes the nearest magnitude, a half going to the even one.
-/

namespace GameConfig
namespace Number

/-- The integer nearest to `num / den`; a half goes to the even neighbour. -/
def roundHalfEven (num den : Nat) : Nat :=
  let quotient := num / den
  let remainder := num % den
  if 2 * remainder < den then quotient
  else if den < 2 * remainder then quotient + 1
  else quotient + quotient % 2

structure Format where
  fractionBits : Nat
  exponentBits : Nat
deriving DecidableEq, Repr

def binary64 : Format := ⟨52, 11⟩

def binary32 : Format := ⟨23, 8⟩

namespace Format

def infinity (format : Format) : Nat :=
  (Nat.pow 2 format.exponentBits - 1) * Nat.pow 2 format.fractionBits

/-- One is this power of two, counted in the smallest positive step. -/
def unitExponent (format : Format) : Nat :=
  Nat.pow 2 (format.exponentBits - 1) - 2 + format.fractionBits

def one (format : Format) : Nat :=
  Nat.pow 2 format.unitExponent

def gapExponent (format : Format) (magnitude : Nat) : Nat :=
  magnitude / Nat.pow 2 format.fractionBits - 1

def steps (format : Format) (magnitude : Nat) : Nat :=
  let exponent := magnitude / Nat.pow 2 format.fractionBits
  let fraction := magnitude % Nat.pow 2 format.fractionBits
  if exponent = 0 then fraction
  else (Nat.pow 2 format.fractionBits + fraction) * Nat.pow 2 (exponent - 1)

/-- The magnitude nearest to `num / den` smallest steps.

Past the fraction's width the grid widens by a power of two, and a fraction that
rounds up to the next power of two carries into the exponent field, which is
the encoding of that power. -/
def round (format : Format) (num den : Nat) : Nat :=
  let gap := (num / den).log2 - format.fractionBits
  min format.infinity
    (gap * Nat.pow 2 format.fractionBits + roundHalfEven num (den * Nat.pow 2 gap))

def ofNat (format : Format) (n : Nat) : Nat :=
  format.round (n * format.one) 1

def mul (format : Format) (a b : Nat) : Nat :=
  format.round (format.steps a * format.steps b) format.one

def div (format : Format) (a b : Nat) : Nat :=
  format.round (format.steps a * format.one) (format.steps b)

end Format

/-!
# Exact cases of rounding
-/

theorem roundHalfEven_mul (n : Nat) {den : Nat} (h : 0 < den) :
    roundHalfEven (n * den) den = n := by
  simp [roundHalfEven, Nat.mul_div_cancel n h, h]

end Number
end GameConfig
