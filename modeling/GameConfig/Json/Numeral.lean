import GameConfig.Json.Scan
import GameConfig.Number.Digits
import GameConfig.Value.Basic

/-!
# Numerals

A numeral is a whole part, an optional fraction and an optional power of ten.  A numeral
of a whole part alone that fits a word is a whole number.  All others are doubles, and
those are computed rather than rounded: the leading digits are collected in an unsigned
word, the rest only moves the power of ten, and the collected number is rounded to a
double before it is multiplied or divided by that power.
-/

namespace GameConfig
namespace Json

open Number

structure Power where
  negative : Bool
  digits : List Char
deriving DecidableEq, Repr

structure Numeral where
  negative : Bool
  whole : List Char
  fraction : List Char
  power? : Option Power
deriving DecidableEq, Repr

/-!
# Taking a numeral from a text
-/

def digitRun : (s : List Char) → List Char × Tail s
  | [] => ([], .whole [])
  | c :: rest =>
      if isDigit c then
        let (run, t) := digitRun rest
        (c :: run, t.push c)
      else ([], .whole (c :: rest))

def fractionPart (s : List Char) : Except Fault (List Char × Tail s) :=
  match s with
  | '.' :: rest =>
      match digitRun rest with
      | ([], ⟨[], _⟩) => .error (.atEnd .endInValue)
      | ([], ⟨c :: after, _⟩) => .error (.within (c :: after) .invalidNumber)
      | (digits, t) => .ok (digits, t.push '.')
  | s => .ok ([], .whole s)

def powerDigits (negative : Bool) (s : List Char) : Except Fault (Power × Tail s) :=
  match s with
  | [] => .error (.atEnd .endInValue)
  | c :: rest =>
      if isDigit c then
        let (digits, t) := digitRun (c :: rest)
        .ok (⟨negative, digits⟩, t)
      else .error (.within (c :: rest) .invalidNumber)

def signedPower (s : List Char) : Except Fault (Power × Tail s) :=
  match s with
  | '+' :: rest => do
      let (power, t) ← powerDigits false rest
      .ok (power, t.push '+')
  | '-' :: rest => do
      let (power, t) ← powerDigits true rest
      .ok (power, t.push '-')
  | s => powerDigits false s

def powerPart (s : List Char) : Except Fault (Option Power × Tail s) :=
  match s with
  | [] => .ok (none, .whole [])
  | c :: rest =>
      if c = 'e' ∨ c = 'E' then do
        let (power, t) ← signedPower rest
        .ok (some power, t.push c)
      else .ok (none, .whole (c :: rest))

def wholePart : Scan (List Char)
  | [] => .error (.atEnd .endInValue)
  | c :: rest =>
      if c = '0' then
        match rest with
        | [] => .ok ([c], .ofCons c [])
        | d :: after =>
            if isDigit d then .error (.within (d :: after) .invalidNumber)
            else .ok ([c], .ofCons c (d :: after))
      else if isDigit c then
        let (digits, t) := digitRun rest
        .ok (c :: digits, t.push c)
      else .error (.within (c :: rest) .invalidNumber)

def unsignedNumeral (negative : Bool) : Scan Numeral := fun s => do
  let (whole, r) ← wholePart s
  let (fraction, r) ← r.carry <$> fractionPart r.text
  let (power?, r) ← r.carry <$> powerPart r.text
  .ok (⟨negative, whole, fraction, power?⟩, r)

def numeral : Scan Numeral
  | '-' :: rest => do
      let (found, r) ← unsignedNumeral true rest
      .ok (found, r.toTail.push '-')
  | s => unsignedNumeral false s

/-!
# What a numeral stands for
-/

/-- Appends digits to a number for as long as it fits an unsigned word, and gives the
digits that are left over. -/
def collect (n : Nat) : List Char → Nat × List Char
  | [] => (n, [])
  | c :: rest =>
      if n * 10 + digitValue c < UInt64.size then collect (n * 10 + digitValue c) rest
      else (n, c :: rest)

/-- The collected digits of a numeral, and the power of ten that the digits left out and the
digits of the fraction amount to. -/
def Numeral.collected (numeral : Numeral) : Nat × Int :=
  let (whole, dropped) := collect 0 numeral.whole
  let (all, ignored) := collect whole numeral.fraction
  (all, (dropped.length : Int) - ((numeral.fraction.length : Int) - ignored.length))

def largestPower : Nat := 308

def powerOfTen (k : Nat) : Nat :=
  binary64.ofNat (Nat.pow 10 k)

/-- A finite magnitude times a power of ten, or nothing when it grows past all doubles.
Powers too small for a double are divided out in steps, until nothing is left. -/
def scaleByPower (magnitude : Nat) (power : Int) : Option Nat :=
  if power.natAbs ≤ largestPower then
    if 0 ≤ power then
      let product := binary64.mul magnitude (powerOfTen power.natAbs)
      if product < binary64.infinity then some product else none
    else some (binary64.div magnitude (powerOfTen power.natAbs))
  else if magnitude = 0 then some 0
  else if 0 < power then none
  else scaleByPower (binary64.div magnitude (powerOfTen largestPower)) (power + largestPower)
termination_by power.natAbs
decreasing_by
  simp only [largestPower] at *
  omega

/-- Powers are counted in a signed word of 32 bits. -/
def powerLimit : Nat := Nat.pow 2 31

/-- The value of the digits of a power, or what follows the digit at which it passes the
limit. -/
def countPower (n : Nat) : List Char → Except (List Char) Nat
  | [] => .ok n
  | c :: rest =>
      if n * 10 + digitValue c < powerLimit then countPower (n * 10 + digitValue c) rest
      else .error rest

def double? (negative : Bool) (digits : Nat) (power : Int) : Option Value :=
  (scaleByPower (binary64.ofNat digits) power).map fun magnitude =>
    .float (.ofMagnitude negative magnitude)

def signedLimit : Nat := Nat.pow 2 63

def wholeValue (negative : Bool) (digits : Nat) : Value :=
  if negative then
    if 0 < digits ∧ digits ≤ signedLimit then .integer (Int64.ofInt (-digits))
    else .float (.ofMagnitude true (binary64.ofNat digits))
  else if digits < signedLimit then .integer (Int64.ofNat digits)
  else .unsigned (UInt64.ofNat digits)

/-- The value of a numeral.  The error tells how many of its last bytes lie behind the
place where it became too large. -/
def Numeral.value (numeral : Numeral) : Except Nat Value :=
  let (digits, power) := numeral.collected
  match numeral.power? with
  | none =>
      if numeral.fraction = [] ∧ (collect 0 numeral.whole).2 = [] then
        .ok (wholeValue numeral.negative digits)
      else
        match double? numeral.negative digits power with
        | some value => .ok value
        | none => .error 0
  | some written =>
      match countPower 0 written.digits with
      | .error behind =>
          if digits ≠ 0 ∧ !written.negative then .error behind.length
          else .ok (.float (.ofMagnitude numeral.negative 0))
      | .ok n =>
          let shift : Int := if written.negative then -(n : Int) else n
          match double? numeral.negative digits (power + shift) with
          | some value => .ok value
          | none => .error 0

def number : Scan Value := fun s => do
  let (found, r) ← numeral s
  match found.value with
  | .ok value => .ok (value, r)
  | .error behind => .error ⟨.numberOutOfRange, byteCount r.text + behind⟩

end Json
end GameConfig
