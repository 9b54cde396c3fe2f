import GameConfig.Field.Basic
import GameConfig.Json.Fault
import GameConfig.Number.Digits
import GameConfig.Number.Word
import GameConfig.Pattern.CharSet
import GameConfig.Pieces

/-!
# Durations

A duration is written as a whole number of milliseconds, or as seconds with hours and
minutes in front of them and up to three digits of a fraction behind.  The seconds in all
have to fit an unsigned word.

A text is taken apart first.  The digits of any script can stand in its parts, but only the ten
from zero to nine spell a number.
-/

namespace GameConfig

open Number

structure Duration where
  seconds : UInt64
  nanoseconds : UInt32
deriving DecidableEq, Repr

namespace Duration

def nanosecondsPerSecond : UInt32 := 1000000000

def ofSeconds (n : UInt64) : Duration :=
  ⟨n, 0⟩

def ofMilliseconds (n : UInt64) : Duration :=
  ⟨n / 1000, (n % 1000).toUInt32 * 1000000⟩

def add? (a b : Duration) : Option Duration := do
  let seconds ← Word64.add? a.seconds b.seconds
  let nanoseconds ← Word32.add? a.nanoseconds b.nanoseconds
  if nanoseconds < nanosecondsPerSecond then
    some ⟨seconds, nanoseconds⟩
  else do
    let seconds ← Word64.add? seconds 1
    let nanoseconds ← Word32.sub? nanoseconds nanosecondsPerSecond
    some ⟨seconds, nanoseconds⟩

/-!
# Parts of a text
-/

structure Parts where
  front? : Option (Option (List Char) × List Char)
  seconds : List Char
  fraction? : Option (List Char)
deriving DecidableEq, Repr

namespace Parts

/-- Whether a character is a decimal digit in any script. -/
def isDecimal (c : Char) : Bool :=
  Pattern.CharSet.digits.contains c.toNat

def isRun (s : List Char) : Bool :=
  !s.isEmpty && s.all isDecimal

def behindFront? (front? : Option (Option (List Char) × List Char)) (text : List Char) :
    Option Parts :=
  match pieces '.' text with
  | [seconds] => if isRun seconds then some ⟨front?, seconds, none⟩ else none
  | [seconds, fraction] =>
      if isRun seconds ∧ isRun fraction ∧ fraction.length ≤ 3 then
        some ⟨front?, seconds, some fraction⟩
      else none
  | _ => none

def ofText? (text : List Char) : Option Parts :=
  match pieces ':' text with
  | [behind] => behindFront? none behind
  | [minutes, behind] => if isRun minutes then behindFront? (some (none, minutes)) behind else none
  | [hours, minutes, behind] =>
      if isRun hours ∧ isRun minutes then behindFront? (some (some hours, minutes)) behind else none
  | _ => none

end Parts

/-!
# Numbers of the parts
-/

def word? (digits : List Char) : Option UInt64 :=
  if digits ≠ [] ∧ digits.all isDigit ∧ decimalValue digits < UInt64.size then
    some (UInt64.ofNat (decimalValue digits))
  else none

def wordOrZero? : Option (List Char) → Option UInt64
  | some digits => word? digits
  | none => some 0

structure Clock where
  hours : UInt64
  minutes : UInt64
  seconds : UInt64
deriving DecidableEq, Repr

def Parts.clock? (parts : Parts) : Option Clock := do
  let hours ← wordOrZero? (parts.front?.bind Prod.fst)
  let minutes ← wordOrZero? (parts.front?.map Prod.snd)
  let seconds ← word? parts.seconds
  some ⟨hours, minutes, seconds⟩

def Clock.total? (clock : Clock) : Option UInt64 := do
  let hours ← Word64.mul? clock.hours 3600
  let minutes ← Word64.mul? clock.minutes 60
  let front ← Word64.add? hours minutes
  Word64.add? front clock.seconds

/-- The milliseconds that digits behind the point spell: each place that is left out counts ten
times. -/
def fraction (digits : List Char) : Except Overflow (Option UInt64) :=
  match word? digits with
  | none => pure none
  | some n => do
      let places ← granted (Word32.sub? 3 (UInt32.ofNat (Json.byteCount digits)))
      let scale ← granted (Word64.power? 10 places.toNat)
      let milliseconds ← granted (Word64.mul? n scale)
      pure (some milliseconds)

def Parts.milliseconds (parts : Parts) : Except Overflow (Option UInt64) :=
  match parts.fraction? with
  | some digits => fraction digits
  | none => pure (some 0)

def Parts.duration (parts : Parts) : Except Overflow (Option Duration) :=
  match parts.clock? with
  | none => pure none
  | some clock => do
      match ← parts.milliseconds with
      | none => pure none
      | some milliseconds =>
          match clock.total? with
          | none => pure none
          | some total => do
              let sum ← granted ((ofSeconds total).add? (ofMilliseconds milliseconds))
              pure (some sum)

def read (text : String) : Except Overflow (Option Duration) :=
  match Parts.ofText? text.toList with
  | none => pure none
  | some parts => parts.duration

def ofText? (text : String) : Option Duration :=
  match read text with
  | .ok duration? => duration?
  | .error _ => none

end Duration

def Field.duration : Reader Duration
  | .string text => Duration.ofText? text
  | v => v.unsigned?.map Duration.ofMilliseconds

end GameConfig
