import GameConfig.Field.Basic
import GameConfig.Number.Digits

/-!
# Colours

A colour is written as a number sign with six or eight hexadecimal digits, or as an array of
three or four bytes.  A colour without a fourth channel is opaque.
-/

namespace GameConfig

open Number

structure Color where
  red : UInt8
  green : UInt8
  blue : UInt8
  alpha : UInt8
deriving DecidableEq, Repr

namespace Color

def black : Color := ⟨0, 0, 0, 255⟩
def white : Color := ⟨255, 255, 255, 255⟩
def transparent : Color := ⟨0, 0, 0, 0⟩

def ofChannels? : List UInt8 → Option Color
  | [red, green, blue] => some ⟨red, green, blue, 255⟩
  | [red, green, blue, alpha] => some ⟨red, green, blue, alpha⟩
  | _ => none

def hexBytes? : List Char → Option (List UInt8)
  | [] => some []
  | high :: low :: rest => do
      let high ← hexValue? high
      let low ← hexValue? low
      let bytes ← hexBytes? rest
      some (UInt8.ofNat (high * 16 + low) :: bytes)
  | _ => none

def ofText? (text : String) : Option Color :=
  match text.toList with
  | '#' :: digits => (hexBytes? digits).bind ofChannels?
  | _ => none

end Color

def Field.color : Reader Color
  | .string text => Color.ofText? text
  | .array items => (items.mapM Field.byte).bind Color.ofChannels?
  | _ => none

end GameConfig
