import GameConfig.Json.Scan
import GameConfig.Number.Digits

/-!
# Quoted strings

A string is written between quotation marks.  Quotation marks, backslashes and control
characters inside it are written as escapes; any character may be read from one.
-/

namespace GameConfig
namespace Json

open Number

/-!
# Writing
-/

def hexDigit (n : Nat) : Char :=
  Nat.digitChar (n % 16)

def escaped (c : Char) : List Char :=
  if c = '"' then ['\\', '"']
  else if c = '\\' then ['\\', '\\']
  else if c = '\n' then ['\\', 'n']
  else if c = '\r' then ['\\', 'r']
  else if c = '\t' then ['\\', 't']
  else if c.toNat = 0x08 then ['\\', 'b']
  else if c.toNat = 0x0c then ['\\', 'f']
  else if c.toNat < 0x20 then
    ['\\', 'u', '0', '0', hexDigit (c.toNat / 16), hexDigit c.toNat]
  else [c]

def writeString (s : String) (rest : List Char) : List Char :=
  '"' :: (s.toList.flatMap escaped ++ '"' :: rest)

/-!
# Reading
-/

def hexUnit? (a b c d : Char) : Option Nat := do
  let a ← hexValue? a
  let b ← hexValue? b
  let c ← hexValue? c
  let d ← hexValue? d
  pure (((a * 16 + b) * 16 + c) * 16 + d)

def hexFault (s : List Char) : Fault :=
  if byteCount s < 4 then .atEnd .endInString
  else ⟨.invalidEscape, byteCount s - 4⟩

def hexUnit (s : List Char) : Except Fault (Nat × Tail s) :=
  match s with
  | a :: b :: c :: d :: rest =>
      match hexUnit? a b c d with
      | some unit =>
          let afterThree : Tail (d :: rest) := Rest.ofCons d rest
          let afterTwo : Tail (c :: d :: rest) := afterThree.push c
          let afterOne : Tail (b :: c :: d :: rest) := afterTwo.push b
          .ok (unit, afterOne.push a)
      | none => .error (hexFault (a :: b :: c :: d :: rest))
  | s => .error (hexFault s)

def isLeadingSurrogate (unit : Nat) : Bool :=
  0xD800 ≤ unit && unit < 0xDC00

def isTrailingSurrogate (unit : Nat) : Bool :=
  0xDC00 ≤ unit && unit < 0xE000

def joinSurrogates (leading trailing : Nat) : Nat :=
  0x10000 + (leading - 0xD800) * 0x400 + (trailing - 0xDC00)

/-- Takes the second half of a surrogate pair, which is an escape of its own. -/
def trailingSurrogate (leading : Nat) (s : List Char) : Except Fault (Char × Tail s) :=
  match s with
  | [] => .error (.atEnd .endInString)
  | ['\\'] => .error (.atEnd .endInString)
  | '\\' :: 'u' :: rest => do
      let (unit, t) ← hexUnit rest
      if isTrailingSurrogate unit then
        let afterLetter : Tail ('u' :: rest) := t.push 'u'
        .ok (Char.ofNat (joinSurrogates leading unit), afterLetter.push '\\')
      else .error (.before t.text .loneSurrogate)
  | '\\' :: c :: rest => .error (.within (c :: rest) .endOfHexEscape)
  | c :: rest => .error (.within (c :: rest) .endOfHexEscape)

def numericEscape (s : List Char) : Except Fault (Char × Tail s) := do
  let (unit, t) ← hexUnit s
  if isTrailingSurrogate unit then .error (.before t.text .loneSurrogate)
  else if isLeadingSurrogate unit then t.carry <$> trailingSurrogate unit t.text
  else .ok (Char.ofNat unit, t)

def simpleEscape? : Char → Option Char
  | '"' => some '"'
  | '\\' => some '\\'
  | '/' => some '/'
  | 'b' => some '\x08'
  | 'f' => some '\x0c'
  | 'n' => some '\n'
  | 'r' => some '\r'
  | 't' => some '\t'
  | _ => none

def escape : Scan Char
  | [] => .error (.atEnd .endInString)
  | 'u' :: rest => do
      let (c, t) ← numericEscape rest
      .ok (c, t.push 'u')
  | c :: rest =>
      match simpleEscape? c with
      | some meaning => .ok (meaning, .ofCons c rest)
      | none => .error (.within (c :: rest) .invalidEscape)

def isPlain (c : Char) : Bool :=
  c != '"' && c != '\\' && 0x20 ≤ c.toNat

def plainRun : (s : List Char) → List Char × Tail s
  | [] => ([], .whole [])
  | c :: rest =>
      if isPlain c then
        let (run, t) := plainRun rest
        (c :: run, t.push c)
      else ([], .whole (c :: rest))

def stringBody (s : List Char) : Except Fault (List Char × Rest s) :=
  match plainRun s with
  | (_, ⟨[], _⟩) => .error (.atEnd .endInString)
  | (run, ⟨'"' :: rest, le⟩) => .ok (run, ⟨rest, le⟩)
  | (run, ⟨'\\' :: rest, le⟩) =>
      let behind : Rest s := ⟨rest, le⟩
      match behind.toTail.carryRest <$> escape behind.text with
      | .error fault => .error fault
      | .ok (c, r) =>
          match stringBody r.text with
          | .error fault => .error fault
          | .ok (cs, r') => .ok (run ++ c :: cs, r.trans r')
  | (_, ⟨c :: rest, _⟩) => .error (.within (c :: rest) .controlCharacter)
termination_by s.length
decreasing_by exact r.shorter

def string : Scan String := fun s => do
  let (cs, r) ← stringBody s
  .ok (String.ofList cs, r)

end Json
end GameConfig
