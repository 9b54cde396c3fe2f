import GameConfig.Game.SaveState
import GameConfig.Json.Document
import GameConfig.Json.Skip

/-!
# Reading saved games

A saved game is written as an object with a member for each of its five parts, or as an
array of at most five parts in their order.  Parts that are missing are empty; members of
other names are passed over, and a part may not be written twice.  Everything is read
straight from the text for the kind that is expected at its place.
-/

namespace GameConfig
namespace SaveState

open Json

inductive Part where
  | flags
  | counters
  | quests
  | text
  | inventories
deriving DecidableEq, Repr

instance : Keyword Part where
  all := [.flags, .counters, .quests, .text, .inventories]
  word
    | .flags => "flags"
    | .counters => "counters"
    | .quests => "quests"
    | .text => "text"
    | .inventories => "inventories"

/-!
# Kinds
-/

def foundAs : Value → Found
  | .null => .null
  | .boolean b => .boolean b
  | .integer n => .integer n.toInt
  | .unsigned n => .integer n.toNat
  | .float x => .float x
  | .string s => .string s
  | .array _ => .sequence
  | .object _ => .map

/-- Why a value is not what was expected.  A whole number too large for a signed word has
the right type, but not a right value. -/
def mismatch (expected : Expected) (v : Value) : Reason :=
  match expected, v with
  | .integer, .unsigned n => .invalidValue (.integer n.toNat) .integer
  | _, v => .invalidType (foundAs v) expected

/-- Takes a value without parts, if it can be accepted.  The fault of a wrong value lies
behind it, that of a container in front of it. -/
def scalar {α : Type} (expected : Expected) (accept? : Value → Option α) : Scan α := fun s =>
  match skipSpace s with
  | ⟨'[' :: rest, _⟩ => .error (.before ('[' :: rest) (.invalidType .sequence expected))
  | ⟨'{' :: rest, _⟩ => .error (.before ('{' :: rest) (.invalidType .map expected))
  | start => do
      let (v, r) ← start.carryRest <$> valueWithin none start.text
      match accept? v with
      | some a => .ok (a, r)
      | none => .error (.before r.text (mismatch expected v))

def containerMissing {α : Type} (expected : Expected) : Scan α :=
  scalar expected fun _ => none

def listOf {α : Type} (item : Scan α) : Scan (List α) := fun s =>
  match skipSpace s with
  | ⟨'[' :: rest, le⟩ =>
      let behind : Rest s := ⟨rest, le⟩
      behind.toTail.carryRest <$> elements item true behind.text
  | _ => containerMissing .sequence s

/-- Takes a dictionary.  When a name is written twice, the last entry counts. -/
def dictionaryOf {α : Type} (item : Scan α) : Scan (Dictionary α) := fun s =>
  match skipSpace s with
  | ⟨'{' :: rest, le⟩ => do
      let behind : Rest s := ⟨rest, le⟩
      let (pairs, r) ← members string item true behind.text
      .ok (Dictionary.ofList pairs, behind.trans r)
  | _ => containerMissing .map s

def readPart (part : Part) (state : SaveState) : Scan SaveState := fun s =>
  match part with
  | .flags => do
      let (flags, rest) ← dictionaryOf (scalar .boolean Value.boolean?) s
      .ok ({ state with flags := flags }, rest)
  | .counters => do
      let (counters, rest) ← dictionaryOf (scalar .integer Value.signed?) s
      .ok ({ state with counters := counters }, rest)
  | .quests => do
      let (quests, rest) ← dictionaryOf (scalar .integer Value.signed?) s
      .ok ({ state with quests := quests }, rest)
  | .text => do
      let (text, rest) ← dictionaryOf (scalar .string Value.string?) s
      .ok ({ state with text := text }, rest)
  | .inventories => do
      let (inventories, rest) ← dictionaryOf (listOf (scalar .string Value.string?)) s
      .ok ({ state with inventories := inventories }, rest)

/-!
# The two forms of a saved game
-/

/-- The fault of a part that is written twice: it lies behind the second name, the white space
that follows and the brace, if one closes the object there. -/
def duplicatePart (part : Part) (s : List Char) : Fault :=
  let behind :=
    match (skipSpace s).text with
    | '}' :: rest => rest
    | rest => rest
  .before behind (.duplicateField (Keyword.word part))

def readMember (part? : Option Part) (state : SaveState) : Scan SaveState := fun s => do
  let afterColon ← colon s
  match part? with
  | some part => afterColon.toTail.carryRest <$> readPart part state afterColon.text
  | none => do
      let r ← skipValue afterColon.text
      .ok (state, afterColon.trans r)

def readMembers (seen : List Part) (state : SaveState) (first : Bool) (s : List Char) :
    Except Fault (SaveState × Rest s) :=
  match nextName string first s with
  | .error fault => .error fault
  | .ok (.finished r) => .ok (state, r)
  | .ok (.item name t) =>
      let part? : Option Part := Keyword.ofWord? name
      match part?.filter seen.contains with
      | some part => .error (duplicatePart part t.text)
      | none =>
          match t.carryRest <$> readMember part? state t.text with
          | .error fault => .error fault
          | .ok (state, r) =>
              match readMembers (part?.toList ++ seen) state false r.text with
              | .error fault => .error fault
              | .ok (state, r') => .ok (state, r.trans r')
termination_by s.length
decreasing_by exact r.shorter

def closeParts (s : List Char) : Except Fault (Rest s) :=
  match skipSpace s with
  | ⟨[], _⟩ => .error (.atEnd .endInList)
  | ⟨']' :: rest, le⟩ => .ok ⟨rest, le⟩
  | ⟨',' :: rest, _⟩ =>
      match (skipSpace rest).text with
      | ']' :: after => .error (.within (']' :: after) .trailingComma)
      | after => .error (.within after .trailingCharacters)
  | ⟨c :: rest, _⟩ => .error (.within (c :: rest) .trailingCharacters)

def readParts (first : Bool) : List Part → SaveState → Scan SaveState
  | [], state, s => do
      let r ← closeParts s
      .ok (state, r)
  | part :: parts, state, s => do
      match ← nextElement first s with
      | .finished r => .ok (state, r)
      | .item () t => do
          let (state, r) ← t.carryRest <$> readPart part state t.text
          let (state, r') ← readParts false parts state r.text
          .ok (state, r.trans r')

def scan : Scan SaveState := fun s =>
  match skipSpace s with
  | ⟨'{' :: rest, le⟩ =>
      let behind : Rest s := ⟨rest, le⟩
      behind.toTail.carryRest <$> readMembers [] empty true behind.text
  | ⟨'[' :: rest, le⟩ =>
      let behind : Rest s := ⟨rest, le⟩
      behind.toTail.carryRest <$> readParts true Keyword.all empty behind.text
  | _ => containerMissing .savedGame s

def read (text : String) : Except Json.Error SaveState :=
  let parsed := do
    let (state, r) ← scan text.toList
    finish r.text
    .ok state
  parsed.mapError (Fault.locate text.toList)

end SaveState
end GameConfig
