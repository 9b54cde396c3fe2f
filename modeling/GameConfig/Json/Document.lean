import GameConfig.Json.Numeral
import GameConfig.Json.Quoted

/-!
# Reading documents

A document is one JSON value with nothing but white space around it.  Brackets and
braces nest at most 127 deep.  When a member is written twice, the last one counts.
-/

namespace GameConfig
namespace Json

open Number

def nestingLimit : Nat := 127

/-- Takes a value.  The scanner for the contents of brackets and braces is missing where
no more of them may be opened. -/
def valueWithin (contents? : Option (Scan Value)) : Scan Value := fun s =>
  match skipSpace s with
  | ⟨[], _⟩ => .error (.atEnd .endInValue)
  | ⟨c :: rest, le⟩ =>
      let here : Tail s := ⟨c :: rest, le⟩
      let behind : Rest s := ⟨rest, le⟩
      if c = 'n' then behind.carry <$> word Value.null ['u', 'l', 'l'] behind.text
      else if c = 't' then
        behind.carry <$> word (Value.boolean true) ['r', 'u', 'e'] behind.text
      else if c = 'f' then
        behind.carry <$> word (Value.boolean false) ['a', 'l', 's', 'e'] behind.text
      else if c = '"' then do
        let (text, r) ← string behind.text
        .ok (.string text, behind.trans r)
      else if c = '-' ∨ isDigit c then here.carryRest <$> number here.text
      else if c = '[' then
        match contents? with
        | none => .error (.within (c :: rest) .nestedTooDeep)
        | some item => do
            let (items, r) ← elements item true behind.text
            .ok (.array items, behind.trans r)
      else if c = '{' then
        match contents? with
        | none => .error (.within (c :: rest) .nestedTooDeep)
        | some item => do
            let (pairs, r) ← members string item true behind.text
            .ok (.object (Dictionary.ofList pairs), behind.trans r)
      else .error (.within (c :: rest) .expectedValue)

def value : (room : Nat) → Scan Value
  | 0 => valueWithin none
  | room + 1 => valueWithin (some (value room))

def readDocument (text : String) : Except Error Value :=
  let parsed := do
    let (v, r) ← value nestingLimit text.toList
    finish r.text
    .ok v
  parsed.mapError (Fault.locate text.toList)

end Json
end GameConfig
