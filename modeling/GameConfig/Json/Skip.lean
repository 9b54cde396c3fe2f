import GameConfig.Json.Numeral
import GameConfig.Json.Quoted

/-!
# Passing over values

A value that nobody asks for is passed over without being built.  It may nest as deep as it
likes, its numerals may be of any size, and its escapes may be halves of surrogate pairs; only
its form is looked at.
-/

namespace GameConfig
namespace Json

/-- Passes over a numeral.  Whatever is wrong with its form, it is an invalid number. -/
def skipNumeral (s : List Char) : Except Fault (Rest s) :=
  match numeral s with
  | .ok (_, r) => .ok r
  | .error fault => .error { fault with reason := .invalidNumber }

def skipEscape (s : List Char) : Except Fault (Rest s) :=
  match s with
  | [] => .error (.atEnd .endInString)
  | 'u' :: rest => do
      let (_, t) ← hexUnit rest
      .ok (t.push 'u')
  | c :: rest =>
      match simpleEscape? c with
      | some _ => .ok (.ofCons c rest)
      | none => .error (.within (c :: rest) .invalidEscape)

def skipString (s : List Char) : Except Fault (Rest s) :=
  match plainRun s with
  | (_, ⟨[], _⟩) => .error (.atEnd .endInString)
  | (_, ⟨'"' :: rest, le⟩) => .ok ⟨rest, le⟩
  | (_, ⟨'\\' :: rest, le⟩) =>
      let behind : Rest s := ⟨rest, le⟩
      match behind.toTail.transRest <$> skipEscape behind.text with
      | .error fault => .error fault
      | .ok r =>
          match skipString r.text with
          | .error fault => .error fault
          | .ok r' => .ok (r.trans r')
  | (_, ⟨c :: rest, _⟩) => .error (.before (c :: rest) .controlCharacter)
termination_by s.length
decreasing_by exact r.shorter

inductive Bracket where
  | list
  | record
deriving DecidableEq, Repr

namespace Bracket

def closer : Bracket → Char
  | .list => ']'
  | .record => '}'

def unfinished : Bracket → Reason
  | .list => .endInList
  | .record => .endInObject

def misplaced : Bracket → Reason
  | .list => .expectedListEnd
  | .record => .expectedObjectEnd

end Bracket

/-- Passes over the closers behind a value, and over the comma that announces a further
item.  No brackets are left when the whole value is finished. -/
def skipClosers : (outer : List Bracket) → (s : List Char) →
    Except Fault (List Bracket × Tail s)
  | [], s => .ok ([], .whole s)
  | bracket :: outer, s =>
      match skipSpace s with
      | ⟨[], _⟩ => .error (.atEnd bracket.unfinished)
      | ⟨c :: rest, le⟩ =>
          let behind : Rest s := ⟨rest, le⟩
          if c = ',' then .ok (bracket :: outer, behind)
          else if c = bracket.closer then behind.toTail.carry <$> skipClosers outer behind.text
          else .error (.within (c :: rest) bracket.misplaced)

def skipHead (bracket : Bracket) (s : List Char) : Except Fault (Tail s) :=
  match bracket with
  | .list => .ok (.whole s)
  | .record => do
      let name : Scan Unit := fun s => do
        let r ← skipString s
        .ok ((), r)
      let start := skipSpace s
      let (_, r) ← start.carryRest <$> quotedName name .endInObject start.text
      let r' ← colon r.text
      .ok (r.trans r')

/-- Passes over a value without parts, or over the opening of one that has parts. -/
def skipStart : Scan (Option Bracket) := fun s =>
  match skipSpace s with
  | ⟨[], _⟩ => .error (.atEnd .endInValue)
  | ⟨c :: rest, le⟩ =>
      let here : Tail s := ⟨c :: rest, le⟩
      let behind : Rest s := ⟨rest, le⟩
      if c = 'n' then behind.carry <$> word none ['u', 'l', 'l'] behind.text
      else if c = 't' then behind.carry <$> word none ['r', 'u', 'e'] behind.text
      else if c = 'f' then behind.carry <$> word none ['a', 'l', 's', 'e'] behind.text
      else if c = '"' then do
        let r ← skipString behind.text
        .ok (none, behind.trans r)
      else if c = '-' ∨ Number.isDigit c then do
        let r ← skipNumeral here.text
        .ok (none, here.transRest r)
      else if c = '[' then .ok (some .list, behind)
      else if c = '{' then .ok (some .record, behind)
      else .error (.within (c :: rest) .expectedValue)

/-- Passes over what may stand directly behind an opening bracket: the closer of an empty
container, and all that closes with it. -/
def skipEmpty (bracket : Bracket) (outer : List Bracket) (s : List Char) :
    Except Fault (List Bracket × Tail s) :=
  match skipSpace s with
  | ⟨[], _⟩ => .error (.atEnd bracket.unfinished)
  | ⟨c :: rest, le⟩ =>
      if c = bracket.closer then
        let behind : Rest s := ⟨rest, le⟩
        behind.toTail.carry <$> skipClosers outer behind.text
      else .ok (bracket :: outer, ⟨c :: rest, le⟩)

def skipInside (outer : List Bracket) (s : List Char) : Except Fault (Rest s) :=
  match skipStart s with
  | .error fault => .error fault
  | .ok (opened?, r) =>
      let next :=
        match opened? with
        | none => skipClosers outer r.text
        | some bracket => skipEmpty bracket outer r.text
      match r.carry <$> next with
      | .error fault => .error fault
      | .ok ([], r) => .ok r
      | .ok (bracket :: open_, r) =>
          match r.trans <$> skipHead bracket r.text with
          | .error fault => .error fault
          | .ok r =>
              match skipInside (bracket :: open_) r.text with
              | .error fault => .error fault
              | .ok r' => .ok (r.trans r')
termination_by s.length
decreasing_by exact r.shorter

def skipValue (s : List Char) : Except Fault (Rest s) :=
  skipInside [] s

end Json
end GameConfig
