import GameConfig.Json.Fault
import GameConfig.Rest

/-!
# Scanning JSON text

A scanner reads something from the front of a text and gives what is left, which is
always shorter.  Everything that reads documents or saved games is put together from
the pieces of this module: white space, fixed words, and the punctuation of lists and
objects.
-/

namespace GameConfig
namespace Json

abbrev Scan (α : Type) := (s : List Char) → Except Fault (α × Rest s)

def isSpace (c : Char) : Bool :=
  c == ' ' || c == '\n' || c == '\t' || c == '\r'

def skipSpace : (s : List Char) → Tail s
  | [] => .whole []
  | c :: rest => if isSpace c then (skipSpace rest).push c else .whole (c :: rest)

def word {α : Type} (meaning : α) : (letters : List Char) → (s : List Char) →
    Except Fault (α × Tail s)
  | [], s => .ok (meaning, .whole s)
  | _ :: _, [] => .error (.atEnd .endInValue)
  | letter :: letters, c :: rest =>
      if c = letter then do
        let (found, t) ← word meaning letters rest
        .ok (found, t.push c)
      else .error (.within (c :: rest) .expectedWord)

/-!
# Lists

A list is read from behind its opening bracket.
-/

inductive Next (α : Type) (s : List Char) where
  | finished (rest : Rest s)
  | item (head : α) (rest : Tail s)

def nextElement (first : Bool) (s : List Char) : Except Fault (Next Unit s) :=
  match skipSpace s with
  | ⟨[], _⟩ => .error (.atEnd .endInList)
  | ⟨c :: rest, le⟩ =>
      let behind : Rest s := ⟨rest, le⟩
      if c = ']' then .ok (.finished behind)
      else if first then .ok (.item () ⟨c :: rest, le⟩)
      else if c = ',' then
        match skipSpace rest with
        | ⟨[], _⟩ => .error (.atEnd .endInValue)
        | ⟨']' :: after, _⟩ => .error (.within (']' :: after) .trailingComma)
        | t => .ok (.item () (behind.trans t))
      else .error (.within (c :: rest) .expectedListEnd)

def elements {α : Type} (item : Scan α) (first : Bool) (s : List Char) :
    Except Fault (List α × Rest s) :=
  match nextElement first s with
  | .error fault => .error fault
  | .ok (.finished r) => .ok ([], r)
  | .ok (.item () t) =>
      match t.carryRest <$> item t.text with
      | .error fault => .error fault
      | .ok (x, r) =>
          match elements item false r.text with
          | .error fault => .error fault
          | .ok (xs, r') => .ok (x :: xs, r.trans r')
termination_by s.length
decreasing_by exact r.shorter

/-!
# Objects

An object is read from behind its opening brace.  The scanner for names is a
parameter: it starts behind the quotation mark.
-/

def colon (s : List Char) : Except Fault (Rest s) :=
  match skipSpace s with
  | ⟨[], _⟩ => .error (.atEnd .endInObject)
  | ⟨':' :: rest, le⟩ => .ok ⟨rest, le⟩
  | ⟨c :: rest, _⟩ => .error (.within (c :: rest) .expectedColon)

def quotedName {α : Type} (name : Scan α) (missing : Reason) : Scan α
  | [] => .error (.atEnd missing)
  | '"' :: rest => do
      let (found, r) ← name rest
      .ok (found, r.toTail.push '"')
  | c :: rest => .error (.within (c :: rest) .keyNotString)

def nextName {α : Type} (name : Scan α) (first : Bool) (s : List Char) :
    Except Fault (Next α s) :=
  match skipSpace s with
  | ⟨[], _⟩ => .error (.atEnd .endInObject)
  | ⟨c :: rest, le⟩ =>
      let here : Tail s := ⟨c :: rest, le⟩
      let behind : Rest s := ⟨rest, le⟩
      if c = '}' then .ok (.finished behind)
      else if first then do
        let (found, r) ← here.carryRest <$> quotedName name .endInObject here.text
        .ok (.item found r)
      else if c = ',' then
        match skipSpace rest with
        | ⟨'}' :: after, _⟩ => .error (.within ('}' :: after) .trailingComma)
        | t => do
            let (found, r) ← t.carryRest <$> quotedName name .endInValue t.text
            .ok (.item found (behind.trans r))
      else .error (.within (c :: rest) .expectedObjectEnd)

def members {α β : Type} (name : Scan α) (item : Scan β) (first : Bool) (s : List Char) :
    Except Fault (List (α × β) × Rest s) :=
  match nextName name first s with
  | .error fault => .error fault
  | .ok (.finished r) => .ok ([], r)
  | .ok (.item key t) =>
      match t.transRest <$> colon t.text with
      | .error fault => .error fault
      | .ok afterColon =>
          match afterColon.toTail.carryRest <$> item afterColon.text with
          | .error fault => .error fault
          | .ok (x, r) =>
              match members name item false r.text with
              | .error fault => .error fault
              | .ok (xs, r') => .ok ((key, x) :: xs, r.trans r')
termination_by s.length
decreasing_by exact r.shorter

def finish (s : List Char) : Except Fault Unit :=
  match skipSpace s with
  | ⟨[], _⟩ => .ok ()
  | ⟨rest, _⟩ => .error (.within rest .trailingCharacters)

end Json
end GameConfig
