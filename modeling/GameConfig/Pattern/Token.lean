import GameConfig.Number.Digits
import GameConfig.Pattern.Basic
import GameConfig.Pattern.CharSet.Lookup
import GameConfig.Rest
import GameConfig.Unicode.Letter

/-!
# Tokens of a pattern

The smallest parts of a pattern's text: ignored blanks, escapes, numbers of repetitions
and the heads of groups.  A reader gives nothing for a text that is no pattern.
-/

namespace GameConfig
namespace Pattern

open Number

def isBlank (c : Char) : Bool :=
  CharSet.blanks.contains c.toNat

/-!
# Ignored blanks
-/

/-- The text without blanks and comments in front; the flag tells whether the text starts
inside a comment. -/
def skipBlanks (inComment : Bool) : (s : List Char) → Tail s
  | [] => .whole []
  | c :: rest =>
      if inComment then (skipBlanks (c != '\n') rest).push c
      else if isBlank c then (skipBlanks false rest).push c
      else if c = '#' then (skipBlanks true rest).push c
      else .whole (c :: rest)

def Flags.skip (flags : Flags) (s : List Char) : Tail s :=
  if flags.spaced then skipBlanks false s else .whole s

/-- The character that a range operator would have to stand before.  A comment hides only
its mark and the blanks behind it. -/
def Flags.peek? (flags : Flags) (s : List Char) : Option Char :=
  if flags.spaced then
    match s.dropWhile isBlank with
    | '#' :: rest => (rest.dropWhile isBlank).head?
    | rest => rest.head?
  else s.head?

/-!
# Escapes
-/

inductive Token where
  | char (c : Char)
  | set (set : CharSet)
  | assertion (a : Assertion)
deriving Repr

def charAt? (code : Nat) : Option Char :=
  if code.isValidChar then some (Char.ofNat code) else none

def hexDigits (flags : Flags) (code : Nat) : (count : Nat) → (s : List Char) →
    Option (Nat × Tail s)
  | 0, s => some (code, .whole s)
  | _ + 1, [] => none
  | count + 1, c :: rest => do
      let digit ← hexValue? c
      let t : Rest (c :: rest) := (flags.skip rest).push c
      t.toTail.carry <$> hexDigits flags (code * 16 + digit) count t.text

def bracedHexDigits (flags : Flags) (code? : Option Nat) (s : List Char) :
    Option (Nat × Rest s) :=
  match s with
  | [] => none
  | c :: rest =>
      let r : Rest (c :: rest) := (flags.skip rest).push c
      if c = '}' then code?.map fun code => (code, r)
      else do
        let digit ← hexValue? c
        r.toTail.carryRest <$> bracedHexDigits flags (some (code?.getD 0 * 16 + digit)) r.text
termination_by s.length
decreasing_by exact r.shorter

/-- Takes a code point behind the letter of its escape.  Without Unicode, two digits stand
for a byte, and only the lower half of all bytes are characters. -/
def codePoint (flags : Flags) (letter : Char) (s : List Char) : Option (Char × Tail s) :=
  match flags.skip s with
  | ⟨'{' :: rest, le⟩ => do
      let behind : Rest s := ⟨rest, le⟩
      let start := behind.trans (flags.skip behind.text)
      let (code, r) ← bracedHexDigits flags none start.text
      let c ← charAt? code
      some (c, start.trans r)
  | t => do
      let count := if letter = 'x' then 2 else if letter = 'u' then 4 else 8
      let (code, t') ← hexDigits flags 0 count t.text
      let c ← charAt? code
      if letter = 'x' ∧ !flags.unicode ∧ 0x80 ≤ code then none
      else some (c, t.trans t')

def bracedName (flags : Flags) (s : List Char) : Option (List Char × Rest s) :=
  match s with
  | [] => none
  | c :: rest =>
      if c = '}' then some ([], .ofCons c rest)
      else
        let r : Rest (c :: rest) := (flags.skip rest).push c
        (bracedName flags r.text).map fun (name, r') => (c :: name, r.trans r')
termination_by s.length
decreasing_by exact r.shorter

def splitAt? (mark : List Char) : List Char → Option (List Char × List Char)
  | [] => none
  | c :: rest =>
      if mark.isPrefixOf (c :: rest) then some ([], (c :: rest).drop mark.length)
      else (splitAt? mark rest).map fun parts => (c :: parts.1, parts.2)

/-- The set that the text between the braces names, and whether all that is outside it is
meant: a property may have a value or differ from it. -/
def bracedSet? (name : List Char) : Option (Bool × CharSet) :=
  match splitAt? ['!', '='] name with
  | some (property, value) => (CharSet.lookupValue? property value).map (true, ·)
  | none =>
      match splitAt? [':'] name with
      | some (property, value) => (CharSet.lookupValue? property value).map (false, ·)
      | none =>
          match splitAt? ['='] name with
          | some (property, value) => (CharSet.lookupValue? property value).map (false, ·)
          | none => (CharSet.lookup? name).map (false, ·)

/-- A set that a pattern names, or all that is outside it.  Without Unicode there are no named
sets. -/
def Flags.named? (flags : Flags) (negated : Bool) (set : CharSet) : Option CharSet :=
  if flags.unicode then flags.negate? negated (flags.widen set) else none

def namedSet (flags : Flags) (negated : Bool) (s : List Char) : Option (CharSet × Rest s) :=
  match flags.skip s with
  | ⟨[], _⟩ => none
  | ⟨c :: rest, le⟩ => do
      let behind : Rest s := ⟨rest, le⟩
      let start := behind.trans (flags.skip behind.text)
      if c = '{' then
        let (name, r) ← bracedName flags start.text
        let (differs, set) ← bracedSet? name
        let set ← flags.named? (negated != differs) set
        some (set, start.trans r)
      else if c = '\\' then none
      else
        let set ← (CharSet.lookup? [c]).bind (flags.named? negated)
        some (set, start)

def letterSet? (flags : Flags) (letter : Char) : Option CharSet :=
  let pick (wide narrow : CharSet) : CharSet := if flags.unicode then wide else narrow
  match letter with
  | 'd' => some (pick CharSet.digits CharSet.asciiDigits)
  | 's' => some (pick CharSet.blanks CharSet.asciiBlanks)
  | 'w' => some (pick CharSet.words CharSet.asciiWords)
  | 'D' => flags.negate? true CharSet.digits
  | 'S' => flags.negate? true CharSet.blanks
  | 'W' => flags.negate? true CharSet.words
  | _ => none

def controlChar? : Char → Option Char
  | 'a' => some '\x07'
  | 'f' => some '\x0c'
  | 't' => some '\t'
  | 'n' => some '\n'
  | 'r' => some '\r'
  | 'v' => some '\x0b'
  | _ => none

def isEscapable (c : Char) : Bool :=
  c.toNat < 0x80 && !c.isAlphanum && c != '<' && c != '>'

def isBoundaryNameChar (c : Char) : Bool :=
  c.isAlpha || c == '-'

def boundaryName (flags : Flags) (s : List Char) : Option (List Char × Rest s) :=
  match s with
  | [] => none
  | c :: rest =>
      if c = '}' then some ([], .ofCons c rest)
      else if isBoundaryNameChar c then
        let r : Rest (c :: rest) := (flags.skip rest).push c
        (boundaryName flags r.text).map fun (name, r') => (c :: name, r.trans r')
      else none
termination_by s.length
decreasing_by exact r.shorter

def namedBoundary? (name : List Char) : Option Assertion :=
  match String.ofList name with
  | "start" => some .wordStart
  | "end" => some .wordEnd
  | "start-half" => some .wordStartHalf
  | "end-half" => some .wordEndHalf
  | _ => none

/-- Takes what may follow the letter of a word boundary.  A brace that no letter or hyphen
follows is left for a repetition. -/
def boundary (flags : Flags) (s : List Char) : Option (Assertion × Tail s) :=
  match s with
  | '{' :: rest =>
      let start : Rest ('{' :: rest) := (flags.skip rest).push '{'
      match start.text.head? with
      | none => none
      | some c =>
          if isBoundaryNameChar c then do
            let (name, r) ← boundaryName flags start.text
            let a ← namedBoundary? name
            some (a, start.trans r)
          else some (.boundary, .whole ('{' :: rest))
  | s => some (.boundary, .whole s)

def letterAssertion? : Char → Option Assertion
  | 'A' => some .textStart
  | 'z' => some .textEnd
  | 'B' => some .notBoundary
  | '<' => some .wordStart
  | '>' => some .wordEnd
  | _ => none

def escape (flags : Flags) (s : List Char) : Option (Token × Rest s) :=
  match s with
  | [] => none
  | c :: rest =>
      let behind : Rest (c :: rest) := .ofCons c rest
      if c = 'x' ∨ c = 'u' ∨ c = 'U' then do
        let (found, t) ← codePoint flags c rest
        some (.char found, t.push c)
      else if c = 'p' ∨ c = 'P' then do
        let (set, r) ← namedSet flags (c == 'P') rest
        some (.set set, r.toTail.push c)
      else if c = 'd' ∨ c = 's' ∨ c = 'w' ∨ c = 'D' ∨ c = 'S' ∨ c = 'W' then do
        let set ← letterSet? flags c
        some (.set set, behind)
      else if isEscapable c then some (.char c, behind)
      else if c = 'b' then do
        let (a, t) ← boundary flags rest
        some (.assertion a, t.push c)
      else
        match letterAssertion? c with
        | some a => some (.assertion a, behind)
        | none => (controlChar? c).map fun found => (.char found, behind)

/-!
# Numbers of repetitions
-/

/-- The digits in front of a text; blanks may stand between them where blanks are
ignored. -/
def spacedDigits (flags : Flags) (s : List Char) : List Char × Tail s :=
  match s with
  | [] => ([], .whole [])
  | c :: rest =>
      if isDigit c then
        let r : Rest (c :: rest) := (flags.skip rest).push c
        let (digits, t) := spacedDigits flags r.text
        (c :: digits, r.trans t)
      else ([], .whole (c :: rest))
termination_by s.length
decreasing_by exact r.shorter

def dropBlanks : (s : List Char) → Tail s
  | [] => .whole []
  | c :: rest => if isBlank c then (dropBlanks rest).push c else .whole (c :: rest)

def countLimit : Nat := UInt32.size

def count (flags : Flags) (s : List Char) : Option (Nat × Tail s) :=
  let start := dropBlanks s
  let (digits, t) := start.carry (spacedDigits flags start.text)
  let n := decimalValue digits
  if digits = [] ∨ countLimit ≤ n then none
  else
    let t := t.trans (dropBlanks t.text)
    some (n, t.trans (flags.skip t.text))

def bounds (flags : Flags) (s : List Char) : Option ((Nat × Option Nat) × Rest s) := do
  let start := flags.skip s
  match ← start.carry <$> count flags start.text with
  | (least, ⟨',' :: rest, le⟩) =>
      let behind : Rest s := ⟨rest, le⟩
      match behind.trans (flags.skip behind.text) with
      | ⟨'}' :: after, lt⟩ => some ((least, none), ⟨after, Nat.lt_of_succ_lt lt⟩)
      | r =>
          match ← r.carry <$> count flags r.text with
          | (most, ⟨'}' :: after, lt⟩) =>
              if least ≤ most then
                some ((least, some most), ⟨after, Nat.lt_of_succ_lt lt⟩)
              else none
          | _ => none
  | (least, ⟨'}' :: rest, le⟩) => some ((least, some least), ⟨rest, le⟩)
  | _ => none

def lazyMark (s : List Char) : Tail s :=
  match s with
  | '?' :: rest => Rest.ofCons '?' rest
  | s => .whole s

/-!
# Heads of groups
-/

/-- How a group opens: as a setting of flags for the rest of the group it stands in, or as a
group with flags of its own, whose text may be kept. -/
inductive Head (s : List Char) where
  | setting (flags : Flags) (rest : Rest s)
  | group (kept : Bool) (flags : Flags) (names : List (List Char)) (rest : Tail s)

def isNameStart (c : Char) : Bool :=
  c == '_' || Unicode.letters.contains c.toNat

def isNameChar (c : Char) : Bool :=
  isNameStart c || c == '.' || c == '[' || c == ']' || Unicode.numerals.contains c.toNat

def groupName (first : Bool) : (s : List Char) → Option (List Char × Rest s)
  | [] => none
  | c :: rest =>
      if c = '>' then
        if first then none else some ([], .ofCons c rest)
      else if if first then isNameStart c else isNameChar c then do
        let (name, r) ← groupName false rest
        some (c :: name, r.toTail.push c)
      else none

/-- Takes flags up to the colon or parenthesis behind them, with their letters.  No letter and
no hyphen may come twice, and a letter has to follow the hyphen. -/
def flagLetters (flags : Flags) (seen : List Char) (on : Bool) :
    (s : List Char) → Option ((Flags × List Char) × Tail s)
  | [] => none
  | c :: rest =>
      if c = ':' ∨ c = ')' then
        if seen.head? = some '-' then none else some ((flags, seen), .whole (c :: rest))
      else if seen.contains c then none
      else if c = '-' then do
        let (found, t) ← flagLetters flags (c :: seen) false rest
        some (found, t.push c)
      else do
        let flags ← flags.set? c on
        let (found, t) ← flagLetters flags (c :: seen) on rest
        some (found, t.push c)

/-- Takes the mark of a group with a name, if it is there.  An angle behind which a mark of
another kind stands does not open a name. -/
def nameMark? (s : List Char) : Option (Rest s) :=
  match s with
  | 'P' :: '<' :: rest => some ((Rest.ofCons '<' rest).toTail.push 'P')
  | '<' :: '=' :: _ => none
  | '<' :: '!' :: _ => none
  | '<' :: rest => some (.ofCons '<' rest)
  | _ => none

def head (flags : Flags) (names : List (List Char)) (s : List Char) : Option (Head s) :=
  match flags.skip s with
  | ⟨'?' :: rest, le⟩ =>
      let behind : Rest s := ⟨rest, le⟩
      match behind.toTail.transRest <$> nameMark? behind.text with
      | some start => do
          let (name, r) ← start.toTail.carryRest <$> groupName true start.text
          if names.contains name then none
          else some (.group true flags (name :: names) r)
      | none => do
          match ← behind.carry <$> flagLetters flags [] true behind.text with
          | ((found, _), ⟨':' :: after, lt⟩) =>
              some (.group false found names (⟨after, Nat.lt_of_succ_lt lt⟩ : Rest s))
          | ((found, letters), ⟨')' :: after, lt⟩) =>
              if letters = [] then none
              else some (.setting found ⟨after, Nat.lt_of_succ_lt lt⟩)
          | _ => none
  | t => some (.group true flags names t)

end Pattern
end GameConfig
