import GameConfig.Pattern.Token

/-!
# Bracketed classes

A class lists characters, ranges, named sets and further classes, and may combine such lists
by set operations, which group to the left.  Where case does not matter, each listed set gets
all cases of its members.  No operation then parts a character from its other cases.
-/

namespace GameConfig
namespace Pattern

inductive Operation where
  | intersection
  | difference
  | symmetricDifference
deriving DecidableEq, Repr

def Operation.apply : Operation → CharSet → CharSet → CharSet
  | .intersection => Unicode.Ranges.intersection
  | .difference => Unicode.Ranges.difference
  | .symmetricDifference => Unicode.Ranges.symmetricDifference

structure Operand where
  set : CharSet
  depth : Nat
deriving Repr

def Operand.ofItems : List Operand → Operand
  | [item] => item
  | [] => ⟨.nothing, 0⟩
  | items => ⟨CharSet.unions (items.map Operand.set), (items.map Operand.depth).foldl max 0 + 1⟩

structure Pending where
  operation : Operation
  left : Operand
deriving Repr

def Pending.complete : Option Pending → Operand → Operand
  | none, right => right
  | some ⟨operation, left⟩, right =>
      ⟨operation.apply left.set right.set, max left.depth right.depth + 1⟩

def untilColon? : (s : List Char) → Option (List Char × Rest s)
  | [] => none
  | c :: rest =>
      if c = ':' then some ([], .ofCons c rest)
      else (untilColon? rest).map fun (name, r) => (c :: name, r.toTail.push c)

def caretMark (s : List Char) : Bool × Tail s :=
  match s with
  | '^' :: rest => (true, Rest.ofCons '^' rest)
  | s => (false, .whole s)

/-- A set named between colons, with what follows it.  A text that has not this form is a
class like any other. -/
def colonName? (s : List Char) : Option ((Bool × CharSet) × Rest s) :=
  match s with
  | ':' :: rest =>
      let behind : Rest (':' :: rest) := .ofCons ':' rest
      let (negated, start) := behind.carry (caretMark behind.text)
      match start.toTail.carryRest <$> untilColon? start.text with
      | some (name, ⟨']' :: after, lt⟩) =>
          (CharSet.named? (String.ofList name)).map fun set =>
            ((negated, set), ⟨after, Nat.lt_of_succ_lt lt⟩)
      | _ => none
  | _ => none

def classToken (flags : Flags) (s : List Char) : Option (Token × Rest s) :=
  match s with
  | [] => none
  | '\\' :: rest => do
      let (token, r) ← escape flags rest
      some (token, r.toTail.push '\\')
  | c :: rest => some (.char c, .ofCons c rest)

/-- Whether a character may stand in a class.  Without Unicode only the lower half of all bytes
are characters. -/
def Flags.admits (flags : Flags) (c : Char) : Bool :=
  flags.unicode || c.toNat < 0x80

def tokenSet? (flags : Flags) : Token → Option CharSet
  | .char c => if flags.admits c then some (.single c) else none
  | .set set => some set
  | .assertion _ => none

def classRange (flags : Flags) (s : List Char) : Option (CharSet × Rest s) := do
  let (first, r) ← classToken flags s
  match r.trans (flags.skip r.text) with
  | ⟨[], _⟩ => none
  | ⟨'-' :: rest, lt⟩ =>
      let here : Rest s := ⟨'-' :: rest, lt⟩
      let behind := here.trans (Rest.ofCons '-' rest)
      let next := flags.peek? rest
      if next = some ']' ∨ next = some '-' then
        let set ← tokenSet? flags first
        some (set, here)
      else
        let start := behind.trans (flags.skip behind.text)
        match first, ← start.toTail.carryRest <$> classToken flags start.text with
        | .char a, (.char b, r) =>
            if flags.admits a ∧ flags.admits b ∧ a.toNat ≤ b.toNat then
              some (CharSet.range a.toNat b.toNat, r)
            else none
        | _, _ => none
  | r =>
      let set ← tokenSet? flags first
      some (set, r)

def hyphen : Operand :=
  ⟨.single '-', 0⟩

def leadingHyphens (flags : Flags) (items : List Operand) (s : List Char) :
    List Operand × Tail s :=
  match s with
  | '-' :: rest =>
      let r : Rest ('-' :: rest) := (flags.skip rest).push '-'
      r.toTail.carry (leadingHyphens flags (hyphen :: items) r.text)
  | s => (items, .whole s)
termination_by s.length
decreasing_by exact r.shorter

def classHead (flags : Flags) (s : List Char) : (Bool × List Operand) × Tail s :=
  let start := flags.skip s
  let (negated, t) := start.carry (caretMark start.text)
  let t := if negated then t.trans (flags.skip t.text) else t
  match t.carry (leadingHyphens flags [] t.text) with
  | ([], ⟨']' :: rest, le⟩) =>
      let behind : Rest s := ⟨rest, le⟩
      ((negated, [⟨.single ']', 0⟩]), behind.trans (flags.skip behind.text))
  | (items, t) => ((negated, items), t)

inductive ClassItem (s : List Char) where
  | closing (rest : Rest s)
  | operation (operation : Operation) (rest : Rest s)
  | nested (negated : Bool) (items : List Operand) (rest : Rest s)
  | set (set : CharSet) (rest : Rest s)

def classItem (flags : Flags) (s : List Char) : Option (ClassItem s) :=
  match flags.skip s with
  | ⟨[], _⟩ => none
  | ⟨'[' :: rest, le⟩ =>
      let behind : Rest s := ⟨rest, le⟩
      match behind.toTail.carryRest <$> colonName? behind.text with
      | some ((negated, set), r) =>
          (flags.negate? negated (flags.widen set)).map fun set => .set set r
      | none =>
          let ((negated, items), r) := behind.carry (classHead flags behind.text)
          some (.nested negated items r)
  | ⟨']' :: rest, le⟩ => some (.closing ⟨rest, le⟩)
  | ⟨'&' :: '&' :: rest, le⟩ => some (.operation .intersection ⟨rest, Nat.lt_of_succ_lt le⟩)
  | ⟨'-' :: '-' :: rest, le⟩ => some (.operation .difference ⟨rest, Nat.lt_of_succ_lt le⟩)
  | ⟨'~' :: '~' :: rest, le⟩ =>
      some (.operation .symmetricDifference ⟨rest, Nat.lt_of_succ_lt le⟩)
  | t => do
      let (set, r) ← t.carryRest <$> classRange flags t.text
      some (.set (flags.widen set) r)

/-- Takes the items of a class up to and with its closing bracket.  Items are collected last
first. -/
def classItems (flags : Flags) (negated : Bool) (pending? : Option Pending)
    (items : List Operand) (s : List Char) : Option (Operand × Rest s) :=
  let complete := Pending.complete pending? (Operand.ofItems items)
  match classItem flags s with
  | none => none
  | some (.closing r) =>
      (flags.negate? negated complete.set).map fun set =>
        (⟨set, complete.depth + 1⟩, r)
  | some (.operation operation r) =>
      r.toTail.carryRest <$> classItems flags negated (some ⟨operation, complete⟩) [] r.text
  | some (.set set r) =>
      r.toTail.carryRest <$> classItems flags negated pending? (⟨set, 0⟩ :: items) r.text
  | some (.nested inverted start r) =>
      match r.toTail.carryRest <$> classItems flags inverted none start r.text with
      | none => none
      | some (operand, r) =>
          r.toTail.carryRest <$> classItems flags negated pending? (operand :: items) r.text
termination_by s.length
decreasing_by all_goals exact r.shorter

def bracketed (flags : Flags) (s : List Char) : Option (Operand × Rest s) :=
  let ((negated, items), t) := classHead flags s
  t.carryRest <$> classItems flags negated none items t.text

end Pattern
end GameConfig
