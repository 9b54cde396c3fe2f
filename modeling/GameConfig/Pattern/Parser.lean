import GameConfig.Pattern.Class

/-!
# Reading patterns

A pattern's text is a choice of branches, each a run of items that repetitions may follow.
Flags hold from where they are set to the end of the group they are set in, also across
branches.
-/

namespace GameConfig
namespace Pattern

def literal (flags : Flags) (c : Char) : Pattern :=
  .chars (flags.widen (.single c)) 0

def ofToken (flags : Flags) : Token → Pattern
  | .char c => literal flags c
  | .set set => .chars set 0
  | .assertion a => .assertion a flags.alphabet

/-- Any character but line ends, or any at all.  Without Unicode it would be any byte. -/
def dot? (flags : Flags) : Option Pattern :=
  let lineEnds : CharSet :=
    if flags.dotAll then .nothing
    else if flags.linePairs then .union (CharSet.single '\n') (CharSet.single '\r')
    else .single '\n'
  if flags.unicode then some (.chars lineEnds.complement 0) else none

def caret (flags : Flags) : Assertion :=
  if !flags.manyLines then .textStart
  else if flags.linePairs then .lineStartAfterPair
  else .lineStart

def dollar (flags : Flags) : Assertion :=
  if !flags.manyLines then .textEnd
  else if flags.linePairs then .lineEndBeforePair
  else .lineEnd

/-- Puts a repetition on the last item; a setting of flags cannot be repeated. -/
def repeatLast (least : Nat) (most? : Option Nat) : List Pattern → Option (List Pattern)
  | [] => none
  | .setting :: _ => none
  | item :: items => some (.repetition item least most? :: items)

def repetition? (flags : Flags) (c : Char) (rest : List Char) :
    Option ((Nat × Option Nat) × Tail rest) :=
  match c with
  | '?' => some ((0, some 1), lazyMark rest)
  | '*' => some ((0, none), lazyMark rest)
  | '+' => some ((1, none), lazyMark rest)
  | _ => do
      let (found, r) ← bounds flags rest
      let t := r.trans (flags.skip r.text)
      some (found, t.trans (lazyMark t.text))

def isRepetition (c : Char) : Bool :=
  c == '?' || c == '*' || c == '+' || c == '{'

/-- What has been read of a group: the flags in force, the branches before the current one and
the items of the current one, both last first. -/
structure Progress where
  flags : Flags
  branches : List Pattern
  items : List Pattern

namespace Progress

def opening (flags : Flags) : Progress :=
  ⟨flags, [], []⟩

def add (p : Progress) (item : Pattern) : Progress :=
  { p with items := item :: p.items }

def nextBranch (p : Progress) : Progress :=
  { p with branches := ofItems p.items.reverse :: p.branches, items := [] }

def finish (p : Progress) : Pattern :=
  ofBranches p.nextBranch.branches.reverse

end Progress

inductive Step (s : List Char) where
  | finished (rest : Tail s)
  | opening (kept : Bool) (flags : Flags) (names : List (List Char)) (rest : Rest s)
  | reading (p : Progress) (rest : Rest s)

def item (p : Progress) (c : Char) (rest : List Char) : Option (Progress × Tail rest) :=
  if c = '|' then some (p.nextBranch, .whole rest)
  else if c = '[' then do
    let (operand, r) ← bracketed p.flags rest
    some (p.add (.chars operand.set operand.depth), r)
  else if isRepetition c then do
    let ((least, most?), t) ← repetition? p.flags c rest
    let items ← repeatLast least most? p.items
    some ({ p with items := items }, t)
  else if c = '\\' then do
    let (token, r) ← escape p.flags rest
    some (p.add (ofToken p.flags token), r)
  else if c = '.' then do
    let found ← dot? p.flags
    some (p.add found, .whole rest)
  else if c = '^' then some (p.add (.assertion (caret p.flags) .unicode), .whole rest)
  else if c = '$' then some (p.add (.assertion (dollar p.flags) .unicode), .whole rest)
  else some (p.add (literal p.flags c), .whole rest)

def step (p : Progress) (names : List (List Char)) (s : List Char) : Option (Step s) :=
  match p.flags.skip s with
  | ⟨[], le⟩ => some (.finished ⟨[], le⟩)
  | ⟨c :: rest, le⟩ =>
      let behind : Rest s := ⟨rest, le⟩
      if c = ')' then some (.finished ⟨c :: rest, le⟩)
      else if c = '(' then do
        match ← head p.flags names behind.text with
        | .setting flags r =>
            some (.reading { p with flags := flags, items := .setting :: p.items }
              (behind.trans r))
        | .group kept flags names t => some (.opening kept flags names (behind.trans t))
      else do
        let (p, t) ← item p c behind.text
        some (.reading p (behind.trans t))

def closing? (s : List Char) : Option (Rest s) :=
  match s with
  | ')' :: rest => some (.ofCons ')' rest)
  | _ => none

def body (p : Progress) (names : List (List Char)) (s : List Char) :
    Option ((Pattern × List (List Char)) × Tail s) :=
  match step p names s with
  | none => none
  | some (.finished t) => some ((p.finish, names), t)
  | some (.reading p r) => r.toTail.carry <$> body p names r.text
  | some (.opening kept flags names r) =>
      match r.toTail.carry <$> body (.opening flags) names r.text with
      | none => none
      | some ((inner, names), t) =>
          match t.transRest <$> closing? t.text with
          | none => none
          | some r => r.toTail.carry <$> body (p.add (.group kept inner)) names r.text
termination_by s.length
decreasing_by all_goals exact r.shorter

def parse? (text : String) : Option Pattern :=
  match body (.opening {}) [] text.toList with
  | some ((pattern, _), ⟨[], _⟩) =>
      if pattern.depth ≤ nestingLimit then some pattern else none
  | _ => none

end Pattern
end GameConfig
