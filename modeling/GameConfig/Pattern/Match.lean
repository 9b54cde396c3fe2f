import GameConfig.Pattern.Parser
import GameConfig.Pattern.Size

/-!
# Searching

Over one subject a pattern is a way to get from places to places.  A set of places is a
number whose bits are the places, so a pattern takes all places it starts from at once to
all places it can end at.  A search starts from every place and succeeds when it can end
anywhere; it never has to take anything back.  For a repetition without an upper bound it is
worked out beforehand where each place leads.
-/

namespace GameConfig
namespace Pattern

/-- A set of places of a subject: bit `i` stands for the place before character `i`. -/
abbrev Places := Nat

def places (at? : List Bool) : Places :=
  at?.foldr (fun here later => later * 2 + if here then 1 else 0) 0

def allPlaces (length : Nat) : Places :=
  Nat.pow 2 (length + 1) - 1

/-!
# Places of one subject
-/

def isWord (alphabet : Alphabet) (c? : Option Char) : Bool :=
  match c? with
  | none => false
  | some c =>
      match alphabet with
      | .unicode => CharSet.words.contains c.toNat
      | .ascii => CharSet.asciiWords.contains c.toNat

def Assertion.holds (alphabet : Alphabet) (before? after? : Option Char) : Assertion → Bool
  | .textStart => before?.isNone
  | .textEnd => after?.isNone
  | .lineStart => before?.isNone || before? == some '\n'
  | .lineEnd => after?.isNone || after? == some '\n'
  | .lineStartAfterPair =>
      before?.isNone || before? == some '\n' || (before? == some '\r' && after? != some '\n')
  | .lineEndBeforePair =>
      after?.isNone || after? == some '\r' || (after? == some '\n' && before? != some '\r')
  | .boundary => isWord alphabet before? != isWord alphabet after?
  | .notBoundary => isWord alphabet before? == isWord alphabet after?
  | .wordStart => !isWord alphabet before? && isWord alphabet after?
  | .wordEnd => isWord alphabet before? && !isWord alphabet after?
  | .wordStartHalf => !isWord alphabet before?
  | .wordEndHalf => !isWord alphabet after?

def between (condition : Option Char → Option Char → Bool) (before? : Option Char) :
    List Char → List Bool
  | [] => [condition before? none]
  | c :: rest => condition before? (some c) :: between condition (some c) rest

/-!
# A pattern over one subject
-/

/-- Where each place leads, in the order of the places and counted from the place itself. -/
abbrev Rows := List Places

/-- The places that onward rows lead to from a set of places.  A place leads to all that the places
it leads to lead to, so these need not be looked at. -/
def Rows.follow : Rows → Places → Places
  | [], _ => 0
  | row :: rows, s =>
      if s = 0 then 0
      else if s % 2 = 1 then row ||| Rows.follow rows ((s ^^^ (s &&& row)) >>> 1) <<< 1
      else Rows.follow rows (s >>> 1) <<< 1

/-- The onward rows, those of going once or more.  Nothing leads back, so from a place one gets to
where its row leads, and from there on by later rows. -/
def Rows.onward : Rows → Rows
  | [] => []
  | row :: rows =>
      let later := Rows.onward rows
      (row ||| Rows.follow later (row >>> 1) <<< 1) :: later

inductive Moves where
  | stay
  | step (places : Places)
  | stand (places : Places)
  | both (first second : Moves)
  | either (first second : Moves)
  | times (body : Moves) (count : Nat)
  | upTo (body : Moves) (count : Nat)
  | lead (rows : Rows)

def iterate (go : Places → Places) : Nat → Places → Places
  | 0, s => s
  | n + 1, s => if s = 0 then 0 else iterate go n (go s)

/-- The places after going the same way at most a number of times, among them those already
reached. -/
def spread (go : Places → Places) : Nat → Places → Places → Places
  | 0, _, reached => reached
  | n + 1, s, reached =>
      let next := go s
      if next ||| reached = reached then reached
      else spread go n next (next ||| reached)

def Moves.reach : Moves → Places → Places
  | .stay, s => s
  | .step places, s => (s &&& places) <<< 1
  | .stand places, s => s &&& places
  | .both first second, s => second.reach (first.reach s)
  | .either first second, s => first.reach s ||| second.reach s
  | .times body count, s => iterate body.reach count s
  | .upTo body count, s => spread body.reach count s s
  | .lead rows, s => rows.follow s

def Moves.fromNext : Moves → Moves
  | .stay => .stay
  | .step places => .step (places >>> 1)
  | .stand places => .stand (places >>> 1)
  | .both first second => .both first.fromNext second.fromNext
  | .either first second => .either first.fromNext second.fromNext
  | .times body count => .times body.fromNext count
  | .upTo body count => .upTo body.fromNext count
  | .lead rows => .lead rows.tail

def Moves.rows : (length : Nat) → Moves → Rows
  | 0, m => [m.reach 1]
  | length + 1, m => m.reach 1 :: rows length m.fromNext

def stepOn (subject : List Char) (s : CharSet) : Moves :=
  .step (places (subject.map fun c => s.contains c.toNat))

namespace Reduced

mutual

def moves (subject : List Char) : Reduced → Moves
  | .empty => .stay
  | .text cs => (cs.map fun c => stepOn subject (.single c)).foldr .both .stay
  | .set s => stepOn subject s
  | .assertion a alphabet =>
      .stand (places (between (fun b c => a.holds alphabet b c) none subject))
  | .repetition body least most? =>
      let once := moves subject body
      match most? with
      | some most => .both (.times once least) (.upTo once (most - least))
      | none =>
          let onward := (once.rows subject.length).onward
          if least = 0 then .lead (onward.map (1 ||| ·))
          else .both (.times once (least - 1)) (.lead onward)
  | .kept body => moves subject body
  | .sequence items => movesThrough subject items
  | .choice branches => movesAmong subject branches

def movesThrough (subject : List Char) : List Reduced → Moves
  | [] => .stay
  | p :: ps => .both (moves subject p) (movesThrough subject ps)

def movesAmong (subject : List Char) : List Reduced → Moves
  | [] => .step 0
  | p :: ps => .either (moves subject p) (movesAmong subject ps)

end

def matchesIn (p : Reduced) (text : String) : Bool :=
  let subject := text.toList
  (p.moves subject).reach (allPlaces subject.length) != 0

end Reduced

def search (text pattern : String) : Bool :=
  match parse? pattern with
  | some p => p.reduce.fits && p.reduce.matchesIn text
  | none => false

end Pattern
end GameConfig
