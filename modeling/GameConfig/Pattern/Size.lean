import GameConfig.Pattern.Reduced
import GameConfig.Unicode.Encoding

/-!
# Sizes of patterns

A pattern counts as large as the automaton over bytes that would recognize it.  There are two
of them, one that reads texts forward and one that reads them backward, and a text with too
large an automaton is no pattern.  Repetitions with bounds count once for every round.
-/

namespace GameConfig
namespace Pattern

inductive Direction where
  | forward
  | backward
deriving DecidableEq, Repr

def Direction.entrance : Direction → Assertion
  | .forward => .textStart
  | .backward => .textEnd

/-!
# States

Sizes are in bytes.
-/

def total (sizes : List Nat) : Nat :=
  sizes.foldr (· + ·) 0

def stateSize : Nat := 32

def forkSize (ways : Nat) : Nat :=
  stateSize + 4 * ways

def switchSize (ways : Nat) : Nat :=
  stateSize + 8 * ways

def optionSize : Nat := forkSize 2

/-!
# Sets

The byte ranges of a set form a tree.  A node of it is the list of what can follow.
-/

open Unicode (ByteRanges)

def ways : List ByteRanges → List ((Nat × Nat) × List ByteRanges)
  | [] => []
  | [] :: rest => ways rest
  | (range :: tail) :: rest =>
      match ways rest with
      | (next, tails) :: more =>
          if range = next then (range, tail :: tails) :: more
          else (range, [tail]) :: (next, tails) :: more
      | [] => [(range, [tail])]

def nodes : (depth : Nat) → List ByteRanges → List (List ByteRanges)
  | 0, _ => []
  | depth + 1, node =>
      if node.all List.isEmpty then []
      else node :: (ways node).flatMap fun way => nodes depth way.2

def encodingDepth : Nat := 4

/-- The size of a set.  Read forward, equal nodes are one state; read backward, every way is a
state of its own. -/
def setSize (d : Direction) (s : CharSet) : Nat :=
  if s.all fun range => range.2 < 0x80 then stateSize + switchSize s.length
  else
    let sequences := s.flatMap Unicode.byteRanges
    let tree := nodes encodingDepth sequences
    let waysFrom (node : List ByteRanges) : Nat := (ways node).length
    match d with
    | .forward => stateSize + total (tree.eraseDups.map fun node => switchSize (waysFrom node))
    | .backward => stateSize + forkSize sequences.length + stateSize * total (tree.map waysFrom)

/-!
# Choices between texts

Texts that are to choose from form a tree, too.  Where one of them ends, those behind it that go
on start anew.
-/

abbrev Bytes := List UInt8

def bytes (d : Direction) (text : List Char) : Bytes :=
  let forward := text.flatMap String.utf8EncodeChar
  match d with
  | .forward => forward
  | .backward => forward.reverse

def runs : List Bytes → List (List Bytes)
  | [] => [[]]
  | [] :: rest => [] :: runs rest
  | word :: rest =>
      match runs rest with
      | run :: more => (word :: run) :: more
      | [] => [[word]]

def byFirst (run : List Bytes) : List (List Bytes) :=
  (run.filterMap List.head?).eraseDups.map fun first =>
    (run.filter fun word => word.head? == some first).map List.tail

/-- The size of a tree of words, down to a depth.  Of words that have ended before any that goes
on, one counts. -/
def wordsSize : (depth : Nat) → List Bytes → Nat
  | 0, _ => 0
  | depth + 1, words =>
      if words.all List.isEmpty then 0
      else
        let ended := words.takeWhile List.isEmpty
        let parts := runs (ended.take 1 ++ words.drop ended.length)
        let going := parts.filter fun run => !run.isEmpty
        let runSize (run : List Bytes) : Nat :=
          match byFirst run with
          | [words] => stateSize + wordsSize depth words
          | branches => switchSize branches.length + total (branches.map (wordsSize depth))
        forkSize (going.length + (parts.length - 1)) + total (going.map runSize)

def textsSize (d : Direction) (texts : List (List Char)) : Nat :=
  let words := texts.map (bytes d)
  stateSize + wordsSize ((words.map List.length).foldl max 0 + 1) words

/-!
# Patterns
-/

def repetitionSize (body : Nat) (advances : Bool) (least : Nat) (most? : Option Nat) : Nat :=
  match least, most? with
  | 0, none =>
      if advances then optionSize + body else optionSize + optionSize + stateSize + body
  | least, none => least * body + optionSize
  | 0, some 1 => optionSize + body + stateSize
  | least, some most =>
      let start := if least = 0 then stateSize else least * body
      if least = most then start
      else start + stateSize + (most - least) * (optionSize + body)

namespace Reduced

mutual

def minLength? : Reduced → Option Nat
  | .empty => some 0
  | .text cs => some cs.length
  | .set s => if s.isEmpty then none else some 1
  | .assertion _ _ => some 0
  | .repetition body least _ => (minLength? body).map (least * ·)
  | .kept body => minLength? body
  | .sequence items => (minLengths? items).map total
  | .choice branches => (minLengths? branches).bind List.min?

def minLengths? : List Reduced → Option (List Nat)
  | [] => some []
  | p :: ps => do
      let n ← minLength? p
      let ns ← minLengths? ps
      some (n :: ns)

end

def advances (p : Reduced) : Bool :=
  match p.minLength? with
  | none => false
  | some n => n != 0

mutual

def isBound (d : Direction) : Reduced → Bool
  | .assertion a _ => a == d.entrance
  | .repetition body least _ => least != 0 && isBound d body
  | .kept body => isBound d body
  | .sequence items => isBoundAlong d items
  | .choice branches => allBound d branches
  | _ => false

def isBoundAlong (d : Direction) : List Reduced → Bool
  | [] => false
  | p :: ps =>
      match d with
      | .forward => isBound d p || (p.isPoint && isBoundAlong d ps)
      | .backward => isBoundAlong d ps || (allPoints ps && isBound d p)

def allBound (d : Direction) : List Reduced → Bool
  | [] => true
  | p :: ps => isBound d p && allBound d ps

end

def text? : Reduced → Option (List Char)
  | .text cs => some cs
  | _ => none

mutual

def size (d : Direction) : Reduced → Nat
  | .empty => stateSize
  | .text cs => stateSize * (bytes d cs).length
  | .set s => setSize d s
  | .assertion _ _ => stateSize
  | .repetition body least most? => repetitionSize (size d body) body.advances least most?
  | .kept body =>
      match d with
      | .forward => stateSize + size d body + stateSize
      | .backward => size d body
  | .sequence items => total (sizes d items)
  | .choice branches =>
      match branches.mapM text? with
      | some texts => textsSize d texts
      | none => forkSize branches.length + total (sizes d branches) + stateSize

def sizes (d : Direction) : List Reduced → List Nat
  | [] => []
  | p :: ps => size d p :: sizes d ps

end

/-- The size of the whole automaton.  Read forward, the text of a match is kept; a match that may
start anywhere has to be looked for. -/
def automatonSize (d : Direction) (p : Reduced) : Nat :=
  let start := if p.isBound d then stateSize else optionSize + stateSize + switchSize 1
  match d with
  | .forward => start + (Reduced.kept p).size d + stateSize
  | .backward => start + p.size d + stateSize

def sizeLimit : Nat := 10 * 1024 * 1024

def fits (p : Reduced) : Bool :=
  p.automatonSize .forward ≤ sizeLimit && p.automatonSize .backward ≤ sizeLimit

end Reduced

end Pattern
end GameConfig
