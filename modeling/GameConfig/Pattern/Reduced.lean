import GameConfig.Pattern.Basic

/-!
# Reduced patterns

What a pattern matches, in as few parts as its items allow.  Texts that follow each other are
one text, sequences and choices hold none of their own kind, a choice between characters is a
set, and what all branches of a choice start with stands before it.  The size of a pattern is
that of its reduced form.
-/

namespace GameConfig
namespace Pattern

inductive Reduced where
  | empty
  | text (chars : List Char)
  | set (set : CharSet)
  | assertion (a : Assertion) (alphabet : Alphabet)
  | repetition (body : Reduced) (least : Nat) (most? : Option Nat)
  | kept (body : Reduced)
  | sequence (items : List Reduced)
  | choice (branches : List Reduced)
deriving Repr, Inhabited

namespace Reduced

/-!
# Properties
-/

mutual

def isPoint : Reduced → Bool
  | .empty => true
  | .text _ => false
  | .set _ => false
  | .assertion _ _ => true
  | .repetition body _ _ => isPoint body
  | .kept body => isPoint body
  | .sequence items => allPoints items
  | .choice branches => allPoints branches

def allPoints : List Reduced → Bool
  | [] => true
  | p :: ps => isPoint p && allPoints ps

end

mutual

/-- Whether two patterns are written alike.  A text that is kept is unlike all others. -/
def same : Reduced → Reduced → Bool
  | .empty, .empty => true
  | .text a, .text b => a == b
  | .set s, .set t => s == t
  | .assertion a alphabet, .assertion b alphabet' => a == b && alphabet == alphabet'
  | .repetition p least most?, .repetition q least' most?' =>
      least == least' && most? == most?' && same p q
  | .sequence ps, .sequence qs => sameAll ps qs
  | .choice ps, .choice qs => sameAll ps qs
  | _, _ => false

def sameAll : List Reduced → List Reduced → Bool
  | [], [] => true
  | p :: ps, q :: qs => same p q && sameAll ps qs
  | _, _ => false

end

/-!
# Putting patterns together
-/

def ofSet (s : CharSet) : Reduced :=
  match s with
  | [(first, last)] => if first = last then .text [Char.ofNat first] else .set s
  | _ => .set s

/-- A repetition.  Where only the empty text can match, more than one round is as good as one. -/
def ofRepetition (body : Reduced) (least : Nat) (most? : Option Nat) : Reduced :=
  let least := if body.isPoint then min least 1 else least
  let most? := if body.isPoint then some (min (most?.getD 1) 1) else most?
  if most? = some 0 then .empty
  else if least = 1 ∧ most? = some 1 then body
  else .repetition body least most?

def items : Reduced → List Reduced
  | .empty => []
  | .sequence items => items
  | p => [p]

def joinTexts : List Reduced → List Reduced
  | [] => []
  | .text a :: ps =>
      match joinTexts ps with
      | .text b :: rest => .text (a ++ b) :: rest
      | rest => .text a :: rest
  | p :: ps => p :: joinTexts ps

def ofItems (ps : List Reduced) : Reduced :=
  match joinTexts (ps.flatMap items) with
  | [] => .empty
  | [p] => p
  | ps => .sequence ps

def branches : Reduced → List Reduced
  | .choice branches => branches
  | p => [p]

def char? : Reduced → Option Char
  | .text [c] => some c
  | _ => none

def set? : Reduced → Option CharSet
  | .set s => some s
  | _ => none

def unionSet? (ps : List Reduced) : Option CharSet :=
  match ps.mapM char? with
  | some found => some (.ofCodes (found.map Char.toNat))
  | none => (ps.mapM set?).map CharSet.unions

def gather (ps : List Reduced) : Reduced :=
  match ps.flatMap branches with
  | [p] => p
  | ps =>
      match unionSet? ps with
      | some s => ofSet s
      | none => .choice ps

def commonFront : List Reduced → List Reduced → List Reduced
  | p :: ps, q :: qs => if same p q then p :: commonFront ps qs else []
  | _, _ => []

def sequence? : Reduced → Option (List Reduced)
  | .sequence items => some items
  | _ => none

def sharedFront (ps : List Reduced) : List Reduced :=
  match ps.mapM sequence? with
  | some (first :: rest) => rest.foldl commonFront first
  | _ => []

def ofBranches (ps : List Reduced) : Reduced :=
  match gather ps with
  | .choice ps =>
      match sharedFront ps with
      | [] => .choice ps
      | front =>
          ofItems (front ++ [gather (ps.map fun p => ofItems (p.items.drop front.length))])
  | p => p

end Reduced

mutual

def reduce : Pattern → Reduced
  | .setting => .empty
  | .chars set _ => .ofSet set
  | .assertion a alphabet => .assertion a alphabet
  | .sequence items => .ofItems (reduceAll items)
  | .choice branches => .ofBranches (reduceAll branches)
  | .group true body => .kept (reduce body)
  | .group false body => reduce body
  | .repetition body least most? => .ofRepetition (reduce body) least most?

def reduceAll : List Pattern → List Reduced
  | [] => []
  | p :: ps => reduce p :: reduceAll ps

end

end Pattern
end GameConfig
