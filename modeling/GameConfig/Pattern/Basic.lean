import GameConfig.Pattern.CharSet

/-!
# Patterns

A pattern is a regular expression whose flags have already been worked into its parts.
The tree keeps its groups and the depth of its bracketed classes, because patterns may
nest only so deep.
-/

namespace GameConfig

namespace Pattern

inductive Assertion where
  | textStart
  | textEnd
  | lineStart
  | lineEnd
  | lineStartAfterPair
  | lineEndBeforePair
  | boundary
  | notBoundary
  | wordStart
  | wordEnd
  | wordStartHalf
  | wordEndHalf
deriving DecidableEq, Repr

inductive Alphabet where
  | unicode
  | ascii
deriving DecidableEq, Repr

end Pattern

inductive Pattern where
  /-- A flag setting, which matches the empty text. -/
  | setting
  | chars (set : Pattern.CharSet) (depth : Nat)
  | assertion (a : Pattern.Assertion) (alphabet : Pattern.Alphabet)
  | sequence (items : List Pattern)
  | choice (branches : List Pattern)
  | group (kept : Bool) (body : Pattern)
  | repetition (body : Pattern) (least : Nat) (most? : Option Nat)
deriving Repr, Inhabited

namespace Pattern

def ofItems : List Pattern → Pattern
  | [item] => item
  | items => .sequence items

def ofBranches : List Pattern → Pattern
  | [branch] => branch
  | branches => .choice branches

def nestingLimit : Nat := 250

mutual

def depth : Pattern → Nat
  | .setting => 0
  | .chars _ n => n
  | .assertion _ _ => 0
  | .sequence [] => 0
  | .sequence items => deepest items + 1
  | .choice branches => deepest branches + 1
  | .group _ body => depth body + 1
  | .repetition body _ _ => depth body + 1

def deepest : List Pattern → Nat
  | [] => 0
  | p :: ps => max (depth p) (deepest ps)

end

/-!
# Flags
-/

structure Flags where
  anyCase : Bool := false
  manyLines : Bool := false
  dotAll : Bool := false
  linePairs : Bool := false
  swapGreed : Bool := false
  spaced : Bool := false
  unicode : Bool := true
deriving DecidableEq, Repr

def Flags.set? (flags : Flags) (letter : Char) (on : Bool) : Option Flags :=
  match letter with
  | 'i' => some { flags with anyCase := on }
  | 'm' => some { flags with manyLines := on }
  | 's' => some { flags with dotAll := on }
  | 'R' => some { flags with linePairs := on }
  | 'U' => some { flags with swapGreed := on }
  | 'x' => some { flags with spaced := on }
  | 'u' => some { flags with unicode := on }
  | _ => none

def Flags.alphabet (flags : Flags) : Alphabet :=
  if flags.unicode then .unicode else .ascii

def Flags.widen (flags : Flags) (set : CharSet) : CharSet :=
  if !flags.anyCase then set
  else if flags.unicode then set.anyCase
  else set.anyLetterCase

/-- A set or all that is outside it.  Without Unicode the outside would hold bytes that are
no characters, so there is none. -/
def Flags.negate? (flags : Flags) (negated : Bool) (set : CharSet) : Option CharSet :=
  if !negated then some set
  else if flags.unicode then some set.complement
  else none

end Pattern

end GameConfig
