import GameConfig.Value.Basic

/-!
# Positions in a document

A position is the list of steps that leads from a value to one of the values inside
it.  A step names a member of an object or counts an element of an array, and never
reads one as the other.
-/

namespace GameConfig
namespace Value

inductive Step where
  | member (name : String)
  | element (index : Nat)
deriving DecidableEq, Repr

abbrev Position := List Step

def step? (v : Value) : Step → Option Value
  | .member name => v.member? name
  | .element index => v.element? index

def at? (v : Value) : Position → Option Value
  | [] => some v
  | step :: rest => (v.step? step).bind (at? · rest)

/-- What is found on the way to a position, one answer for each step.  Nothing is found
behind a miss. -/
def trail : Option Value → Position → List (Option Value)
  | _, [] => []
  | current, step :: rest =>
      let next := current.bind (·.step? step)
      next :: trail next rest

theorem at?_append (v : Value) (p q : Position) :
    v.at? (p ++ q) = (v.at? p).bind (·.at? q) := by
  induction p generalizing v with
  | nil =>
      rfl
  | cons step rest ih =>
      simp only [List.cons_append, at?]
      cases v.step? step with
      | none =>
          rfl
      | some next =>
          exact ih next

end Value
end GameConfig
