import GameConfig.Query.Segment

/-!
# Queries

A query is a value read as an instruction.  An object with a directive is a look-up: a
route, what to ask at its end, and what to ask instead when nothing is found.  All else is
a literal.
-/

namespace GameConfig

/-- A query.  `here` asks for the value at hand, which is what a look-up without an inner
query does at the end of its route; `nowhere` finds nothing, as does a look-up without a
fallback. -/
inductive Query where
  | literal (v : Value)
  | here
  | nowhere
  | lookup (route : List Query.Segment) (inner fallback : Query)
deriving Repr, Inhabited

namespace Query

def keyName : String := "key"
def pathName : String := "path"
def innerName : String := "query"
def fallbackName : String := "default"

def pathRoute : Value → List Segment
  | .array items => items.map Segment.ofValue
  | .string text => dotted text
  | _ => [.unusable]

/-- The route that the members of an object give.  A key goes before a path. -/
def route? (members : Dictionary Value) : Option (List Segment) :=
  match members.find? keyName with
  | some segment => some [Segment.ofValue segment]
  | none => (members.find? pathName).map pathRoute

def isDirective : Value → Bool
  | .object members => (route? members).isSome
  | _ => false

mutual

def ofValue : Value → Query
  | .object members =>
      let queries := ofMembers members
      match route? members with
      | none => .literal (.object members)
      | some route =>
          .lookup route
            ((Dictionary.find? innerName queries).getD .here)
            ((Dictionary.find? fallbackName queries).getD .nowhere)
  | v => .literal v

def ofMembers : List (String × Value) → List (String × Query)
  | [] => []
  | (name, v) :: rest => (name, ofValue v) :: ofMembers rest

end

end Query
end GameConfig
