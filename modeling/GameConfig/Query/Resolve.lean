import GameConfig.Query.Basic

/-!
# Resolving queries

An answer is found in the document or in the query, and says where; or it is missing,
which is not the same as a null that is written down.
-/

namespace GameConfig
namespace Query

open Value (Position)

inductive Turn where
  | inner
  | fallback
deriving DecidableEq, Repr

inductive Source where
  | document (position : Position)
  | query (turns : List Turn)
deriving DecidableEq, Repr

inductive Answer where
  | missing
  | found (source : Source) (v : Value)
deriving Repr, Inhabited

namespace Answer

def isMissing : Answer → Bool
  | .missing => true
  | .found _ _ => false

def value : Answer → Value
  | .missing => .null
  | .found _ v => v

def afterRoute (steps : Position) : Answer → Answer
  | .missing => .missing
  | .found (.document position) v => .found (.document (steps ++ position)) v
  | .found (.query turns) v => .found (.query (.inner :: turns)) v

def afterFallback : Answer → Answer
  | .missing => .missing
  | .found (.document position) v => .found (.document position) v
  | .found (.query turns) v => .found (.query (.fallback :: turns)) v

def orElse (first second : Answer) : Answer :=
  match first with
  | .missing => second
  | .found source v => .found source v

end Answer

/-- The answer to a query at a value.  The inner query is asked at the end of the route,
the fallback at the value itself. -/
def resolve : Query → Value → Answer
  | .literal v, _ => .found (.query []) v
  | .here, node => .found (.document []) node
  | .nowhere, _ => .missing
  | .lookup route inner fallback, node =>
      let inside : Answer :=
        match descend route node with
        | none => .missing
        | some (steps, target) => (inner.resolve target).afterRoute steps
      inside.orElse (fallback.resolve node).afterFallback

/-- The answer to a query when there may be no document; without one the query stands as
it is written. -/
def resolve? (document? : Option Value) (query : Value) : Answer :=
  match document? with
  | none => .found (.query []) query
  | some document => (ofValue query).resolve document

def resolveMember (document? : Option Value) (query : Value) (name : String) : Answer :=
  match query.member? name with
  | none => .missing
  | some field => resolve? document? field

end Query
end GameConfig
