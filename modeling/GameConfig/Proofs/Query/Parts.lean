import GameConfig.Query.Resolve

/-!
# The parts of a query

The turns of a search lead from a query to the queries inside it, and from the value that a
query is read from to the values inside that one.  Both ways lead to the same part: what is
found as a literal is a value that is written in the query and has no directive.
-/

namespace GameConfig
namespace Query

/-!
# Reading a query
-/

theorem find?_ofMembers (name : String) (members : Dictionary Value) :
    Dictionary.find? name (ofMembers members) = (members.find? name).map ofValue := by
  induction members with
  | nil => rfl
  | cons member rest ih =>
      obtain ⟨other, v⟩ := member
      rw [ofMembers, Dictionary.find?_cons, Dictionary.find?_cons, ih]
      split <;> rfl

theorem ofValue_of_literal {q : Value} (h : isDirective q = false) : ofValue q = .literal q := by
  cases q with
  | object members =>
      have hroute : route? members = none := by simpa [isDirective] using h
      rw [ofValue, hroute]
  | _ => rfl

def memberOr (name : String) (absent : Query) (q : Value) : Query :=
  ((q.member? name).map ofValue).getD absent

theorem memberOr_of_none {name : String} {absent : Query} {q : Value}
    (h : q.member? name = none) : memberOr name absent q = absent := by
  rw [memberOr, h]
  rfl

theorem memberOr_of_some {name : String} {absent : Query} {q field : Value}
    (h : q.member? name = some field) : memberOr name absent q = ofValue field := by
  rw [memberOr, h]
  rfl

theorem memberOr_cases (name : String) (absent : Query) (q : Value) :
    memberOr name absent q = absent ∨
      ∃ field, q.member? name = some field ∧ memberOr name absent q = ofValue field := by
  cases hfield : q.member? name with
  | none => exact Or.inl (memberOr_of_none hfield)
  | some field => exact Or.inr ⟨field, rfl, memberOr_of_some hfield⟩

theorem ofValue_object_of_route? {members : Dictionary Value} {route : List Segment}
    (h : route? members = some route) :
    ofValue (.object members) = .lookup route (memberOr innerName .here (.object members))
      (memberOr fallbackName .nowhere (.object members)) := by
  rw [ofValue, h, find?_ofMembers, find?_ofMembers]
  rfl

theorem exists_ofValue_of_directive {q : Value} (h : isDirective q = true) :
    ∃ route, ofValue q = .lookup route (memberOr innerName .here q)
      (memberOr fallbackName .nowhere q) := by
  cases q with
  | object members =>
      cases hroute : route? members with
      | none => simp [isDirective, hroute] at h
      | some route => exact ⟨route, ofValue_object_of_route? hroute⟩
  | _ => cases h

theorem isDirective_eq_false_iff {q : Value} :
    isDirective q = false ↔ q.member? keyName = none ∧ q.member? pathName = none := by
  cases q with
  | object members =>
      rw [isDirective, route?, Value.member?, Value.member?]
      cases Dictionary.find? keyName members <;> simp
  | _ => simp [isDirective, Value.member?]

/-!
# Turning into a query
-/

def Turn.name : Turn → String
  | .inner => innerName
  | .fallback => fallbackName

def reach? (q : Value) : List Turn → Option Value
  | [] => some q
  | turn :: turns => (q.member? turn.name).bind (reach? · turns)

def turn? : Query → Turn → Option Query
  | .lookup _ inner _, .inner => some inner
  | .lookup _ _ fallback, .fallback => some fallback
  | _, _ => none

def part? (query : Query) : List Turn → Option Query
  | [] => some query
  | turn :: turns => (query.turn? turn).bind (part? · turns)

theorem turn?_ofValue {q : Value} {turn : Turn} {part : Query}
    (h : (ofValue q).turn? turn = some part) :
    part = .here ∨ part = .nowhere ∨
      ∃ field, q.member? turn.name = some field ∧ part = ofValue field := by
  cases hq : isDirective q with
  | false =>
      rw [ofValue_of_literal hq] at h
      cases h
  | true =>
      rcases exists_ofValue_of_directive hq with ⟨route, hread⟩
      rw [hread] at h
      cases turn with
      | inner =>
          cases h
          exact (memberOr_cases innerName .here q).imp_right Or.inr
      | fallback =>
          cases h
          exact Or.inr (memberOr_cases fallbackName .nowhere q)

theorem reach?_of_part? {q v : Value} {turns : List Turn}
    (h : (ofValue q).part? turns = some (.literal v)) :
    reach? q turns = some v ∧ isDirective v = false := by
  induction turns generalizing q with
  | nil =>
      cases hq : isDirective q with
      | false =>
          rw [ofValue_of_literal hq] at h
          cases h
          exact ⟨rfl, hq⟩
      | true =>
          rcases exists_ofValue_of_directive hq with ⟨route, hread⟩
          rw [hread] at h
          cases h
  | cons turn turns ih =>
      rw [part?, Option.bind_eq_some_iff] at h
      rcases h with ⟨part, hpart, hrest⟩
      rcases turn?_ofValue hpart with rfl | rfl | ⟨field, hfield, rfl⟩
      · cases turns <;> cases hrest
      · cases turns <;> cases hrest
      · rw [reach?, hfield]
        exact ih hrest

end Query
end GameConfig
