import GameConfig.Proofs.Query.Descent
import GameConfig.Proofs.Query.Parts

/-!
# Where answers come from

An answer is a value of the document, found at the position that it names, or a literal
that is written in the query, found by the turns that it names.  Inner queries move the
document and fallbacks go back to it, so that positions and turns are put together from
those of the parts.
-/

namespace GameConfig
namespace Query

/-- Whether the value of an answer is what stands at its source. -/
def Answer.Genuine (query : Query) (document : Value) : Answer → Prop
  | .missing => True
  | .found (.document position) v => document.at? position = some v
  | .found (.query turns) v => query.part? turns = some (.literal v)

namespace Answer

variable {answer second : Answer} {query inner fallback : Query} {node target : Value}

theorem Genuine.orElse (hfirst : answer.Genuine query node)
    (hsecond : second.Genuine query node) : (answer.orElse second).Genuine query node := by
  cases answer with
  | missing => exact hsecond
  | found source v => exact hfirst

theorem Genuine.afterRoute {steps : Value.Position} (h : answer.Genuine inner target)
    (hnode : node.at? steps = some target) (route : List Segment) :
    (answer.afterRoute steps).Genuine (.lookup route inner fallback) node := by
  cases answer with
  | missing => trivial
  | found source v =>
      cases source with
      | document position =>
          rw [Answer.afterRoute, Genuine, Value.at?_append, hnode]
          exact h
      | query turns => exact h

theorem Genuine.afterFallback (h : answer.Genuine fallback node) (route : List Segment) :
    answer.afterFallback.Genuine (.lookup route inner fallback) node := by
  cases answer with
  | missing => trivial
  | found source v => cases source <;> exact h

end Answer

theorem resolve_genuine (query : Query) (node : Value) :
    (query.resolve node).Genuine query node := by
  induction query generalizing node with
  | literal v => rfl
  | here => rfl
  | nowhere => trivial
  | lookup route inner fallback ihInner ihFallback =>
      rw [resolve]
      apply Answer.Genuine.orElse
      · cases hdescend : descend route node with
        | none => trivial
        | some reached =>
            obtain ⟨steps, target⟩ := reached
            exact (ihInner target).afterRoute (at?_of_descend hdescend) route
      · exact (ihFallback node).afterFallback route

/-!
# What holds of answers
-/

section Inside

variable {P : Value → Prop}
  (hinside : ∀ {v step w}, P v → v.step? step = some w → P w)

include hinside

theorem holds_at? {v w : Value} {position : Value.Position} (hv : P v)
    (h : v.at? position = some w) : P w := by
  induction position generalizing v with
  | nil =>
      cases h
      exact hv
  | cons step rest ih =>
      rw [Value.at?_cons, Option.bind_eq_some_iff] at h
      rcases h with ⟨next, hnext, h⟩
      exact ih (hinside hv hnext) h

theorem holds_reach? {q v : Value} {turns : List Turn} (hq : P q)
    (h : reach? q turns = some v) : P v := by
  induction turns generalizing q with
  | nil =>
      cases h
      exact hq
  | cons turn turns ih =>
      rw [reach?, Option.bind_eq_some_iff] at h
      rcases h with ⟨field, hfield, h⟩
      have hstep : q.step? (.member turn.name) = some field := hfield
      exact ih (hinside hq hstep) h

/-- What holds of null, of the query and of the document, and goes from a value to what lies
inside it, holds of the answer. -/
theorem holds_resolve? (hnull : P .null) {q : Value} (hq : P q) {document? : Option Value}
    (hdocument : ∀ document, document? = some document → P document) :
    P (resolve? document? q).value := by
  cases document? with
  | none => exact hq
  | some document =>
      have hgenuine := resolve_genuine (ofValue q) document
      rw [resolve?]
      cases hanswer : (ofValue q).resolve document with
      | missing => exact hnull
      | found source v =>
          rw [hanswer] at hgenuine
          cases source with
          | document position => exact holds_at? hinside (hdocument document rfl) hgenuine
          | query turns => exact holds_reach? hinside hq (reach?_of_part? hgenuine).left

end Inside

/-- What a query finds is a value of the document or a value without directives that is
written in the query, behind any number of inner queries and fallbacks. -/
theorem resolve_found_in_document_or_query (q e : Value) :
    (ofValue q).resolve e = .missing ∨
    (∃ position v, (ofValue q).resolve e = .found (.document position) v ∧
      e.at? position = some v) ∨
    (∃ turns v, (ofValue q).resolve e = .found (.query turns) v ∧
      reach? q turns = some v ∧ v.member? keyName = none ∧ v.member? pathName = none) := by
  have hgenuine := resolve_genuine (ofValue q) e
  cases hanswer : (ofValue q).resolve e with
  | missing => exact Or.inl rfl
  | found source v =>
      rw [hanswer] at hgenuine
      cases source with
      | document position => exact Or.inr (Or.inl ⟨position, v, rfl, hgenuine⟩)
      | query turns =>
          rcases reach?_of_part? hgenuine with ⟨hreach, hliteral⟩
          rw [isDirective_eq_false_iff] at hliteral
          exact Or.inr (Or.inr ⟨turns, v, rfl, hreach, hliteral⟩)

end Query
end GameConfig
