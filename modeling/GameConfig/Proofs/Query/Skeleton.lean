import GameConfig.Proofs.Query.Provenance

/-!
# Queries see skeletons only

Documents of the same skeleton answer a query at the same place, and send the search to the
same fallbacks: what a query selects does not depend on the contents of scalars.  So a null
that is written down is found like any other value, and only what is not there is missed.
-/

namespace GameConfig
namespace Query

open Value (SameSkeleton)

/-!
# Sources

The source of an answer is put together along the search, whatever the values are.
-/

namespace Source

def afterRoute (steps : Value.Position) : Source → Source
  | .document position => .document (steps ++ position)
  | .query turns => .query (.inner :: turns)

def afterFallback : Source → Source
  | .document position => .document position
  | .query turns => .query (.fallback :: turns)

end Source

namespace Answer

def source? : Answer → Option Source
  | .missing => none
  | .found source _ => some source

@[simp] theorem source?_afterRoute (answer : Answer) (steps : Value.Position) :
    (answer.afterRoute steps).source? = answer.source?.map (Source.afterRoute steps) := by
  cases answer with
  | missing => rfl
  | found source v => cases source <;> rfl

@[simp] theorem source?_afterFallback (answer : Answer) :
    answer.afterFallback.source? = answer.source?.map Source.afterFallback := by
  cases answer with
  | missing => rfl
  | found source v => cases source <;> rfl

@[simp] theorem source?_orElse (first second : Answer) :
    (first.orElse second).source? = first.source?.or second.source? := by
  cases first <;> rfl

theorem isMissing_eq (answer : Answer) : answer.isMissing = answer.source?.isNone := by
  cases answer <;> rfl

end Answer

/-!
# Misses
-/

def answerInside (route : List Segment) (inner : Query) (node : Value) : Answer :=
  match descend route node with
  | none => .missing
  | some (steps, target) => (inner.resolve target).afterRoute steps

theorem resolve_lookup (route : List Segment) (inner fallback : Query) (node : Value) :
    (Query.lookup route inner fallback).resolve node =
      (answerInside route inner node).orElse (fallback.resolve node).afterFallback := rfl

/-- The look-ups of a search that find nothing at the end of their routes and turn to their
fallbacks, each by the turns that lead to it, in the order of the search. -/
def misses : Query → Value → List (List Turn)
  | .lookup route inner fallback, node =>
      let within : List (List Turn) :=
        match descend route node with
        | none => []
        | some (_, target) => (inner.misses target).map (Turn.inner :: ·)
      if (answerInside route inner node).isMissing then
        within ++ [] :: (fallback.misses node).map (Turn.fallback :: ·)
      else within
  | _, _ => []

theorem nil_mem_misses_iff {route : List Segment} {inner fallback : Query} {node : Value} :
    [] ∈ (Query.lookup route inner fallback).misses node ↔
      answerInside route inner node = .missing := by
  rw [misses]
  have hwithin : [] ∉ (match descend route node with
      | none => []
      | some (_, target) => (inner.misses target).map (Turn.inner :: ·)) := by
    split <;> simp
  cases answerInside route inner node with
  | missing => simp [Answer.isMissing]
  | found source v => simpa [Answer.isMissing] using hwithin

/-!
# The same skeleton
-/

theorem descend_of_sameSkeleton (route : List Segment) {v w : Value}
    (h : v.SameSkeleton w) :
    Option.Rel (fun a b => a.1 = b.1 ∧ a.2.SameSkeleton b.2) (descend route v)
      (descend route w) := by
  cases hv : descend route v with
  | none =>
      cases hw : descend route w with
      | none => exact .none
      | some reached =>
          -- Skeletons are the same both ways, so the route leads as far in the first one.
          rcases descend_of_simulation SameSkeleton.simulation h.symm hw with ⟨_, hv', -⟩
          rw [hv] at hv'
          cases hv'
  | some reached =>
      rcases descend_of_simulation SameSkeleton.simulation h hv with ⟨target, hw, htarget⟩
      rw [hw]
      exact .some ⟨rfl, htarget⟩

theorem source?_and_misses_of_sameSkeleton (query : Query) {v w : Value}
    (h : v.SameSkeleton w) :
    (query.resolve v).source? = (query.resolve w).source? ∧
      query.misses v = query.misses w := by
  induction query generalizing v w with
  | literal _ => exact ⟨rfl, rfl⟩
  | here => exact ⟨rfl, rfl⟩
  | nowhere => exact ⟨rfl, rfl⟩
  | lookup route inner fallback ihInner ihFallback =>
      have hdescend := descend_of_sameSkeleton route h
      rw [resolve_lookup, resolve_lookup, misses, misses, (ihFallback h).right]
      unfold answerInside
      generalize descend route v = a? at hdescend
      generalize descend route w = b? at hdescend
      cases hdescend with
      | none => simp [(ihFallback h).left]
      | @some a b hab =>
          obtain ⟨steps, target⟩ := a
          obtain ⟨_, target'⟩ := b
          obtain ⟨rfl, htarget⟩ := hab
          rcases ihInner htarget with ⟨hsource, hmisses⟩
          simp [Answer.isMissing_eq, hsource, hmisses, (ihFallback h).left]

/-- Two documents of the same skeleton give no answer, the same literal, or what stands at
the same position of each; and they miss in the same look-ups.  A look-up without an inner
query misses only if its route leads nowhere, whatever stands at its end. -/
theorem resolve_of_sameSkeleton (q e e' : Value) (h : e.SameSkeleton e') :
    (((ofValue q).resolve e = .missing ∧ (ofValue q).resolve e' = .missing) ∨
      (∃ turns v, reach? q turns = some v ∧
        (ofValue q).resolve e = .found (.query turns) v ∧
        (ofValue q).resolve e' = .found (.query turns) v) ∨
      (∃ position v v', e.at? position = some v ∧ e'.at? position = some v' ∧
        (ofValue q).resolve e = .found (.document position) v ∧
        (ofValue q).resolve e' = .found (.document position) v')) ∧
    (ofValue q).misses e = (ofValue q).misses e' ∧
    ∀ route fallback, ofValue q = .lookup route .here fallback →
      ([] ∈ (ofValue q).misses e ↔ descend route e = none) := by
  rcases source?_and_misses_of_sameSkeleton (ofValue q) h with ⟨hsource, hmisses⟩
  refine ⟨?_, hmisses, ?_⟩
  · have hgenuine := resolve_genuine (ofValue q) e
    have hgenuine' := resolve_genuine (ofValue q) e'
    cases hanswer : (ofValue q).resolve e with
    | missing =>
        cases hanswer' : (ofValue q).resolve e' with
        | missing => exact Or.inl ⟨rfl, rfl⟩
        | found source' v' => simp [hanswer, hanswer', Answer.source?] at hsource
    | found source v =>
        cases hanswer' : (ofValue q).resolve e' with
        | missing => simp [hanswer, hanswer', Answer.source?] at hsource
        | found source' v' =>
            rw [hanswer, hanswer'] at hsource
            cases hsource
            rw [hanswer] at hgenuine
            rw [hanswer'] at hgenuine'
            cases source with
            | document position =>
                exact Or.inr (Or.inr ⟨position, v, v', hgenuine, hgenuine', rfl, rfl⟩)
            | query turns =>
                have hreach := (reach?_of_part? hgenuine).left
                have hreach' := (reach?_of_part? hgenuine').left
                cases hreach.symm.trans hreach'
                exact Or.inr (Or.inl ⟨turns, v, hreach, rfl, rfl⟩)
  · intro route fallback hread
    rw [hread, nil_mem_misses_iff]
    unfold answerInside
    cases descend route e <;> simp [resolve, Answer.afterRoute]

theorem resolve_name_null_or_text :
    let e : Value := .object [("player", .object [("gold", .integer 40), ("name", .null)])]
    let e' : Value := .object
      [("player", .object [("gold", .null), ("name", .string "Aldric")])]
    let q : Value := .object
      [("default", .integer 0), ("key", .string "player"),
        ("query", .object [("default", .string "nobody"), ("key", .string "name")])]
    e.SameSkeleton e' ∧
      (ofValue q).resolve e =
        .found (.document [.member "player", .member "name"]) .null ∧
      (ofValue q).resolve e' =
        .found (.document [.member "player", .member "name"]) (.string "Aldric") ∧
      (ofValue q).misses e' = [] := by
  intro e e' q
  have hplayer : Value.SameSkeleton (.object [("gold", .integer 40), ("name", .null)])
      (.object [("gold", .null), ("name", .string "Aldric")]) := by
    rw [Value.sameSkeleton_object_iff]
    intro name
    simp only [Dictionary.find?]
    split
    · exact .some (Value.sameSkeleton_of_scalar rfl rfl)
    · split
      · exact .some (Value.sameSkeleton_of_scalar rfl rfl)
      · exact .none
  have hskeleton : e.SameSkeleton e' := by
    rw [Value.sameSkeleton_object_iff]
    intro name
    simp only [Dictionary.find?]
    split
    · exact .some hplayer
    · exact .none
  have hfound : (ofValue q).resolve e =
      .found (.document [.member "player", .member "name"]) .null := by
    rfl
  have hmisses : (ofValue q).misses e = [] := by
    rfl
  rcases resolve_of_sameSkeleton q e e' hskeleton with ⟨hanswer, hsame, -⟩
  refine ⟨hskeleton, hfound, ?_, hsame.symm.trans hmisses⟩
  rw [hfound] at hanswer
  rcases hanswer with ⟨hmissing, -⟩ | ⟨turns, v, -, hliteral, -⟩ |
    ⟨position, v, v', -, hstands, hposition, hother⟩
  · cases hmissing
  · cases hliteral
  · cases hposition
    cases hstands
    exact hother

end Query
end GameConfig
