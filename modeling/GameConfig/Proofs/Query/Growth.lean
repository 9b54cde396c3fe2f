import GameConfig.Proofs.Query.Skeleton

/-!
# Queries against growing documents

What a query finds in a document it also finds in one that extends it.  With fallbacks the
two searches may part: a route that led nowhere may lead on in the larger document, so that
a look-up finds something of its own where it took its fallback before.  Without fallbacks
on the way both searches end at the same place, and what stands there has only grown.
-/

namespace GameConfig
namespace Query

open Value (Extends)

variable {Same : Value → Value → Prop}

theorem descend_of_extends {route : List Segment} {v w target : Value}
    {position : Value.Position} (h : v.Extends Same w)
    (hv : descend route v = some (position, target)) :
    ∃ target', descend route w = some (position, target') ∧ target.Extends Same target' :=
  descend_of_simulation Extends.simulation h hv

/-!
# Still found
-/

theorem answerInside_ne_missing_iff {route : List Segment} {inner : Query} {node : Value} :
    answerInside route inner node ≠ .missing ↔
      ∃ steps target, descend route node = some (steps, target) ∧
        inner.resolve target ≠ .missing := by
  unfold answerInside
  cases descend route node with
  | none => simp
  | some reached =>
      obtain ⟨steps, target⟩ := reached
      cases hanswer : inner.resolve target with
      | missing => simp [hanswer, Answer.afterRoute]
      | found source v => cases source <;> simp [hanswer, Answer.afterRoute]

theorem resolve_lookup_ne_missing_iff {route : List Segment} {inner fallback : Query}
    {node : Value} :
    (Query.lookup route inner fallback).resolve node ≠ .missing ↔
      answerInside route inner node ≠ .missing ∨ fallback.resolve node ≠ .missing := by
  rw [resolve_lookup]
  cases answerInside route inner node with
  | found source v => simp [Answer.orElse]
  | missing =>
      cases fallback.resolve node with
      | missing => simp [Answer.orElse, Answer.afterFallback]
      | found source v => cases source <;> simp [Answer.orElse, Answer.afterFallback]

theorem resolve_ne_missing_of_extends (query : Query) {v w : Value} (h : v.Extends Same w)
    (hv : query.resolve v ≠ .missing) : query.resolve w ≠ .missing := by
  induction query generalizing v w with
  | literal _ => exact nofun
  | here => exact nofun
  | nowhere => exact hv
  | lookup route inner fallback ihInner ihFallback =>
      rw [resolve_lookup_ne_missing_iff] at hv ⊢
      rcases hv with hinside | hfallback
      · rw [answerInside_ne_missing_iff] at hinside ⊢
        rcases hinside with ⟨steps, target, hdescend, hinner⟩
        rcases descend_of_extends h hdescend with ⟨target', hdescend', htarget⟩
        exact Or.inl ⟨steps, target', hdescend', ihInner htarget hinner⟩
      · exact Or.inr (ihFallback h hfallback)

/-!
# Found at the same place
-/

/-- A value that is followed as a query, from inner query to inner query, without meeting a
fallback. -/
inductive WithoutFallback : Value → Prop where
  | literal {q : Value} (h : isDirective q = false) : WithoutFallback q
  | lookup {q : Value} (hfallback : q.member? fallbackName = none)
      (hinner : ∀ inner, q.member? innerName = some inner → WithoutFallback inner) :
      WithoutFallback q

def IsStraight : Query → Prop
  | .lookup _ inner fallback => fallback = .nowhere ∧ inner.IsStraight
  | _ => True

theorem WithoutFallback.isStraight {q : Value} (h : WithoutFallback q) :
    (ofValue q).IsStraight := by
  induction h with
  | literal h =>
      rw [ofValue_of_literal h]
      trivial
  | @lookup q hfallback hinner ih =>
      cases hq : isDirective q with
      | false =>
          rw [ofValue_of_literal hq]
          trivial
      | true =>
          rcases exists_ofValue_of_directive hq with ⟨route, hread⟩
          rw [hread]
          refine ⟨by rw [memberOr, hfallback]; rfl, ?_⟩
          rcases memberOr_cases innerName .here q with habsent | ⟨inner, hmember, hinner⟩
          · rw [habsent]
            trivial
          · rw [hinner]
            exact ih inner hmember

theorem afterRoute_eq_found_iff {answer : Answer} {steps : Value.Position}
    {source : Source} {v : Value} :
    answer.afterRoute steps = .found source v ↔
      ∃ source', answer = .found source' v ∧ source = source'.afterRoute steps := by
  cases answer with
  | missing => simp [Answer.afterRoute]
  | found source' w =>
      cases source' <;> simp [Answer.afterRoute, Source.afterRoute, eq_comm, and_comm]

theorem resolve_of_isStraight {query : Query} (hquery : query.IsStraight)
    (hsame : ∀ a, Same a a) {v w a : Value} {source : Source} (h : v.Extends Same w)
    (hv : query.resolve v = .found source a) :
    ∃ b, query.resolve w = .found source b ∧ a.Extends Same b := by
  induction query generalizing v w source with
  | literal _ =>
      cases hv
      exact ⟨a, rfl, Extends.refl hsame a⟩
  | here =>
      cases hv
      exact ⟨w, rfl, h⟩
  | nowhere => cases hv
  | lookup route inner fallback ihInner ihFallback =>
      rcases hquery with ⟨rfl, hinner⟩
      have hinside : answerInside route inner v = .found source a := by
        rw [resolve_lookup] at hv
        cases hinside : answerInside route inner v with
        | missing =>
            rw [hinside] at hv
            cases hv
        | found source' a' =>
            rw [hinside] at hv
            exact hv
      cases hdescend : descend route v with
      | none =>
          rw [answerInside, hdescend] at hinside
          cases hinside
      | some reached =>
          obtain ⟨steps, target⟩ := reached
          rw [answerInside, hdescend] at hinside
          rcases afterRoute_eq_found_iff.mp hinside with ⟨source', hfound, rfl⟩
          rcases descend_of_extends h hdescend with ⟨target', hdescend', htarget⟩
          rcases ihInner hinner htarget hfound with ⟨b, hfound', hb⟩
          refine ⟨b, ?_, hb⟩
          rw [resolve_lookup, answerInside, hdescend']
          simp only [afterRoute_eq_found_iff.mpr ⟨source', hfound', rfl⟩]
          rfl

/-- What is found in a document is found in every document that extends it; and if no
fallback is met along the inner queries, it is found at the same place and has grown. -/
theorem found_of_extends (hsame : ∀ a, Same a a) (q e e' : Value) (h : e.Extends Same e')
    {source : Source} {v : Value} (hfound : (ofValue q).resolve e = .found source v) :
    ∃ source' v', (ofValue q).resolve e' = .found source' v' ∧
      (WithoutFallback q → source' = source ∧ v.Extends Same v') := by
  by_cases hq : WithoutFallback q
  · rcases resolve_of_isStraight hq.isStraight hsame h hfound with ⟨v', hfound', hv⟩
    exact ⟨source, v', hfound', fun _ => ⟨rfl, hv⟩⟩
  · have hhit := resolve_ne_missing_of_extends (ofValue q) h (by rw [hfound]; exact nofun)
    cases hanswer : (ofValue q).resolve e' with
    | missing => exact absurd hanswer hhit
    | found source' v' => exact ⟨source', v', rfl, fun hwithout => absurd hwithout hq⟩

theorem found_beside_pet_and_lamp :
    let items : Value := .array [.string "bow"]
    let player : Value := .object [("gold", .integer 40)]
    let player' : Value := .object [("gold", .integer 40), ("pet", .object [("name", .null)])]
    let e : Value := .object [("items", items), ("player", player)]
    let e' : Value := .object
      [("items", .array [.string "bow", .string "lamp"]), ("player", player')]
    let direct : Value := .object [("key", .string "items")]
    let q : Value := .object
      [("default", direct), ("path", .string "player.pet"),
        ("query", .object [("key", .string "name")])]
    e.Extends Eq e' ∧
      (ofValue q).resolve e = .found (.document [.member "items"]) items ∧
      (∃ source v, (ofValue q).resolve e' = .found source v) ∧
      WithoutFallback direct ∧
      (ofValue direct).resolve e = .found (.document [.member "items"]) items ∧
      ∃ v, (ofValue direct).resolve e' = .found (.document [.member "items"]) v ∧
        items.Extends Eq v := by
  intro items player player' e e' direct q
  have hitems : items.Extends Eq (.array [.string "bow", .string "lamp"]) := by
    rw [Value.extends_array_iff]
    refine ⟨[.string "bow"], [.string "lamp"], rfl, ?_⟩
    exact .cons (Extends.refl (fun _ => rfl) _) .nil
  have hplayer : player.Extends Eq player' := by
    apply Value.extends_object_of_mem
    rw [List.forall_mem_singleton]
    exact ⟨_, rfl, Extends.refl (fun _ => rfl) _⟩
  have hextends : e.Extends Eq e' := by
    apply Value.extends_object_of_mem
    rw [List.forall_mem_cons, List.forall_mem_singleton]
    exact ⟨⟨_, rfl, hitems⟩, ⟨_, rfl, hplayer⟩⟩
  have hq : (ofValue q).resolve e = .found (.document [.member "items"]) items := by
    rfl
  have hdirect : (ofValue direct).resolve e = .found (.document [.member "items"]) items := by
    rfl
  have hwithout : WithoutFallback direct := .lookup rfl nofun
  rcases found_of_extends (fun _ => rfl) q e e' hextends hq with ⟨source, v, hfound, -⟩
  rcases found_of_extends (fun _ => rfl) direct e e' hextends hdirect with
    ⟨_, v', hfound', hsame⟩
  rcases hsame hwithout with ⟨rfl, hv'⟩
  exact ⟨hextends, hq, ⟨source, v, hfound⟩, hwithout, hdirect, v', hfound', hv'⟩

end Query
end GameConfig
