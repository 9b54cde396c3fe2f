import GameConfig.Proofs.Value.Shape
import GameConfig.Query.Segment

/-!
# Going down a route

Each segment of a route makes one step, and which one depends on nothing but the form of
the value at hand.  So a route leads to the same position in two documents as long as one
of them has everything that the other one has.
-/

namespace GameConfig
namespace Query

open Value (Step Position Simulation)

theorem Segment.follow_eq_some_iff {segment : Segment} {v next : Value} {step : Step} :
    segment.follow v = some (step, next) ↔
      segment.step? v = some step ∧ v.step? step = some next := by
  rw [follow]
  cases segment.step? v with
  | none => simp
  | some taken =>
      simp only [Option.map_eq_some_iff, Prod.mk.injEq, Option.some.injEq]
      constructor
      · rintro ⟨_, hnext, rfl, rfl⟩
        exact ⟨rfl, hnext⟩
      · rintro ⟨rfl, hnext⟩
        exact ⟨next, hnext, rfl, rfl⟩

theorem descend_cons_eq_some_iff {segment : Segment} {rest : List Segment}
    {v target : Value} {position : Position} :
    descend (segment :: rest) v = some (position, target) ↔
      ∃ step next steps, segment.step? v = some step ∧ v.step? step = some next ∧
        descend rest next = some (steps, target) ∧ position = step :: steps := by
  rw [descend]
  constructor
  · intro h
    cases hfollow : segment.follow v with
    | none =>
        rw [hfollow] at h
        cases h
    | some found =>
        obtain ⟨step, next⟩ := found
        cases hrest : descend rest next with
        | none =>
            rw [hfollow] at h
            simp [hrest] at h
        | some reached =>
            obtain ⟨steps, last⟩ := reached
            rw [hfollow] at h
            simp only [hrest, Option.some.injEq, Prod.mk.injEq] at h
            rcases h with ⟨rfl, rfl⟩
            rcases Segment.follow_eq_some_iff.mp hfollow with ⟨hstep, hnext⟩
            exact ⟨step, next, steps, hstep, hnext, hrest, rfl⟩
  · rintro ⟨step, next, steps, hstep, hnext, hrest, rfl⟩
    rw [Segment.follow_eq_some_iff.mpr ⟨hstep, hnext⟩]
    simp only [hrest]

theorem descend_append (route further : List Segment) (v : Value) :
    descend (route ++ further) v =
      (descend route v).bind fun reached =>
        (descend further reached.2).map fun last => (reached.1 ++ last.1, last.2) := by
  induction route generalizing v with
  | nil =>
      simp [descend]
  | cons segment rest ih =>
      rw [List.cons_append, descend, descend]
      cases segment.follow v with
      | none =>
          rfl
      | some found =>
          obtain ⟨step, next⟩ := found
          simp only [ih]
          cases descend rest next with
          | none =>
              rfl
          | some reached =>
              simp only [Option.bind_some]
              cases descend further reached.2 <;> rfl

theorem at?_of_descend {route : List Segment} {v target : Value} {position : Position}
    (h : descend route v = some (position, target)) : v.at? position = some target := by
  induction route generalizing v position with
  | nil =>
      cases h
      rfl
  | cons segment rest ih =>
      rcases descend_cons_eq_some_iff.mp h with ⟨step, next, steps, -, hnext, hrest, rfl⟩
      rw [Value.at?_cons, hnext]
      exact ih hrest

theorem Segment.step?_eq_of_form_eq (segment : Segment) {v w : Value}
    (h : v.form = w.form) : segment.step? v = segment.step? w := by
  cases v <;> cases w <;> cases h <;> cases segment <;> rfl

/-- A route that leads somewhere leads to the same position in a document that has all that
the first one has, and to a value that has all that its target has. -/
theorem descend_of_simulation {R : Value → Value → Prop} (hR : Simulation R)
    {route : List Segment} {v w target : Value} {position : Position} (hvw : R v w)
    (h : descend route v = some (position, target)) :
    ∃ target', descend route w = some (position, target') ∧ R target target' := by
  induction route generalizing v w position with
  | nil =>
      cases h
      exact ⟨w, rfl, hvw⟩
  | cons segment rest ih =>
      rcases descend_cons_eq_some_iff.mp h with ⟨step, next, steps, hstep, hnext, hrest, rfl⟩
      rcases hR.step hvw hnext with ⟨next', hnext', hinside⟩
      rcases ih hinside hrest with ⟨target', hrest', htarget⟩
      rw [segment.step?_eq_of_form_eq (hR.form_eq hvw)] at hstep
      exact ⟨target', descend_cons_eq_some_iff.mpr
        ⟨step, next', steps, hstep, hnext', hrest', rfl⟩, htarget⟩

end Query
end GameConfig
