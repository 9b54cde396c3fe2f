import GameConfig.Json.Numeral
import GameConfig.Proofs.Query.Index

/-!
# Trails and paths

A trail goes into a document step by step and gives what is found on the way.  What is missing
is asked further like a null, which has nothing inside, so that everything behind a miss is
missing as well.  A path is more lenient than a trail, as its segments read names as indices
and numbers as names; but where a trail leads somewhere, the path of its steps leads there too.
-/

namespace GameConfig
namespace Value

/-!
# What a trail finds
-/

def trailFrom (v : Value) (steps : Position) : List (Option Value) :=
  some v :: trail (some v) steps

theorem getElem?_trail (current? : Option Value) {steps : Position} {k : Nat}
    (hk : k < steps.length) :
    (trail current? steps)[k]? = some (current?.bind (·.at? (steps.take (k + 1)))) := by
  -- Every step changes the value that the rest of the trail starts from, or misses it.
  induction steps generalizing current? k with
  | nil => cases hk
  | cons step rest ih =>
      rw [trail]
      cases k with
      | zero =>
          cases current? with
          | none => rfl
          | some v =>
              rw [List.getElem?_cons_zero, Option.bind_some, Option.bind_some, List.take_succ_cons,
                List.take_zero, at?_cons]
              simp [at?]
      | succ k =>
          rw [List.getElem?_cons_succ, ih _ (Nat.lt_of_succ_lt_succ hk), Option.bind_assoc]
          rfl

theorem getElem?_trailFrom (v : Value) {steps : Position} {k : Nat} (hk : k ≤ steps.length) :
    (trailFrom v steps)[k]? = some (v.at? (steps.take k)) := by
  cases k with
  | zero => rfl
  | succ k => exact getElem?_trail (some v) hk

theorem length_trail (current? : Option Value) (steps : Position) :
    (trail current? steps).length = steps.length := by
  induction steps generalizing current? with
  | nil => rfl
  | cons step rest ih => rw [trail, List.length_cons, List.length_cons, ih]

theorem getLast?_trailFrom (v : Value) (steps : Position) :
    (trailFrom v steps).getLast? = some (v.at? steps) := by
  have hlength : (trailFrom v steps).length - 1 = steps.length := length_trail (some v) steps
  rw [List.getLast?_eq_getElem?, hlength, getElem?_trailFrom v (Nat.le_refl _), List.take_length]

theorem getElem?_trailFrom_succ (v : Value) {steps : Position} {k : Nat} {step : Step}
    {current? : Option Value} (hstep : steps[k]? = some step)
    (hcurrent : (trailFrom v steps)[k]? = some current?) :
    (trailFrom v steps)[k + 1]? = some ((current?.getD .null).step? step) := by
  rcases List.getElem?_eq_some_iff.mp hstep with ⟨hk, -⟩
  rw [getElem?_trailFrom v (Nat.le_of_lt hk)] at hcurrent
  cases hcurrent
  rw [getElem?_trailFrom v hk, List.take_add_one, hstep, at?_append]
  cases v.at? (steps.take k) with
  | none => rw [Option.bind_none, Option.getD_none, step?_of_scalar rfl]
  | some current =>
      rw [Option.bind_some, Option.getD_some, Option.toList_some, at?_cons]
      cases current.step? step <;> rfl

theorem getElem?_trailFrom_of_missing (v : Value) {steps : Position} {k j : Nat} (hkj : k ≤ j)
    (hj : j ≤ steps.length) (h : (trailFrom v steps)[k]? = some none) :
    (trailFrom v steps)[j]? = some none := by
  rw [getElem?_trailFrom v (Nat.le_trans hkj hj), Option.some.injEq] at h
  have hsplit := List.take_append_drop k (steps.take j)
  rw [List.take_take, Nat.min_eq_left hkj] at hsplit
  rw [getElem?_trailFrom v hj, ← hsplit, at?_append, h, Option.bind_none]

/-!
# Steps as they are written
-/

def Step.IsWritten : Step → Value → Prop
  | .member name, segment => segment = .string name
  | .element index, segment => segment.numeric? = some (.whole index)

def Step.written : Step → Value
  | .member name => .string name
  | .element index => Json.wholeValue false index

theorem Step.isWritten_written {step : Step}
    (h : ∀ index, step = .element index → index < UInt64.size) : step.IsWritten step.written := by
  cases step with
  | member name => rfl
  | element index =>
      have hlimit := h index rfl
      rw [Step.written, Json.wholeValue, if_neg (by decide)]
      split
      · rename_i hsigned
        have hvalue : (Int64.ofNat index).toInt = index := Int64.toInt_ofNat_of_lt hsigned
        rw [Step.IsWritten, numeric?, hvalue]
      · have hvalue : (UInt64.ofNat index).toNat = index := UInt64.toNat_ofNat_of_lt' hlimit
        rw [Step.IsWritten, numeric?, hvalue]

end Value

namespace Query

open Value (Step Position)

theorem Segment.step?_of_isWritten {step : Step} {segment v next : Value}
    (hsegment : step.IsWritten segment) (hnext : v.step? step = some next) :
    (Segment.ofValue segment).step? v = some step := by
  cases step with
  | member name =>
      cases hsegment
      cases v with
      | object members => rfl
      | _ => cases hnext
  | element index =>
      rw [Segment.ofValue_of_whole hsegment]
      cases v with
      | array items => rfl
      | _ => cases hnext

theorem descend_of_isWritten {steps : Position} {segments : List Value} {v w : Value}
    (hsegments : List.Forall₂ Step.IsWritten steps segments) (h : v.at? steps = some w) :
    descend (segments.map Segment.ofValue) v = some (steps, w) := by
  induction hsegments generalizing v with
  | nil =>
      cases h
      rfl
  | @cons step segment rest segments hsegment hrest ih =>
      rw [Value.at?_cons, Option.bind_eq_some_iff] at h
      rcases h with ⟨next, hnext, h⟩
      rw [List.map_cons, descend_cons_eq_some_iff]
      exact ⟨step, next, rest, Segment.step?_of_isWritten hsegment hnext, hnext, ih h, rfl⟩

/-- Each result along a trail is what the one before has at the step, where a miss counts as
null; everything behind a miss is missing; and if the last result is there, then the path of the
steps, its numbers in either form, finds the same value at the same place.  Every step within
the range of indices can be written. -/
theorem trail_sticky_and_path_agrees (e : Value) (steps : Position) :
    (∀ (k : Nat) (step : Step) (current? : Option Value), steps[k]? = some step →
      (e.trailFrom steps)[k]? = some current? →
      (e.trailFrom steps)[k + 1]? = some ((current?.getD .null).step? step)) ∧
    (∀ k j, k ≤ j → j ≤ steps.length → (e.trailFrom steps)[k]? = some none →
      (e.trailFrom steps)[j]? = some none) ∧
    ((∀ index, Step.element index ∈ steps → index < indexLimit) →
      List.Forall₂ Step.IsWritten steps (steps.map Step.written)) ∧
    ∀ segments v, List.Forall₂ Step.IsWritten steps segments →
      (e.trailFrom steps).getLast? = some (some v) →
      (ofValue (written pathName (.array segments) none none)).resolve e =
        .found (.document steps) v := by
  refine ⟨?_, ?_, ?_, ?_⟩
  · intro k step current? hstep hcurrent
    exact Value.getElem?_trailFrom_succ e hstep hcurrent
  · intro k j hkj hj hmissing
    exact Value.getElem?_trailFrom_of_missing e hkj hj hmissing
  · intro hrange
    rw [List.forall₂_map_right_iff, List.forall₂_same]
    intro step hstep
    apply Step.isWritten_written
    intro index hindex
    exact hrange index (hindex ▸ hstep)
  · intro segments v hsegments hlast
    rw [Value.getLast?_trailFrom, Option.some.injEq] at hlast
    rw [ofValue_written_path, pathRoute, resolve_lookup, answerInside,
      descend_of_isWritten hsegments hlast]
    simp [resolve, Answer.afterRoute, Answer.orElse]

theorem trail_and_path_of_written_null :
    let e : Value := .object [("rooms", .array [.null, .object [("doors", .null)]])]
    let steps : Position := [.member "rooms", .element 1, .member "doors"]
    let segments : List Value := [.string "rooms", .unsigned 1, .string "doors"]
    let beyond : Position := [.member "rooms", .element 2, .member "doors"]
    (List.Forall₂ Step.IsWritten steps segments ∧
      (e.trailFrom steps).getLast? = some (some .null) ∧
      (ofValue (written pathName (.array segments) none none)).resolve e =
        .found (.document steps) .null) ∧
    ((∀ index, Step.element index ∈ steps → index < indexLimit) ∧
      List.Forall₂ Step.IsWritten steps (steps.map Step.written)) ∧
    beyond[2]? = some (.member "doors") ∧
    (e.trailFrom beyond)[2]? = some none ∧
    (e.trailFrom beyond)[3]? = some (Value.null.step? (.member "doors")) ∧
    (e.trailFrom beyond)[3]? = some none := by
  intro e steps segments beyond
  have hsegments : List.Forall₂ Step.IsWritten steps segments :=
    .cons rfl (.cons rfl (.cons rfl .nil))
  have hlast : (e.trailFrom steps).getLast? = some (some .null) := by
    rfl
  have hrange : ∀ index, Step.element index ∈ steps → index < indexLimit := by
    intro index hindex
    have hone : index = 1 := by
      simpa [steps] using hindex
    subst hone
    decide
  have hmissing : (e.trailFrom beyond)[2]? = some none := by
    rfl
  rcases trail_sticky_and_path_agrees e steps with ⟨-, -, hwritten, hpath⟩
  rcases trail_sticky_and_path_agrees e beyond with ⟨hnext, hsticky, -, -⟩
  exact ⟨⟨hsegments, hlast, hpath segments .null hsegments hlast⟩, ⟨hrange, hwritten hrange⟩, rfl,
    hmissing, hnext 2 (.member "doors") none rfl hmissing,
    hsticky 2 3 (by decide) (by decide) hmissing⟩

end Query
end GameConfig
