import GameConfig.Proofs.Dictionary.Lookup
import GameConfig.Value.Position
import Mathlib.Data.List.Forall2

/-!
# Documents of related shape

Two documents have the same skeleton if they differ in their scalars only.  A document
extends another one if all that is written in that one is still there, at its place, and
new members and elements may have come in.  Both are told by what stands at each position,
and both go from two values to what lies one step inside them.
-/

namespace GameConfig
namespace Value

inductive Form where
  | scalar
  | array
  | object
deriving DecidableEq, Repr

def form : Value → Form
  | .array _ => .array
  | .object _ => .object
  | _ => .scalar

theorem step?_of_scalar {v : Value} (h : v.form = .scalar) (step : Step) :
    v.step? step = none := by
  cases v <;> cases h <;> cases step <;> rfl

theorem at?_cons (v : Value) (step : Step) (rest : Position) :
    v.at? (step :: rest) = (v.step? step).bind (·.at? rest) := rfl

/-!
# Lists compared place by place
-/

theorem forall₂_iff_getElem? {α β : Type} {R : α → β → Prop} {xs : List α} {ys : List β} :
    List.Forall₂ R xs ys ↔ ∀ index : Nat, Option.Rel R xs[index]? ys[index]? := by
  induction xs generalizing ys with
  | nil =>
      cases ys with
      | nil => simp
      | cons y ys =>
          simp only [List.forall₂_nil_left_iff, reduceCtorEq, false_iff]
          intro h
          cases h 0
  | cons x xs ih =>
      cases ys with
      | nil =>
          simp only [List.forall₂_nil_right_iff, reduceCtorEq, false_iff]
          intro h
          cases h 0
      | cons y ys =>
          rw [List.forall₂_cons, ih]
          constructor
          · rintro ⟨hhead, htail⟩ index
            cases index with
            | zero => exact .some hhead
            | succ index => exact htail index
          · intro h
            have hhead : Option.Rel R (some x) (some y) := h 0
            cases hhead with
            | some hxy => exact ⟨hxy, fun index => h (index + 1)⟩

theorem forall₂_front_iff_getElem? {α β : Type} {R : α → β → Prop} {xs : List α}
    {ys : List β} :
    (∃ front behind, ys = front ++ behind ∧ List.Forall₂ R xs front) ↔
      ∀ (index : Nat) (x : α), xs[index]? = some x → ∃ y, ys[index]? = some y ∧ R x y := by
  induction xs generalizing ys with
  | nil => simp
  | cons x xs ih =>
      constructor
      · rintro ⟨front, behind, rfl, hfront⟩ index a ha
        cases hfront with
        | @cons _ y _ front hxy hrest =>
            cases index with
            | zero =>
                cases ha
                exact ⟨y, rfl, hxy⟩
            | succ index => exact ih.mp ⟨front, behind, rfl, hrest⟩ index a ha
      · intro h
        rcases h 0 x rfl with ⟨y, hy, hxy⟩
        cases ys with
        | nil => cases hy
        | cons y' ys =>
            cases hy
            rcases ih.mpr fun index => h (index + 1) with ⟨front, behind, rfl, hrest⟩
            exact ⟨y :: front, behind, rfl, .cons hxy hrest⟩

/-!
# Simulations

A relation between values that leads from every value inside the first one to a value at
the same place inside the second one.
-/

structure Simulation (R : Value → Value → Prop) : Prop where
  form_eq : ∀ {v w}, R v w → v.form = w.form
  step : ∀ {v w step a}, R v w → v.step? step = some a →
    ∃ b, w.step? step = some b ∧ R a b

/-!
# Skeletons
-/

/-- Two documents have the same skeleton if both have something at the same positions,
there and there of the same form. -/
def SameSkeleton (v w : Value) : Prop :=
  ∀ position, (v.at? position).map form = (w.at? position).map form

namespace SameSkeleton

variable {v w : Value}

theorem form_eq (h : v.SameSkeleton w) : v.form = w.form := by
  simpa [at?] using h []

theorem symm (h : v.SameSkeleton w) : w.SameSkeleton v := by
  intro position
  exact (h position).symm

theorem step (h : v.SameSkeleton w) (step : Step) :
    Option.Rel SameSkeleton (v.step? step) (w.step? step) := by
  have hself : (v.step? step).map form = (w.step? step).map form := by
    simpa [at?] using h [step]
  cases hv : v.step? step with
  | none =>
      rw [hv, Option.map_none, eq_comm, Option.map_eq_none_iff] at hself
      rw [hself]
      exact .none
  | some a =>
      rw [hv, Option.map_some, eq_comm, Option.map_eq_some_iff] at hself
      rcases hself with ⟨b, hw, -⟩
      rw [hw]
      refine .some fun position => ?_
      have hinside := h (step :: position)
      rwa [at?_cons, at?_cons, hv, hw] at hinside

theorem simulation : Simulation SameSkeleton where
  form_eq := form_eq
  step := by
    intro v w step a h hstep
    have hrel := h.step step
    rw [hstep] at hrel
    generalize w.step? step = b? at hrel
    cases hrel with
    | some hab => exact ⟨_, rfl, hab⟩

end SameSkeleton

theorem sameSkeleton_iff {v w : Value} :
    v.SameSkeleton w ↔
      v.form = w.form ∧ ∀ step, Option.Rel SameSkeleton (v.step? step) (w.step? step) := by
  constructor
  · intro h
    exact ⟨h.form_eq, h.step⟩
  · rintro ⟨hform, hinside⟩ position
    cases position with
    | nil => exact congrArg some hform
    | cons step rest =>
        rw [at?_cons, at?_cons]
        have hrel := hinside step
        generalize v.step? step = a? at hrel
        generalize w.step? step = b? at hrel
        cases hrel with
        | none => rfl
        | some hab => exact hab rest

theorem sameSkeleton_of_scalar {v w : Value} (hv : v.form = .scalar) (hw : w.form = .scalar) :
    v.SameSkeleton w := by
  rw [sameSkeleton_iff]
  refine ⟨hv.trans hw.symm, fun step => ?_⟩
  rw [step?_of_scalar hv, step?_of_scalar hw]
  exact .none

theorem sameSkeleton_object_iff {ms ns : Dictionary Value} :
    (Value.object ms).SameSkeleton (.object ns) ↔
      ∀ name, Option.Rel SameSkeleton (Dictionary.find? name ms) (Dictionary.find? name ns) := by
  rw [sameSkeleton_iff]
  constructor
  · rintro ⟨-, h⟩ name
    exact h (.member name)
  · intro h
    refine ⟨rfl, fun step => ?_⟩
    cases step with
    | member name => exact h name
    | element index => exact .none

/-!
# Extensions

What it means for two scalars to be the same is left open.
-/

/-- A document extends another one if everything that stands in that one stands at the same
position in it: a container of the same kind, or a scalar that is the same. -/
def Extends (Same : Value → Value → Prop) (v w : Value) : Prop :=
  ∀ position a, v.at? position = some a →
    ∃ b, w.at? position = some b ∧ a.form = b.form ∧ (a.form = .scalar → Same a b)

namespace Extends

variable {Same : Value → Value → Prop} {v w : Value}

theorem refl (hsame : ∀ a, Same a a) (v : Value) : v.Extends Same v := by
  intro position a ha
  exact ⟨a, ha, rfl, fun _ => hsame a⟩

theorem form_eq (h : v.Extends Same w) : v.form = w.form := by
  rcases h [] v rfl with ⟨b, hb, hform, -⟩
  cases hb
  exact hform

theorem step {step : Step} {a : Value} (h : v.Extends Same w) (ha : v.step? step = some a) :
    ∃ b, w.step? step = some b ∧ a.Extends Same b := by
  cases hb : w.step? step with
  | none =>
      rcases h [step] a (by rw [at?_cons, ha]; rfl) with ⟨b, hfound, -⟩
      rw [at?_cons, hb] at hfound
      cases hfound
  | some b =>
      refine ⟨b, rfl, fun position c hc => ?_⟩
      have hinside := h (step :: position) c (by rw [at?_cons, ha]; exact hc)
      rwa [at?_cons, hb] at hinside

theorem simulation : Simulation (Extends Same) where
  form_eq := form_eq
  step := step

end Extends

theorem extends_iff {Same : Value → Value → Prop} {v w : Value} :
    v.Extends Same w ↔
      v.form = w.form ∧ (v.form = .scalar → Same v w) ∧
        ∀ step a, v.step? step = some a → ∃ b, w.step? step = some b ∧ a.Extends Same b := by
  constructor
  · intro h
    rcases h [] v rfl with ⟨b, hb, hform, hsame⟩
    cases hb
    exact ⟨hform, hsame, fun step a => h.step⟩
  · rintro ⟨hform, hsame, hinside⟩ position a ha
    cases position with
    | nil =>
        cases ha
        exact ⟨w, rfl, hform, hsame⟩
    | cons step rest =>
        rw [at?_cons, Option.bind_eq_some_iff] at ha
        rcases ha with ⟨next, hnext, ha⟩
        rcases hinside step next hnext with ⟨next', hnext', hextends⟩
        rcases hextends rest a ha with ⟨b, hb, hkept⟩
        exact ⟨b, by rw [at?_cons, hnext']; exact hb, hkept⟩

theorem extends_array_iff {Same : Value → Value → Prop} {xs ys : List Value} :
    (Value.array xs).Extends Same (.array ys) ↔
      ∃ front behind, ys = front ++ behind ∧ List.Forall₂ (Extends Same) xs front := by
  rw [extends_iff, forall₂_front_iff_getElem?]
  constructor
  · rintro ⟨-, -, h⟩ index
    exact h (.element index)
  · intro h
    refine ⟨rfl, nofun, fun step => ?_⟩
    cases step with
    | member name => exact nofun
    | element index => exact h index

theorem extends_object_iff {Same : Value → Value → Prop} {ms ns : Dictionary Value} :
    (Value.object ms).Extends Same (.object ns) ↔
      ∀ name a, Dictionary.find? name ms = some a →
        ∃ b, Dictionary.find? name ns = some b ∧ a.Extends Same b := by
  rw [extends_iff]
  constructor
  · rintro ⟨-, -, h⟩ name
    exact h (.member name)
  · intro h
    refine ⟨rfl, nofun, fun step => ?_⟩
    cases step with
    | member name => exact h name
    | element index => exact nofun

theorem extends_object_of_mem {Same : Value → Value → Prop} {ms ns : Dictionary Value}
    (h : ∀ member ∈ ms, ∃ b, Dictionary.find? member.1 ns = some b ∧
      member.2.Extends Same b) :
    (Value.object ms).Extends Same (.object ns) := by
  rw [extends_object_iff]
  intro name a ha
  exact h (name, a) (Dictionary.mem_of_find? ha)

end Value
end GameConfig
