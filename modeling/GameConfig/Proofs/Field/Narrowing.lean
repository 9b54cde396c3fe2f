import GameConfig.Json.Document
import GameConfig.Proofs.Field.Shape
import GameConfig.Proofs.Number.Single
import GameConfig.Proofs.Value.Same

/-!
# Singles of documents

The reader of single numbers looks at the range of singles before it narrows a double, so that
what it takes is finite.  The reader of rectangles narrows its four numbers without a look at
that range: past the point halfway behind the largest single they become infinite.
-/

namespace GameConfig
namespace Field

open Number

variable {v : Value}

theorem single_eq_some_iff {y : Binary32} :
    single v = some y ↔
      ∃ x, v = .float x ∧ Binary32.covers x = true ∧ Binary32.ofBinary64 x = y := by
  cases v <;> simp [single]

theorem single_eq_none {x : Binary64} (h : Binary32.covers x = false) :
    single (.float x) = none := by
  rw [single, h]
  rfl

theorem isFinite_single_orDefault (v : Value) {default : Binary32}
    (h : default.isFinite = true) : (single.orDefault v default).isFinite = true := by
  cases hread : single v with
  | none => rwa [Reader.orDefault, hread, Option.getD_none]
  | some y =>
      rcases single_eq_some_iff.mp hread with ⟨x, -, hcovers, rfl⟩
      rw [Reader.orDefault, hread, Option.getD_some]
      exact Binary32.isFinite_of_covers hcovers

theorem narrowed_eq_some_iff {y : Binary32} :
    narrowed v = some y ↔ ∃ x, v.double? = some x ∧ Binary32.ofBinary64 x = y := by
  rw [narrowed, Option.map_eq_some_iff]

def Rectangle.AllFinite (r : Rectangle Binary32) : Prop :=
  ∀ component ∈ [r.left, r.top, r.width, r.height], component.isFinite = true

instance (r : Rectangle Binary32) : Decidable r.AllFinite :=
  inferInstanceAs (Decidable (∀ component ∈ [r.left, r.top, r.width, r.height], _))

theorem forall₂_narrowed_iff {items : List Value} {ys : List Binary32} :
    List.Forall₂ (fun item y => narrowed item = some y) items ys ↔
      ∃ xs, List.Forall₂ (fun item x => item.double? = some x) items xs ∧
        ys = xs.map Binary32.ofBinary64 := by
  induction items generalizing ys with
  | nil => simp
  | cons item items ih =>
      rw [List.forall₂_cons_left_iff]
      simp only [ih]
      constructor
      · intro h
        rcases h with ⟨y, _, hy, ⟨xs, hxs, rfl⟩, rfl⟩
        rcases narrowed_eq_some_iff.mp hy with ⟨x, hx, rfl⟩
        exact ⟨x :: xs, .cons hx hxs, rfl⟩
      · intro h
        rcases h with ⟨_, hdoubles, rfl⟩
        cases hdoubles with
        | cons hx hxs =>
            exact ⟨_, _, narrowed_eq_some_iff.mpr ⟨_, hx, rfl⟩, ⟨_, hxs, rfl⟩, rfl⟩

theorem doubles_unique {items : List Value} {xs xs' : List Binary64}
    (h : List.Forall₂ (fun item x => item.double? = some x) items xs)
    (h' : List.Forall₂ (fun item x => item.double? = some x) items xs') : xs = xs' := by
  refine List.right_unique_forall₂' (fun item x x' hx hx' => ?_) h h'
  rw [hx] at hx'
  exact Option.some.inj hx'

theorem allFinite_floatRectangle_iff (v : Value) {default : Rectangle Binary32}
    (h : default.AllFinite) :
    (floatRectangle.orDefault v default).AllFinite ↔
      ∀ items xs, v = .array items → items.length = 4 →
        List.Forall₂ (fun item x => item.double? = some x) items xs →
          ∀ x ∈ xs, x.isFinite = true ∧ |x.rational| < Binary32.cut := by
  cases hread : floatRectangle v with
  | some r =>
      rcases rectangle_eq_some_iff.mp hread with ⟨items, rfl, hys⟩
      rcases forall₂_narrowed_iff.mp hys with ⟨xs, hxs, hmap⟩
      rw [Reader.orDefault, hread, Option.getD_some, Rectangle.AllFinite, hmap,
        List.forall_mem_map]
      simp only [Binary32.isFinite_ofBinary64_iff]
      constructor
      · intro hbelow items' xs' hitems _ hxs'
        cases hitems
        rwa [doubles_unique hxs' hxs]
      · intro hbelow
        exact hbelow items xs rfl hys.length_eq hxs
  | none =>
      rw [Reader.orDefault, hread, Option.getD_none]
      refine iff_of_true h fun items xs hitems hlength hxs => ?_
      -- Four numbers are never declined.
      rw [hxs.length_eq] at hlength
      rcases List.length_eq_four.mp hlength with ⟨left, top, width, height, rfl⟩
      have htaken : floatRectangle v = some ⟨Binary32.ofBinary64 left,
          Binary32.ofBinary64 top, Binary32.ofBinary64 width, Binary32.ofBinary64 height⟩ :=
        rectangle_eq_some_iff.mpr ⟨items, hitems, forall₂_narrowed_iff.mpr ⟨_, hxs, rfl⟩⟩
      rw [hread] at htaken
      cases htaken

/-- A caller with a finite default gets a finite single from every value, and the default from a
double that is not within the range of singles.  A caller with a finite rectangle gets a finite
one unless the value is four numbers, one of which is not finite or does not lie below the point
halfway behind the largest single. -/
theorem singles_finite_and_rectangles_below_cut (v : Value) (default : Binary32)
    (corner : Rectangle Binary32) (hdefault : default.isFinite = true)
    (hcorner : corner.AllFinite) :
    (single.orDefault v default).isFinite = true ∧
    (∀ x, v = .float x → ¬ (x.isFinite = true ∧ |x.rational| ≤ (2 ^ 24 - 1) * 2 ^ 104) →
      single.orDefault v default = default) ∧
    ((floatRectangle.orDefault v corner).AllFinite ↔
      ∀ items xs, v = .array items → items.length = 4 →
        List.Forall₂ (fun item x => item.double? = some x) items xs →
          ∀ x ∈ xs, x.isFinite = true ∧ |x.rational| < (2 ^ 25 - 1) * 2 ^ 103) := by
  refine ⟨isFinite_single_orDefault v hdefault, ?_, allFinite_floatRectangle_iff v hcorner⟩
  intro x hx hbeyond
  have hcovers : Binary32.covers x = false := by
    rw [← Bool.not_eq_true, Binary32.covers_iff]
    exact hbeyond
  rw [hx, Reader.orDefault, single_eq_none hcovers, Option.getD_none]

/-- The greatest double below the cut is beyond the range of singles.  Callers get their default
for it when it stands alone, and the largest single when it stands in a rectangle. -/
theorem rectangle_at_the_cut :
    let below : Binary64 := ⟨0x47EFFFFFEFFFFFFF⟩
    let zero : Rectangle Binary32 := ⟨⟨0⟩, ⟨0⟩, ⟨0⟩, ⟨0⟩⟩
    let v : Value := .array [.float below, .integer 1, .unsigned 2, .integer (-3)]
    Binary32.isFinite ⟨0⟩ = true ∧ zero.AllFinite ∧
      (single.orDefault v ⟨0⟩).isFinite = true ∧
      ¬ (below.isFinite = true ∧ |below.rational| ≤ (2 ^ 24 - 1) * 2 ^ 104) ∧
      single.orDefault (.float below) ⟨0⟩ = ⟨0⟩ ∧
      (floatRectangle.orDefault v zero).left = ⟨0x7F7FFFFF⟩ ∧
      (∀ x ∈ [below, .ofInt 1, .ofInt 2, .ofInt (-3)],
        x.isFinite = true ∧ |x.rational| < (2 ^ 25 - 1) * 2 ^ 103) := by
  intro below zero v
  have hdefault : Binary32.isFinite ⟨0⟩ = true := by decide
  have hzero : zero.AllFinite := by decide
  have hbeyond : ¬ (below.isFinite = true ∧ |below.rational| ≤ (2 ^ 24 - 1) * 2 ^ 104) := by
    have huncovered : ¬ Binary32.covers below = true := by decide +kernel
    rwa [Binary32.covers_iff] at huncovered
  have hleft : (floatRectangle.orDefault v zero).left = ⟨0x7F7FFFFF⟩ := by decide +kernel
  have hfinite : (floatRectangle.orDefault v zero).AllFinite := by decide +kernel
  have halone := singles_finite_and_rectangles_below_cut (.float below) ⟨0⟩ zero hdefault hzero
  have hinside := singles_finite_and_rectangles_below_cut v ⟨0⟩ zero hdefault hzero
  exact ⟨hdefault, hzero, hinside.left, hbeyond, halone.right.left below rfl hbeyond, hleft,
    hinside.right.right.mp hfinite _ _ rfl rfl
      (.cons rfl (.cons rfl (.cons rfl (.cons rfl .nil))))⟩

/-- A number of a document that is beyond the singles is declined when it stands alone, and makes
a rectangle infinite. -/
theorem rectangle_beyond_singles :
    let beyond : Value := .float ⟨0x48078287F49C4A1D⟩
    let zero : Rectangle Binary32 := ⟨⟨0⟩, ⟨0⟩, ⟨0⟩, ⟨0⟩⟩
    let v : Value := .array [beyond, .integer 0, .integer 0, .integer 0]
    Json.readDocument "[1e39,0,0,0]" = .ok v ∧ zero.AllFinite ∧
      single.orDefault beyond ⟨0⟩ = ⟨0⟩ ∧
      (floatRectangle.orDefault v zero).left = ⟨0x7F800000⟩ ∧
      ¬ (floatRectangle.orDefault v zero).AllFinite := by
  intro beyond zero v
  refine ⟨?_, ?_, ?_, ?_, ?_⟩ <;> decide +kernel

end Field
end GameConfig
