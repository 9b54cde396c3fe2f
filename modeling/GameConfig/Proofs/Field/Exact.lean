import GameConfig.Proofs.Field.Shape
import GameConfig.Proofs.Json.InRange
import GameConfig.Proofs.Value.Same

/-!
# Fields taken whole and exactly

A field gives one result to all callers or gives every caller its default back, so that no result
is taken in part from a value.  A field of whole numbers is exact: what it takes are the numbers
that the value writes, and anywhere in a document it takes every value that writes numbers in the
shape of the field.
-/

namespace GameConfig

theorem Value.Throughout.at? {P : Value → Prop} {v w : Value} {position : Value.Position}
    (h : v.Throughout P) (hw : v.at? position = some w) : w.Throughout P := by
  intro behind u hu
  apply h (position ++ behind) u
  rw [Value.at?_append, hw]
  exact hu

namespace Field

variable {α : Type} {read? : Reader α} {domain : Value → Prop} {shape : Shape}
  {components : α → List Int} {fill : List Int → List Int}

/-- Among the values of a domain a field takes the numbers that they write in a shape, and in
documents it takes every value that writes some. -/
structure Exact (read? : Reader α) (domain : Value → Prop) (shape : Shape)
    (components : α → List Int) (fill : List Int → List Int) : Prop where
  sound {v : Value} {x : α} : domain v → read?.Takes v x →
    ∃ ns, shape.Writes v ns ∧ components x = fill ns
  takes_iff {text : String} {document v : Value} {position : Value.Position} :
    Json.readDocument text = .ok document → document.at? position = some v → domain v →
      ((∃ x, read?.Takes v x) ↔ ∃ ns, shape.Writes v ns)

theorem ReadsShape.exact [Nontrivial α] (h : ReadsShape read? domain shape components fill) :
    Exact read? domain shape components fill where
  sound hdomain htakes := h.sound hdomain (Reader.takes_iff.mp htakes)
  takes_iff hread hposition hdomain := by
    constructor
    · intro htakes
      rcases htakes with ⟨x, hx⟩
      rcases h.sound hdomain (Reader.takes_iff.mp hx) with ⟨ns, hwrites, -⟩
      exact ⟨ns, hwrites⟩
    · intro hwrites
      rcases hwrites with ⟨ns, hns⟩
      have hrange := (Json.isDocument_of_readDocument hread).numbers.at? hposition
      rcases h.complete hdomain hrange hns with ⟨x, hx⟩
      exact ⟨x, Reader.takes_of_eq_some hx⟩

instance int32_nontrivial : Nontrivial Int32 := ⟨0, 1, by decide⟩
instance int64_nontrivial : Nontrivial Int64 := ⟨0, 1, by decide⟩
instance uint32_nontrivial : Nontrivial UInt32 := ⟨0, 1, by decide⟩
instance uint64_nontrivial : Nontrivial UInt64 := ⟨0, 1, by decide⟩
instance : Nontrivial (Rectangle Int32) := ⟨⟨0, 0, 0, 0⟩, ⟨0, 0, 0, 1⟩, by decide⟩
instance : Nontrivial Color := ⟨Color.black, Color.white, by decide⟩
instance : Nontrivial Duration := ⟨⟨0, 0⟩, ⟨0, 1⟩, by decide⟩

/-- Every field gives one result to all callers or gives back every default, since it is defined
as a reader.  The fields of whole numbers take nothing but the numbers that a value writes: these
are the components, with 255 for the fourth channel of a colour that is left out, one number for
both frames if it stands by itself, and milliseconds as seconds and the rest.  From a document
they take a value exactly if it writes numbers in the shape of the field, of which each is kept as
a whole number and within the bounds of a component. -/
theorem fields_taken_whole_and_exactly :
    (∀ v : Value,
      boolean.Decides v ∧ int32.Decides v ∧ uint32.Decides v ∧ int64.Decides v ∧
      uint64.Decides v ∧ double.Decides v ∧ single.Decides v ∧ string.Decides v ∧
      frames.Decides v ∧ intRectangle.Decides v ∧ floatRectangle.Decides v ∧ color.Decides v ∧
      duration.Decides v ∧ ∀ (α : Type) [Keyword α], (keyword α).Decides v) ∧
    Exact int32 (fun _ => True) ⟨true, [], -(2 ^ 31), 2 ^ 31 - 1⟩ (fun x => [x.toInt]) id ∧
    Exact uint32 (fun _ => True) ⟨true, [], 0, 2 ^ 32 - 1⟩ (fun x => [(x.toNat : Int)]) id ∧
    Exact int64 (fun _ => True) ⟨true, [], -(2 ^ 63), 2 ^ 63 - 1⟩ (fun x => [x.toInt]) id ∧
    Exact uint64 (fun _ => True) ⟨true, [], 0, 2 ^ 64 - 1⟩ (fun x => [(x.toNat : Int)]) id ∧
    Exact frames (fun _ => True) ⟨true, [2], 0, 2 ^ 32 - 1⟩
      (fun x => [(x.1.toNat : Int), (x.2.toNat : Int)]) bothFrames ∧
    Exact intRectangle (fun _ => True) ⟨false, [4], -(2 ^ 31), 2 ^ 31 - 1⟩
      (fun r => [r.left, r.top, r.width, r.height].map Int32.toInt) id ∧
    Exact color (fun v => v.string? = none) ⟨false, [3, 4], 0, 2 ^ 8 - 1⟩
      (fun c => c.channels.map fun x => (x.toNat : Int)) (fun ns => (ns ++ [255]).take 4) ∧
    Exact duration (fun v => v.string? = none) ⟨true, [], 0, 2 ^ 64 - 1⟩
      (fun d => [(d.seconds.toNat : Int), (d.nanoseconds.toNat : Int)]) inSeconds := by
  refine ⟨fun v => ?_, int32_readsWord.readsShape.exact, uint32_readsWord.readsShape.exact,
    int64_readsWord.readsShape.exact, uint64_readsWord.readsShape.exact,
    frames_readsShape.exact, (rectangle_readsShape int32_readsWord).exact,
    color_readsShape.exact, duration_readsShape.exact⟩
  refine ⟨Reader.decides _ v, Reader.decides _ v,
    Reader.decides _ v, Reader.decides _ v, Reader.decides _ v,
    Reader.decides _ v, Reader.decides _ v, Reader.decides _ v,
    Reader.decides _ v, Reader.decides _ v, Reader.decides _ v,
    Reader.decides _ v, Reader.decides _ v,
    fun α _ => Reader.decides _ v⟩

theorem fields_of_numbers_and_arrays :
    let text := "[[3, 5], 7, [1, 2, 3], 1.0, 4294967296]"
    let pair : Value := .array [.integer 3, .integer 5]
    let triple : Value := .array [.integer 1, .integer 2, .integer 3]
    let one : Value := .float ⟨0x3FF0000000000000⟩
    Json.readDocument text = .ok (.array [pair, .integer 7, triple, one, .integer 4294967296]) ∧
      frames.Takes pair (3, 5) ∧ frames.Takes (.integer 7) (7, 7) ∧
      color.Takes triple ⟨1, 2, 3, 255⟩ ∧
      int32.Declines one ∧ int32.Declines (.integer 4294967296) := by
  intro text pair triple one
  have hread : Json.readDocument text =
      .ok (.array [pair, .integer 7, triple, one, .integer 4294967296]) := by
    decide +kernel
  obtain ⟨hdecides, hint32, -⟩ := fields_taken_whole_and_exactly
  have hone : (Value.array [pair, .integer 7, triple, one, .integer 4294967296]).at?
      [.element 3] = some one := rfl
  have hlast : (Value.array [pair, .integer 7, triple, one, .integer 4294967296]).at?
      [.element 4] = some (.integer 4294967296) := rfl
  have hdouble : ¬ ∃ x, int32.Takes one x := by
    rw [hint32.takes_iff hread hone trivial]
    intro h
    rcases h with ⟨ns, hwrites⟩
    exact Shape.not_writes_float hwrites
  have hlarge : ¬ ∃ x, int32.Takes (.integer 4294967296) x := by
    rw [hint32.takes_iff hread hlast trivial]
    intro h
    rcases h with ⟨ns, hwrites⟩
    cases hwrites with
    | number _ hfits =>
        cases hfits.left
        exact absurd hfits.right.right (by decide)
  refine ⟨hread, Reader.takes_of_eq_some rfl, Reader.takes_of_eq_some rfl,
    Reader.takes_of_eq_some rfl, ?_, ?_⟩
  · exact (hdecides one).right.left.resolve_right hdouble
  · exact (hdecides (.integer 4294967296)).right.left.resolve_right hlarge

end Field
end GameConfig
