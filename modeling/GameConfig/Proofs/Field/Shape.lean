import GameConfig.Proofs.Field.Color
import GameConfig.Proofs.Field.Duration
import GameConfig.Proofs.Value.Text

/-!
# Shapes of whole numbers

Fields of whole numbers differ in whether one number may stand by itself, in how many an array
may have, and in their bounds.  A field of some shape takes the values that write numbers in this
shape, and its components are these numbers, with what the field fills in.
-/

namespace GameConfig

open Number

namespace Field

structure Shape where
  /-- Whether one number may stand by itself. -/
  alone : Bool
  lengths : List Nat
  least : Int
  greatest : Int

namespace Shape

def Fits (shape : Shape) (v : Value) (n : Int) : Prop :=
  v.whole? = some n ∧ shape.least ≤ n ∧ n ≤ shape.greatest

inductive Writes (shape : Shape) : Value → List Int → Prop where
  | number {v : Value} {n : Int} (halone : shape.alone = true) (hfits : shape.Fits v n) :
      Writes shape v [n]
  | numbers {items : List Value} {ns : List Int} (hlength : items.length ∈ shape.lengths)
      (hfits : List.Forall₂ shape.Fits items ns) : Writes shape (.array items) ns

theorem not_writes_float {shape : Shape} {x : Binary64} {ns : List Int} :
    ¬ shape.Writes (.float x) ns := by
  intro h
  cases h with
  | number _ hfits => cases hfits.left

end Shape

variable {α : Type} {read? : Reader α} {number : α → Int} {shape : Shape} {items : List Value}
  {least greatest : Int}

/-!
# Items of an array
-/

namespace ReadsWord

theorem forall₂_sound (h : ReadsWord read? number shape.least shape.greatest) {xs : List α}
    (hread : List.Forall₂ (fun v x => read? v = some x) items xs) :
    List.Forall₂ shape.Fits items (xs.map number) := by
  rw [List.forall₂_map_right_iff]
  exact hread.imp fun _ _ hx => h.sound hx

theorem forall₂_complete (h : ReadsWord read? number shape.least shape.greatest)
    {ns : List Int} (hrange : ∀ v ∈ items, v.NumberInRange)
    (hfits : List.Forall₂ shape.Fits items ns) :
    ∃ xs, List.Forall₂ (fun v x => read? v = some x) items xs ∧ xs.map number = ns := by
  induction hfits with
  | nil => exact ⟨[], .nil, rfl⟩
  | cons hn _ ih =>
      rw [List.forall_mem_cons] at hrange
      rcases h.complete hrange.left hn.left hn.right.left hn.right.right with ⟨x, hx, hnumber⟩
      rcases ih hrange.right with ⟨xs, hxs, hnumbers⟩
      exact ⟨x :: xs, .cons hx hxs, by rw [List.map_cons, hnumber, hnumbers]⟩

end ReadsWord

theorem numberInRange_of_mem (h : (Value.array items).Throughout Value.NumberInRange) :
    ∀ v ∈ items, v.NumberInRange :=
  fun _ hmem => (h.of_mem_items hmem).self

/-!
# Fields of some shape
-/

/-- Among the values of a domain a field takes those that write numbers in a shape, and its
components are these numbers as they are filled in.  A field may miss numbers of values that are
not kept as documents keep them. -/
structure ReadsShape (read? : Reader α) (domain : Value → Prop) (shape : Shape)
    (components : α → List Int) (fill : List Int → List Int) : Prop where
  sound {v : Value} {x : α} : domain v → read? v = some x →
    ∃ ns, shape.Writes v ns ∧ components x = fill ns
  complete {v : Value} {ns : List Int} : domain v → v.Throughout Value.NumberInRange →
    shape.Writes v ns → ∃ x, read? v = some x

theorem ReadsWord.readsShape (h : ReadsWord read? number least greatest) :
    ReadsShape read? (fun _ => True) ⟨true, [], least, greatest⟩ (fun x => [number x]) id where
  sound _ hread := ⟨_, .number rfl (h.sound hread), rfl⟩
  complete _ hrange hwrites := by
    cases hwrites with
    | number _ hfits =>
        rcases h.complete hrange.self hfits.left hfits.right.left hfits.right.right with
          ⟨x, hx, -⟩
        exact ⟨x, hx⟩
    | numbers hlength _ => cases hlength

/-!
# Rectangles
-/

theorem rectangle_eq_some_iff {v : Value} {r : Rectangle α} :
    rectangle read? v = some r ↔
      ∃ items, v = .array items ∧
        List.Forall₂ (fun v x => read? v = some x) items
          [r.left, r.top, r.width, r.height] := by
  constructor
  · intro h
    unfold rectangle at h
    split at h
    · rename_i left top width height
      rcases Option.bind_eq_some_iff.mp h with ⟨l, hl, h⟩
      rcases Option.bind_eq_some_iff.mp h with ⟨t, ht, h⟩
      rcases Option.bind_eq_some_iff.mp h with ⟨w, hw, h⟩
      rcases Option.bind_eq_some_iff.mp h with ⟨b, hb, h⟩
      cases h
      exact ⟨_, rfl, .cons hl (.cons ht (.cons hw (.cons hb .nil)))⟩
    · cases h
  · intro h
    rcases h with ⟨items, rfl, hread⟩
    rcases hread with _ | ⟨hl, _ | ⟨ht, _ | ⟨hw, _ | ⟨hb, _ | _⟩⟩⟩⟩
    simp only [rectangle, hl, ht, hw, hb]
    rfl

theorem rectangle_readsShape (h : ReadsWord read? number least greatest) :
    ReadsShape (rectangle read?) (fun _ => True) ⟨false, [4], least, greatest⟩
      (fun r => [r.left, r.top, r.width, r.height].map number) id where
  sound _ hread := by
    rcases rectangle_eq_some_iff.mp hread with ⟨items, rfl, hitems⟩
    exact ⟨_, .numbers (List.mem_singleton.mpr hitems.length_eq) (h.forall₂_sound hitems), rfl⟩
  complete _ hrange hwrites := by
    cases hwrites with
    | number halone _ => cases halone
    | numbers hlength hfits =>
        rcases h.forall₂_complete (numberInRange_of_mem hrange) hfits with ⟨xs, hitems, -⟩
        rw [hitems.length_eq] at hlength
        rcases List.length_eq_four.mp (List.mem_singleton.mp hlength) with
          ⟨left, top, width, height, rfl⟩
        exact ⟨⟨left, top, width, height⟩, rectangle_eq_some_iff.mpr ⟨_, rfl, hitems⟩⟩

/-!
# Frames
-/

theorem frames_eq_some_iff {v : Value} {first last : UInt32} :
    frames v = some (first, last) ↔
      (uint32 v = some first ∧ last = first) ∨
        ∃ items, v = .array items ∧
          List.Forall₂ (fun v x => uint32 v = some x) items [first, last] := by
  constructor
  · intro h
    unfold frames at h
    split at h
    · rcases Option.bind_eq_some_iff.mp h with ⟨m, hm, h⟩
      rcases Option.bind_eq_some_iff.mp h with ⟨n, hn, h⟩
      cases h
      exact Or.inr ⟨_, rfl, .cons hm (.cons hn .nil)⟩
    · cases h
    · rcases Option.bind_eq_some_iff.mp h with ⟨n, hn, h⟩
      cases h
      exact Or.inl ⟨hn, rfl⟩
  · intro h
    rcases h with ⟨hfirst, rfl⟩ | ⟨items, rfl, hread⟩
    · cases v <;> first | cases hfirst | (simp only [frames, hfirst]; rfl)
    · rcases hread with _ | ⟨hm, _ | ⟨hn, _ | _⟩⟩
      simp only [frames, hm, hn]
      rfl

def bothFrames : List Int → List Int
  | [n] => [n, n]
  | ns => ns

theorem frames_readsShape :
    ReadsShape frames (fun _ => True) ⟨true, [2], 0, 2 ^ 32 - 1⟩
      (fun x => [(x.1.toNat : Int), (x.2.toNat : Int)]) bothFrames where
  sound {v x} _ hread := by
    rcases frames_eq_some_iff.mp hread with ⟨hfirst, hlast⟩ | ⟨items, rfl, hitems⟩
    · refine ⟨_, .number rfl (uint32_readsWord.sound hfirst), ?_⟩
      rw [hlast]
      rfl
    · exact ⟨_, .numbers (List.mem_singleton.mpr hitems.length_eq)
        (uint32_readsWord.forall₂_sound hitems), rfl⟩
  complete {v ns} _ hrange hwrites := by
    cases hwrites with
    | number _ hfits =>
        rcases uint32_readsWord.complete hrange.self hfits.left hfits.right.left
          hfits.right.right with ⟨x, hx, -⟩
        exact ⟨(x, x), frames_eq_some_iff.mpr (Or.inl ⟨hx, rfl⟩)⟩
    | numbers hlength hfits =>
        rcases uint32_readsWord.forall₂_complete (numberInRange_of_mem hrange) hfits with
          ⟨xs, hitems, -⟩
        rw [hitems.length_eq] at hlength
        rcases List.length_eq_two.mp (List.mem_singleton.mp hlength) with ⟨first, last, rfl⟩
        exact ⟨(first, last), frames_eq_some_iff.mpr (Or.inr ⟨_, rfl, hitems⟩)⟩

/-!
# Colours
-/

theorem color_eq_some_iff {v : Value} {c : Color} (htext : v.string? = none) :
    color v = some c ↔
      ∃ items bytes, v = .array items ∧ List.Forall₂ (fun v x => byte v = some x) items bytes ∧
        Color.ofChannels? bytes = some c := by
  cases v with
  | string s => cases htext
  | array items => simp [color, Option.bind_eq_some_iff, mapM_eq_some_iff]
  | _ => simp [color]

theorem color_readsShape :
    ReadsShape color (fun v => v.string? = none) ⟨false, [3, 4], 0, 2 ^ 8 - 1⟩
      (fun c => c.channels.map fun x => (x.toNat : Int)) (fun ns => (ns ++ [255]).take 4) where
  sound htext hread := by
    rcases (color_eq_some_iff htext).mp hread with ⟨items, bytes, rfl, hitems, hc⟩
    rcases Color.ofChannels?_sound hc with ⟨hlength, hchannels⟩
    rw [← hitems.length_eq] at hlength
    refine ⟨_, .numbers hlength (byte_readsWord.forall₂_sound hitems), ?_⟩
    rw [hchannels, List.map_take, List.map_append]
    rfl
  complete htext hrange hwrites := by
    cases hwrites with
    | number halone _ => cases halone
    | numbers hlength hfits =>
        rcases byte_readsWord.forall₂_complete (numberInRange_of_mem hrange) hfits with
          ⟨bytes, hitems, -⟩
        rw [hitems.length_eq] at hlength
        rcases Color.ofChannels?_complete hlength with ⟨c, hc⟩
        exact ⟨c, (color_eq_some_iff htext).mpr ⟨_, bytes, rfl, hitems, hc⟩⟩

/-!
# Durations
-/

theorem duration_eq_some_iff {v : Value} {d : Duration} (htext : v.string? = none) :
    duration v = some d ↔ ∃ n, uint64 v = some n ∧ Duration.ofMilliseconds n = d := by
  have hread : duration v = (uint64 v).map Duration.ofMilliseconds := by
    cases v with
    | string s => cases htext
    | _ => rfl
  rw [hread, Option.map_eq_some_iff]

def inSeconds (ns : List Int) : List Int :=
  ns.flatMap fun n => [n / 1000, n % 1000 * 10 ^ 6]

theorem duration_readsShape :
    ReadsShape duration (fun v => v.string? = none) ⟨true, [], 0, 2 ^ 64 - 1⟩
      (fun d => [(d.seconds.toNat : Int), (d.nanoseconds.toNat : Int)]) inSeconds where
  sound htext hread := by
    rcases (duration_eq_some_iff htext).mp hread with ⟨n, hn, rfl⟩
    refine ⟨_, .number rfl (uint64_readsWord.sound hn), ?_⟩
    rw [Duration.seconds_ofMilliseconds, Duration.nanoseconds_ofMilliseconds]
    rfl
  complete htext hrange hwrites := by
    cases hwrites with
    | number _ hfits =>
        rcases uint64_readsWord.complete hrange.self hfits.left hfits.right.left
          hfits.right.right with ⟨n, hn, -⟩
        exact ⟨_, (duration_eq_some_iff htext).mpr ⟨n, hn, rfl⟩⟩
    | numbers hlength _ => cases hlength

end Field
end GameConfig
