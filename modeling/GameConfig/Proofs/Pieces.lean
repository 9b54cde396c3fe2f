import GameConfig.Pieces

/-!
# Cutting and joining

Cutting a text at a mark undoes joining pieces with the mark, where no piece has the mark in it.
-/

namespace GameConfig

variable {mark : Char} {parts : List (List Char)}

theorem pieces_eq_splitOn (mark : Char) (s : List Char) : pieces mark s = s.splitOn mark := by
  induction s with
  | nil => rfl
  | cons c rest ih =>
      rw [pieces, List.splitOn_cons_eq_if_modifyHead, ih]
      by_cases hmark : c = mark
      · rw [if_pos hmark, if_pos (beq_iff_eq.mpr hmark)]
      · rw [if_neg hmark, if_neg (by simpa using hmark)]
        -- There is always a first piece for the character to go into.
        cases hrest : rest.splitOn mark with
        | nil => exact absurd hrest (List.splitOn_ne_nil _ _)
        | cons piece more => rfl

theorem intercalate_pieces (mark : Char) (s : List Char) :
    [mark].intercalate (pieces mark s) = s := by
  rw [pieces_eq_splitOn, List.intercalate_splitOn]

theorem pieces_intercalate (hmark : ∀ part ∈ parts, mark ∉ part) (hparts : parts ≠ []) :
    pieces mark ([mark].intercalate parts) = parts := by
  rw [pieces_eq_splitOn, List.splitOn_intercalate mark hmark hparts]

end GameConfig
