import GameConfig.Field.Basic
import Mathlib.Logic.Nontrivial.Basic

/-!
# Values taken and values declined

To a caller a reader shows only with a default.  It takes a value if every caller gets the same
result from it, and declines a value if every caller gets back the default.

A reader never sees the default, so that `Reader.decides` holds of all readers alike.  What it
says about a field lies in the field being a reader, with `Reader.orDefault` as the one way for a
default to get in.  That is how the fields are defined: the flag, the four whole numbers, doubles,
singles, texts, keywords, frames and both rectangles in `Field.Basic`, colours in `Field.Color`
and times in `Field.Duration`.
-/

namespace GameConfig
namespace Reader

variable {α : Type} {read? : Reader α} {v : Value} {x : α}

def Takes (read? : Reader α) (v : Value) (x : α) : Prop :=
  ∀ default, read?.orDefault v default = x

def Declines (read? : Reader α) (v : Value) : Prop :=
  ∀ default, read?.orDefault v default = default

theorem takes_of_eq_some (h : read? v = some x) : read?.Takes v x := by
  intro default
  rw [orDefault, h, Option.getD_some]

theorem declines_of_eq_none (h : read? v = none) : read?.Declines v := by
  intro default
  rw [orDefault, h, Option.getD_none]

/-- A result is the default of the caller, or the same for all callers. -/
def Decides (read? : Reader α) (v : Value) : Prop :=
  read?.Declines v ∨ ∃ x, read?.Takes v x

theorem decides (read? : Reader α) (v : Value) : read?.Decides v := by
  cases h : read? v with
  | none => exact Or.inl (declines_of_eq_none h)
  | some x => exact Or.inr ⟨x, takes_of_eq_some h⟩

theorem takes_iff [Nontrivial α] : read?.Takes v x ↔ read? v = some x := by
  refine ⟨fun htakes => ?_, takes_of_eq_some⟩
  cases h : read? v with
  | some y => rw [← htakes x, orDefault, h, Option.getD_some]
  | none =>
      rcases exists_ne x with ⟨default, hne⟩
      exact absurd ((declines_of_eq_none h default).symm.trans (htakes default)) hne

end Reader
end GameConfig
