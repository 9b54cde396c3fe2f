import GameConfig.Proofs.Dictionary.Ascending
import GameConfig.Proofs.Json.Document

/-!
# Scanners that mirror others

A text can be read for different things.  One scanner is mirrored by another one if whatever
it takes, the other one takes up to the same rest for an image of it.  Lists and objects are
mirrored if their items are.
-/

namespace GameConfig
namespace Json

variable {α β : Type} {f : α → β} {item : Scan α} {item' : Scan β}

/-- Whatever the first scanner takes, the second one takes for its image. -/
def Mirrors (f : α → β) (scan : Scan α) (scan' : Scan β) : Prop :=
  ∀ ⦃s a rest⦄, Takes scan s a rest → Takes scan' s (f a) rest

theorem Mirrors.elements (h : Mirrors f item item') (first : Bool) :
    Mirrors (List.map f) (elements item first) (elements item' first) := by
  intro s items rest htaken
  induction items generalizing s first with
  | nil => exact takes_elements_nil_iff.mpr (takes_elements_nil_iff.mp htaken)
  | cons a items ih =>
      rcases takes_elements_cons_iff.mp htaken with ⟨t, u, hnext, ha, hrest⟩
      exact takes_elements_cons_iff.mpr ⟨t, u, hnext, h ha, ih false hrest⟩

theorem Mirrors.members {κ : Type} {name : Scan κ} (h : Mirrors f item item') (first : Bool) :
    Mirrors (List.map fun pair => (pair.1, f pair.2)) (members name item first)
      (members name item' first) := by
  intro s pairs rest htaken
  induction pairs generalizing s first with
  | nil => exact takes_members_nil_iff.mpr (takes_members_nil_iff.mp htaken)
  | cons pair pairs ih =>
      obtain ⟨key, a⟩ := pair
      rcases takes_members_cons_iff.mp htaken with ⟨t, u, w, hnext, hcolon, ha, hrest⟩
      exact takes_members_cons_iff.mpr ⟨t, u, w, hnext, hcolon, h ha, ih false hrest⟩

end Json
end GameConfig
