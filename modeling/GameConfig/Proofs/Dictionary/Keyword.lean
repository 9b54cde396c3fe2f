import GameConfig.Keyword
import GameConfig.Proofs.Dictionary.Lookup
import Mathlib.Data.List.Nodup

/-!
# Keywords among the names of a dictionary

Where a dictionary has several keywords of one type, the first of them in the order of the type
decides.  What stands under other names does not count.
-/

namespace GameConfig

/-- A keyword type that lists all of its elements and spells no two of them alike. -/
class LawfulKeyword (α : Type) [Keyword α] : Prop where
  mem_all (a : α) : a ∈ (Keyword.all : List α)
  word_injective : Function.Injective (Keyword.word : α → String)

theorem LawfulKeyword.of_nodup {α : Type} [Keyword α] (hall : ∀ a : α, a ∈ Keyword.all)
    (hwords : (Keyword.words α).Nodup) : LawfulKeyword α where
  mem_all := hall
  word_injective a b h := List.inj_on_of_nodup_map hwords (hall a) (hall b) h

namespace Keyword

variable {α β : Type} [Keyword α] {entries : Dictionary β} {a : α} {entry : β}

theorem ofWord?_eq_some_iff [LawfulKeyword α] {text : String} :
    ofWord? text = some a ↔ text = word a := by
  constructor
  · intro h
    have hword := List.find?_some h
    exact (eq_of_beq hword).symm
  · intro h
    subst h
    have hsome : (ofWord? (word a) : Option α).isSome = true :=
      List.find?_isSome.mpr ⟨a, LawfulKeyword.mem_all a, beq_self_eq_true _⟩
    rcases Option.isSome_iff_exists.mp hsome with ⟨other, hother⟩
    have hword := List.find?_some hother
    rw [hother, LawfulKeyword.word_injective (eq_of_beq hword)]

structure IsFirst (entries : Dictionary β) (a : α) (entry : β) : Prop where
  found : entries.find? (word a) = some entry
  missing_before : ∃ before behind, (all : List α) = before ++ a :: behind ∧
    ∀ earlier ∈ before, entries.find? (word earlier) = none

theorem findSome?_eq_some_iff :
    (all.findSome? fun b : α => (entries.find? (word b)).map (b, ·)) = some (a, entry) ↔
      IsFirst entries a entry := by
  rw [List.findSome?_eq_some_iff]
  simp only [Option.map_eq_none_iff]
  constructor
  · intro h
    rcases h with ⟨before, other, behind, hall, hfound, hbefore⟩
    rcases Option.map_eq_some_iff.mp hfound with ⟨entry', hentry, hpair⟩
    cases hpair
    exact ⟨hentry, before, behind, hall, hbefore⟩
  · intro h
    rcases h with ⟨hfound, before, behind, hall, hbefore⟩
    exact ⟨before, a, behind, hall, by rw [hfound, Option.map_some], hbefore⟩

theorem findSome?_eq_none_iff [LawfulKeyword α] :
    (all.findSome? fun b : α => (entries.find? (word b)).map (b, ·)) = none ↔
      ∀ b : α, entries.find? (word b) = none := by
  rw [List.findSome?_eq_none_iff]
  simp only [Option.map_eq_none_iff]
  exact ⟨fun h b => h b (LawfulKeyword.mem_all b), fun h b _ => h b⟩

theorem findSome?_congr {others : Dictionary β}
    (h : ∀ name ∈ words α, entries.find? name = others.find? name) :
    (all.findSome? fun b : α => (entries.find? (word b)).map (b, ·)) =
      all.findSome? fun b : α => (others.find? (word b)).map (b, ·) := by
  have hwords : ∀ b ∈ (all : List α), entries.find? (word b) = others.find? (word b) := by
    intro b hb
    exact h (word b) (List.mem_map_of_mem hb)
  generalize (all : List α) = elements at hwords
  induction elements with
  | nil => rfl
  | cons b rest ih =>
      rw [List.forall_mem_cons] at hwords
      rw [List.findSome?_cons, List.findSome?_cons, hwords.left, ih hwords.right]

end Keyword

end GameConfig
