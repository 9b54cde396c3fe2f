import GameConfig.Proofs.Dictionary.Lookup
import Mathlib.Data.String.Basic

/-!
# Dictionaries in order

Entering a name keeps a dictionary in order, so that every dictionary that is built up from
pairs is.  Entering names in ascending order puts each one behind those that are already
there, so that a dictionary in order is what its own entries make up.
-/

namespace GameConfig
namespace Dictionary

variable {α : Type}

instance (entries : Dictionary α) : Decidable entries.Ascending :=
  inferInstanceAs (Decidable (entries.Pairwise fun a b => a.1 < b.1))

theorem Ascending.distinct {entries : Dictionary α} (h : entries.Ascending) :
    entries.Distinct := by
  rw [Distinct, List.Nodup, List.pairwise_map]
  exact h.imp fun hlt => hlt.ne

/-!
# Entering any names
-/

theorem mem_insert {name : String} {entry : α} {entries : Dictionary α} {pair : String × α}
    (h : pair ∈ insert name entry entries) : pair = (name, entry) ∨ pair ∈ entries := by
  induction entries with
  | nil => exact Or.inl (List.mem_singleton.mp h)
  | cons first rest ih =>
      obtain ⟨other, old⟩ := first
      rw [insert] at h
      split at h
      · exact (List.mem_cons.mp h).imp_right (List.mem_cons_of_mem _)
      split at h
      · exact List.mem_cons.mp h
      · rcases List.mem_cons.mp h with rfl | h
        · exact Or.inr List.mem_cons_self
        · exact (ih h).imp_right (List.mem_cons_of_mem _)

theorem mem_of_mem_ofList {pairs : List (String × α)} {pair : String × α}
    (h : pair ∈ ofList pairs) : pair ∈ pairs := by
  have hfold : ∀ entries : Dictionary α,
      pair ∈ pairs.foldl (fun entries pair => insert pair.1 pair.2 entries) entries →
        pair ∈ entries ∨ pair ∈ pairs := by
    clear h
    induction pairs with
    | nil =>
        intro entries hmem
        exact Or.inl hmem
    | cons first rest ih =>
        intro entries hmem
        rcases ih _ hmem with hmem | hmem
        · rcases mem_insert hmem with rfl | hmem
          · exact Or.inr List.mem_cons_self
          · exact Or.inl hmem
        · exact Or.inr (List.mem_cons_of_mem _ hmem)
  exact (hfold [] h).resolve_left List.not_mem_nil

theorem Ascending.insert {entries : Dictionary α} (h : entries.Ascending) (name : String)
    (entry : α) : Ascending (insert name entry entries) := by
  induction entries with
  | nil => exact List.pairwise_singleton _ _
  | cons first rest ih =>
      obtain ⟨other, old⟩ := first
      have hcons := h
      rw [Ascending, List.pairwise_cons] at h
      rw [Dictionary.insert]
      split
      · rename_i hsame
        subst hsame
        exact List.pairwise_cons.mpr h
      split
      · rename_i hlt
        refine List.pairwise_cons.mpr ⟨?_, hcons⟩
        rw [List.forall_mem_cons]
        exact ⟨hlt, fun pair hpair => hlt.trans (h.left pair hpair)⟩
      · rename_i hne hnlt
        have hlt : other < name := lt_of_le_of_ne (le_of_not_gt hnlt) (Ne.symm hne)
        refine List.pairwise_cons.mpr ⟨?_, ih h.right⟩
        intro pair hpair
        rcases mem_insert hpair with rfl | hpair
        · exact hlt
        · exact h.left pair hpair

theorem Ascending.foldl_insert {entries : Dictionary α} (h : entries.Ascending)
    (pairs : List (String × α)) :
    Ascending (pairs.foldl (fun entries pair => Dictionary.insert pair.1 pair.2 entries)
      entries) := by
  induction pairs generalizing entries with
  | nil => exact h
  | cons pair pairs ih => exact ih (h.insert pair.1 pair.2)

theorem ascending_ofList (pairs : List (String × α)) : (ofList pairs).Ascending :=
  Ascending.foldl_insert List.Pairwise.nil pairs

/-!
# Entering names in order
-/

theorem insert_of_forall_lt {name : String} {entry : α} {entries : Dictionary α}
    (h : ∀ pair ∈ entries, pair.1 < name) :
    insert name entry entries = entries ++ [(name, entry)] := by
  induction entries with
  | nil => rfl
  | cons pair rest ih =>
      obtain ⟨other, old⟩ := pair
      rw [List.forall_mem_cons] at h
      rw [insert, if_neg h.left.ne', if_neg h.left.asymm, ih h.right]
      rfl

theorem foldl_insert_of_ascending {entries pairs : Dictionary α}
    (h : Ascending (entries ++ pairs)) :
    pairs.foldl (fun entries pair => insert pair.1 pair.2 entries) entries =
      entries ++ pairs := by
  induction pairs generalizing entries with
  | nil => rw [List.foldl_nil, List.append_nil]
  | cons pair pairs ih =>
      have hlast : ∀ other ∈ entries, other.1 < pair.1 := by
        intro other hother
        exact (List.pairwise_append.mp h).right.right other hother pair List.mem_cons_self
      rw [List.foldl_cons, insert_of_forall_lt hlast, ih]
      · rw [List.append_assoc]
        rfl
      · rwa [List.append_assoc]

theorem ofList_of_ascending {entries : Dictionary α} (h : entries.Ascending) :
    ofList entries = entries :=
  foldl_insert_of_ascending h

theorem ascending_map_iff {β : Type} {f : α → β} {entries : Dictionary α} :
    Ascending (entries.map fun pair => (pair.1, f pair.2)) ↔ entries.Ascending := by
  rw [Ascending, List.pairwise_map]
  rfl

/-!
# The same names in another order
-/

theorem insert_perm {name : String} {entry : α} {entries : Dictionary α}
    (h : name ∉ entries.map Prod.fst) :
    (insert name entry entries).Perm ((name, entry) :: entries) := by
  induction entries with
  | nil => exact .refl _
  | cons first rest ih =>
      obtain ⟨other, old⟩ := first
      rw [List.map_cons, List.mem_cons, not_or] at h
      rw [insert, if_neg h.left]
      split
      · exact .refl _
      · exact ((ih h.right).cons _).trans (.swap _ _ _)

theorem foldl_insert_perm {entries pairs : Dictionary α} (h : Distinct (entries ++ pairs)) :
    (pairs.foldl (fun entries pair => insert pair.1 pair.2 entries) entries).Perm
      (entries ++ pairs) := by
  induction pairs generalizing entries with
  | nil => rw [List.foldl_nil, List.append_nil]
  | cons pair pairs ih =>
      have hpairs : (pair :: entries ++ pairs).Perm (entries ++ pair :: pairs) :=
        List.perm_middle.symm
      have hdistinct : Distinct (pair :: entries ++ pairs) :=
        (hpairs.map Prod.fst).nodup_iff.mpr h
      have hfresh : pair.1 ∉ entries.map Prod.fst := by
        intro hmem
        refine (List.nodup_cons.mp hdistinct).left ?_
        exact List.map_subset _ (List.subset_append_left entries pairs) hmem
      have hinsert : (insert pair.1 pair.2 entries ++ pairs).Perm (pair :: entries ++ pairs) :=
        (insert_perm hfresh).append_right pairs
      rw [List.foldl_cons]
      exact (ih ((hinsert.map Prod.fst).nodup_iff.mpr hdistinct)).trans (hinsert.trans hpairs)

theorem ofList_perm {pairs : Dictionary α} (h : pairs.Distinct) : (ofList pairs).Perm pairs := by
  have hpairs : Distinct ([] ++ pairs) := h
  exact foldl_insert_perm hpairs

/-- Pairs with different names make up the same dictionary in whatever order they are
entered, as it is those pairs put in order. -/
theorem ofList_eq_of_perm {pairs others : Dictionary α} (h : pairs.Perm others)
    (hdistinct : pairs.Distinct) : ofList pairs = ofList others := by
  have hothers : others.Distinct := (h.map Prod.fst).nodup_iff.mp hdistinct
  have hsame : (ofList pairs).Perm (ofList others) :=
    (ofList_perm hdistinct).trans (h.trans (ofList_perm hothers).symm)
  have hasymm : ∀ a b : String × α, a ∈ ofList pairs → b ∈ ofList others →
      a.1 < b.1 → b.1 < a.1 → a = b := by
    intro a b _ _ hab hba
    exact absurd hba hab.asymm
  exact hsame.eq_of_pairwise hasymm (ascending_ofList pairs) (ascending_ofList others)

end Dictionary
end GameConfig
