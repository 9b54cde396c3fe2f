import GameConfig.Dictionary
import Mathlib.Data.List.Perm.Basic
import Mathlib.Data.List.Nodup

/-!
# Dictionaries seen through their look-up

A dictionary without repeated names is determined by what is found under each name.
Two such dictionaries have related entries under all names exactly when they are as
long as each other and every entry of the first one has a related one in the second:
the names of the second one are then used up.
-/

namespace GameConfig
namespace Dictionary

variable {α β : Type}

def Distinct (entries : Dictionary α) : Prop :=
  (entries.map Prod.fst).Nodup

instance (entries : Dictionary α) : Decidable entries.Distinct :=
  inferInstanceAs (Decidable (entries.map Prod.fst).Nodup)

theorem find?_eq_none_iff {name : String} {entries : Dictionary α} :
    find? name entries = none ↔ name ∉ entries.map Prod.fst := by
  induction entries with
  | nil =>
      simp
  | cons pair rest ih =>
      obtain ⟨other, entry⟩ := pair
      rw [find?_cons, List.map_cons, List.mem_cons]
      by_cases same : name = other
      · simp [same]
      · rw [if_neg same, ih]
        simp [same]

theorem mem_of_find? {name : String} {entry : α} {entries : Dictionary α}
    (h : find? name entries = some entry) : (name, entry) ∈ entries := by
  induction entries with
  | nil =>
      cases h
  | cons pair rest ih =>
      rw [find?_cons] at h
      split at h
      · rename_i same
        cases h
        exact same ▸ List.mem_cons_self
      · exact List.mem_cons_of_mem pair (ih h)

theorem Distinct.find?_of_mem {name : String} {entry : α} {entries : Dictionary α}
    (distinct : entries.Distinct) (h : (name, entry) ∈ entries) :
    find? name entries = some entry := by
  induction entries with
  | nil =>
      cases h
  | cons pair rest ih =>
      have hnodup := List.nodup_cons.mp distinct
      rw [find?_cons]
      cases h with
      | head =>
          exact if_pos rfl
      | tail _ hrest =>
          have hne : name ≠ pair.1 := by
            intro same
            exact hnodup.left (List.mem_map.mpr ⟨(name, entry), hrest, same⟩)
          rw [if_neg hne]
          exact ih hnodup.right hrest

theorem Distinct.names_perm {xs : Dictionary α} {ys : Dictionary β} (hx : xs.Distinct)
    (hsub : xs.map Prod.fst ⊆ ys.map Prod.fst) (hlength : ys.length ≤ xs.length) :
    (xs.map Prod.fst).Perm (ys.map Prod.fst) :=
  (List.subperm_of_subset hx hsub).perm_of_length_le (by simpa using hlength)

theorem Distinct.rel_find?_iff {R : α → β → Prop} {xs : Dictionary α} {ys : Dictionary β}
    (hx : xs.Distinct) (hy : ys.Distinct) :
    (∀ name, Option.Rel R (find? name xs) (find? name ys)) ↔
      xs.length = ys.length ∧
        ∀ name x, (name, x) ∈ xs → ∃ y, find? name ys = some y ∧ R x y := by
  constructor
  · intro hrel
    have hnames : ∀ name, name ∈ xs.map Prod.fst ↔ name ∈ ys.map Prod.fst := by
      intro name
      have hname := hrel name
      rw [← not_iff_not, ← find?_eq_none_iff, ← find?_eq_none_iff]
      generalize find? name xs = x? at *
      generalize find? name ys = y? at *
      cases hname with
      | some _ => simp
      | none => simp
    refine ⟨by simpa using ((List.perm_ext_iff_of_nodup hx hy).mpr hnames).length_eq, ?_⟩
    intro name x hmem
    have hname := hrel name
    rw [hx.find?_of_mem hmem] at hname
    generalize find? name ys = y? at *
    cases hname with
    | some hxy => exact ⟨_, rfl, hxy⟩
  · rintro ⟨hlength, hrel⟩ name
    have hsub : xs.map Prod.fst ⊆ ys.map Prod.fst := by
      intro name hname
      rcases List.mem_map.mp hname with ⟨⟨_, x⟩, hmem, rfl⟩
      rcases hrel _ x hmem with ⟨y, hfound, -⟩
      exact List.mem_map.mpr ⟨(_, y), mem_of_find? hfound, rfl⟩
    have hperm := hx.names_perm hsub (Nat.le_of_eq hlength.symm)
    cases hfound : find? name xs with
    | some x =>
        rcases hrel name x (mem_of_find? hfound) with ⟨y, hy', hxy⟩
        rw [hy']
        exact Option.Rel.some hxy
    | none =>
        rw [find?_eq_none_iff, hperm.mem_iff, ← find?_eq_none_iff] at hfound
        rw [hfound]
        exact Option.Rel.none

theorem Distinct.any_iff {p : String × α → Bool} {entries : Dictionary α}
    (distinct : entries.Distinct) :
    entries.any p = true ↔
      ∃ name entry, find? name entries = some entry ∧ p (name, entry) = true := by
  rw [List.any_eq_true]
  constructor
  · rintro ⟨⟨name, entry⟩, hmem, hp⟩
    exact ⟨name, entry, distinct.find?_of_mem hmem, hp⟩
  · rintro ⟨name, entry, hfound, hp⟩
    exact ⟨(name, entry), mem_of_find? hfound, hp⟩

theorem find?_map (f : α → β) (name : String) (entries : Dictionary α) :
    find? name (entries.map fun pair => (pair.1, f pair.2)) = (find? name entries).map f := by
  induction entries with
  | nil => rfl
  | cons pair rest ih =>
      obtain ⟨other, entry⟩ := pair
      rw [List.map_cons, find?_cons, find?_cons, ih]
      split
      · rfl
      · rfl

/-!
# Entering pairs one after the other
-/

theorem map_insert (f : α → β) (name : String) (entry : α) (entries : Dictionary α) :
    (insert name entry entries).map (fun pair => (pair.1, f pair.2)) =
      insert name (f entry) (entries.map fun pair => (pair.1, f pair.2)) := by
  induction entries with
  | nil => rfl
  | cons pair rest ih =>
      obtain ⟨other, old⟩ := pair
      rw [List.map_cons, insert, insert]
      split
      · rfl
      split
      · rfl
      · rw [List.map_cons, ih]

theorem map_ofList (f : α → β) (pairs : List (String × α)) :
    (ofList pairs).map (fun pair => (pair.1, f pair.2)) =
      ofList (pairs.map fun pair => (pair.1, f pair.2)) := by
  have hfold : ∀ entries : Dictionary α,
      (pairs.foldl (fun entries pair => insert pair.1 pair.2 entries) entries).map
          (fun pair => (pair.1, f pair.2)) =
        (pairs.map fun pair => (pair.1, f pair.2)).foldl
          (fun entries pair => insert pair.1 pair.2 entries)
          (entries.map fun pair => (pair.1, f pair.2)) := by
    induction pairs with
    | nil =>
        intro entries
        rfl
    | cons pair pairs ih =>
        intro entries
        rw [List.foldl_cons, ih, map_insert]
        rfl
  exact hfold []

theorem find?_foldl_insert (name : String) (pairs : List (String × α))
    (entries : Dictionary α) :
    find? name (pairs.foldl (fun entries pair => insert pair.1 pair.2 entries) entries) =
      (find? name (ofList pairs)).or (find? name entries) := by
  induction pairs generalizing entries with
  | nil => rfl
  | cons pair pairs ih =>
      rw [ofList, List.foldl_cons, List.foldl_cons, ih, ih, Option.or_assoc]
      by_cases same : name = pair.1
      · rw [same, find?_insert_self, find?_insert_self]
        rfl
      · rw [find?_insert_of_ne same, find?_insert_of_ne same]
        rfl

theorem find?_ofList_cons (name other : String) (entry : α) (pairs : List (String × α)) :
    find? name (ofList ((other, entry) :: pairs)) =
      (find? name (ofList pairs)).or (if name = other then some entry else none) :=
  find?_foldl_insert name pairs [(other, entry)]

/-!
# Searching after an entry
-/

theorem any_insert {p : String × α → Bool} {name : String} {entry : α}
    {entries : Dictionary α}
    (h : p (name, entry) = (find? name entries).any fun old => p (name, old)) :
    (insert name entry entries).any p = entries.any p := by
  induction entries with
  | nil =>
      simpa [insert] using h
  | cons pair rest ih =>
      obtain ⟨other, old⟩ := pair
      rw [find?_cons] at h
      by_cases same : name = other
      · subst same
        simp_all [insert]
      · rw [if_neg same] at h
        by_cases before : name < other
        · -- In a dictionary out of order the name may still stand further back.
          have hrest : p (name, entry) = true → rest.any p = true := by
            intro hentry
            rw [hentry, eq_comm, Option.any_eq_true] at h
            rcases h with ⟨found, hfound, hp⟩
            exact List.any_eq_true.mpr ⟨(name, found), mem_of_find? hfound, hp⟩
          cases hentry : p (name, entry) with
          | false => simp [insert, same, before, hentry]
          | true => simp [insert, same, before, hentry, hrest hentry]
        · simp [insert, same, before, ih h]

end Dictionary
end GameConfig
