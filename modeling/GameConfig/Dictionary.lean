/-!
# Dictionaries

A dictionary is a list of named entries in ascending order of name.  Names are
ordered by code point, which is also the order of their UTF-8 bytes.  Entering a
name that is already there replaces its entry.
-/

namespace GameConfig

abbrev Dictionary (α : Type) := List (String × α)

namespace Dictionary

variable {α : Type}

def find? (name : String) : Dictionary α → Option α
  | [] => none
  | (other, entry) :: rest =>
      if name = other then some entry else find? name rest

def insert (name : String) (entry : α) : Dictionary α → Dictionary α
  | [] => [(name, entry)]
  | (other, old) :: rest =>
      if name = other then (name, entry) :: rest
      else if name < other then (name, entry) :: (other, old) :: rest
      else (other, old) :: insert name entry rest

def ofList (pairs : List (String × α)) : Dictionary α :=
  pairs.foldl (fun entries pair => entries.insert pair.1 pair.2) []

def Ascending (entries : Dictionary α) : Prop :=
  entries.Pairwise fun a b => a.1 < b.1

/-!
# Looking up after an entry
-/

@[simp] theorem find?_nil (name : String) : find? name ([] : Dictionary α) = none := rfl

theorem find?_cons (name other : String) (entry : α) (rest : Dictionary α) :
    find? name ((other, entry) :: rest) =
      if name = other then some entry else find? name rest := rfl

@[simp] theorem find?_insert_self (name : String) (entry : α) (entries : Dictionary α) :
    find? name (insert name entry entries) = some entry := by
  induction entries with
  | nil =>
      simp [insert, find?]
  | cons pair rest ih =>
      obtain ⟨other, old⟩ := pair
      by_cases same : name = other
      · simp [insert, find?, same]
      · by_cases before : name < other
        · simp [insert, find?, same, before]
        · simp [insert, find?, same, before, ih]

theorem find?_insert_of_ne {name other : String} (different : name ≠ other) (entry : α)
    (entries : Dictionary α) :
    find? name (insert other entry entries) = find? name entries := by
  induction entries with
  | nil =>
      simp [insert, find?, different]
  | cons pair rest ih =>
      obtain ⟨third, old⟩ := pair
      by_cases same : other = third
      · subst same
        simp [insert, find?, different]
      · by_cases before : other < third
        · simp [insert, find?, same, before, different]
        · simp [insert, find?, same, before, ih]

end Dictionary

end GameConfig
