import GameConfig.Proofs.Pieces
import GameConfig.Proofs.Query.Notation

/-!
# Dotted texts as paths

A dotted text leads where the names between its dots lead, empty names included.  Cutting at
dots undoes joining with dots for every list of names but the empty one.  The empty text stands
for that list and stays where it is, so that a single empty name is the one list which no dotted
text stands for.
-/

namespace GameConfig

namespace Query

/-!
# Names joined by dots
-/

def dottedNames (text : String) : List String :=
  (text.split '.').toList.map String.Slice.copy

theorem dottedNames_eq_splitOn (text : String) :
    dottedNames text = (text.toList.splitOn '.').map String.ofList :=
  String.toList_split_char

theorem dottedNames_intercalate {names : List String}
    (hdots : ∀ name ∈ names, '.' ∉ name.toList) (hnames : names ≠ []) :
    dottedNames (".".intercalate names) = names := by
  have hpieces : ∀ piece ∈ names.map String.toList, '.' ∉ piece := by
    intro piece hpiece
    rcases List.mem_map.mp hpiece with ⟨name, hname, rfl⟩
    exact hdots name hname
  have hcut : List.splitOn '.' (List.intercalate ['.'] (names.map String.toList)) =
      names.map String.toList :=
    List.splitOn_intercalate '.' hpieces (by simpa using hnames)
  rw [dottedNames_eq_splitOn, String.toList_intercalate]
  show (List.splitOn '.' (List.intercalate ['.'] _)).map String.ofList = names
  rw [hcut, List.map_map]
  simp [Function.comp_def]

theorem intercalate_ne_empty {names : List String} (hnone : names ≠ [])
    (hempty : names ≠ [""]) : ".".intercalate names ≠ "" := by
  cases names with
  | nil => exact absurd rfl hnone
  | cons name rest =>
      cases rest with
      | nil =>
          rw [String.intercalate_singleton]
          intro hname
          exact hempty (by rw [hname])
      | cons next rest =>
          rw [String.intercalate_cons_cons]
          simp

/-!
# Routes
-/

def namesPath (names : List String) : Value :=
  .array (names.map Value.string)

theorem pathRoute_namesPath (names : List String) :
    pathRoute (namesPath names) = names.map Segment.name := by
  rw [namesPath, pathRoute, List.map_map]
  rfl

theorem pathRoute_string {text : String} (h : text ≠ "") :
    pathRoute (.string text) = pathRoute (namesPath (dottedNames text)) := by
  have hchars : text.toList ≠ [] := by
    simpa using h
  rw [pathRoute_namesPath, dottedNames_eq_splitOn, ← pieces_eq_splitOn, List.map_map, pathRoute,
    dotted]
  cases hlist : text.toList with
  | nil => exact absurd hlist hchars
  | cons c rest => rfl

theorem pathRoute_empty : pathRoute (.string "") = pathRoute (namesPath []) := rfl

theorem pathRoute_intercalate {names : List String}
    (hdots : ∀ name ∈ names, '.' ∉ name.toList) (hempty : names ≠ [""]) :
    pathRoute (.string (".".intercalate names)) = pathRoute (namesPath names) := by
  by_cases hnone : names = []
  · subst hnone
    exact pathRoute_empty
  · rw [pathRoute_string (intercalate_ne_empty hnone hempty), dottedNames_intercalate hdots hnone]

theorem resolveAt_path_congr {path path' : Value} (h : pathRoute path = pathRoute path')
    (node? inner? fallback? : Option Value) :
    (ofValue (written pathName path inner? fallback?)).resolveAt node? =
      (ofValue (written pathName path' inner? fallback?)).resolveAt node? := by
  rw [ofValue_written_path, ofValue_written_path, h]

/-- Names without dots, joined by dots, lead where the array of these names leads, unless they
are a single empty name.  Every text that is not empty leads where the names between its dots
lead, and the empty text where no names lead.  The node may itself be missing. -/
theorem dotted_path_resolves_as_names (node? inner? fallback? : Option Value) :
    (∀ names : List String, (∀ name ∈ names, '.' ∉ name.toList) → names ≠ [""] →
      (ofValue (written pathName (.string (".".intercalate names)) inner? fallback?)).resolveAt
          node? =
        (ofValue (written pathName (namesPath names) inner? fallback?)).resolveAt node?) ∧
    (∀ text : String, text ≠ "" →
      (ofValue (written pathName (.string text) inner? fallback?)).resolveAt node? =
        (ofValue (written pathName (namesPath (dottedNames text)) inner? fallback?)).resolveAt
          node?) ∧
    (ofValue (written pathName (.string "") inner? fallback?)).resolveAt node? =
      (ofValue (written pathName (namesPath []) inner? fallback?)).resolveAt node? := by
  constructor
  · intro names hdots hempty
    exact resolveAt_path_congr (pathRoute_intercalate hdots hempty) node? inner? fallback?
  constructor
  · intro text htext
    exact resolveAt_path_congr (pathRoute_string htext) node? inner? fallback?
  · exact resolveAt_path_congr pathRoute_empty node? inner? fallback?

theorem dotted_path_of_empty_names :
    let node : Value := .object [("", .object [("", .object [("b", .null)]), ("b", .integer 7)])]
    let names : List String := ["", "", "b"]
    let found : Answer := .found (.document [.member "", .member "", .member "b"]) .null
    (∀ name ∈ names, '.' ∉ name.toList) ∧ names ≠ [""] ∧ "..b" ≠ "" ∧
      (ofValue (written pathName (namesPath names) none none)).resolveAt (some node) = found ∧
      (ofValue (written pathName (.string (".".intercalate names)) none none)).resolveAt
        (some node) = found ∧
      (ofValue (written pathName (namesPath (dottedNames "..b")) none none)).resolveAt
        (some node) = found := by
  intro node names found
  have hdots : ∀ name ∈ names, '.' ∉ name.toList := by
    decide
  have hempty : names ≠ [""] := by
    decide
  have htext : "..b" ≠ "" := by
    decide
  have hjoined : ".".intercalate names = "..b" := by
    decide
  have hfound : (ofValue (written pathName (namesPath names) none none)).resolveAt (some node) =
      found := by
    rfl
  rcases dotted_path_resolves_as_names (some node) none none with ⟨hjoin, hcut, -⟩
  have hsame := hjoin names hdots hempty
  have hpieces := hcut "..b" htext
  rw [hjoined] at hsame ⊢
  exact ⟨hdots, hempty, htext, hfound, hsame.trans hfound,
    hpieces.symm.trans (hsame.trans hfound)⟩

example :
    let node : Value := .object [("", .integer 7)]
    (ofValue (written pathName (.string "") none none)).resolve node =
        .found (.document []) node ∧
      (ofValue (written pathName (namesPath [""]) none none)).resolve node =
        .found (.document [.member ""]) (.integer 7) := by
  exact ⟨rfl, rfl⟩

end Query
end GameConfig
