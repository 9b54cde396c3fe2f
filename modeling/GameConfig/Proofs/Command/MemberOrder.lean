import GameConfig.Proofs.Command.Arises
import GameConfig.Proofs.Game.Rearranged
import GameConfig.Proofs.Json.Written

/-!
# Commands and the order of members

A command reads its texts for values and saved games in which members have no order of their
own.  So a text whose members are rearranged leads to the same output, in which members stand
in the order of their bytes, or to a failure for either text.
-/

namespace GameConfig
namespace Command

open Json

/-!
# What is printed
-/

def HasBytesAscending : Value → Prop
  | .object members => Dictionary.BytesAscending members
  | _ => True

def Evaluation.shown : Evaluation → Value
  | .value v => v
  | .truth b => .boolean b

/-- The compact and the pretty text of a value are those of one tree, in which the members of
every object stand in the order of their bytes. -/
def PrintsInOrder (v : Value) : Prop :=
  ∃ t : Tree, t.InByteOrder ∧ v.compactText = t.text .compact ∧ v.prettyText = t.text .pretty

theorem hasBytesAscending_of_ascending {v : Value} (h : v.Throughout Value.HasAscendingNames) :
    v.Throughout HasBytesAscending := by
  intro position w hw
  have hascending := h position w hw
  cases w with
  | object members => exact Dictionary.bytesAscending_iff.mpr hascending
  | _ => trivial

theorem printsInOrder_of_ascending {v : Value} (h : v.Throughout Value.HasAscendingNames) :
    PrintsInOrder v :=
  ⟨.ofValue v, Tree.inByteOrder_ofValue h, Tree.compactText_eq v, Tree.prettyText_eq v⟩

theorem names_of_evaluateSlot {slot : String} {text? : Option String} {asTruth : Bool}
    {r : Evaluation} (h : evaluateSlot slot text? asTruth = .ok r) :
    r.shown.Throughout Value.HasAscendingNames := by
  have hresult := toOption_evaluateSlot slot text? asTruth
  rw [toOption_eq_some_iff.mpr h, eq_comm, Option.bind_eq_some_iff] at hresult
  rcases hresult with ⟨e, -, hresult⟩
  rcases Option.map_eq_some_iff.mp hresult with ⟨state, -, hr⟩
  cases asTruth with
  | false =>
      cases hr
      exact (isDocument_of_evaluateSlot h).names
  | true =>
      cases hr
      exact Value.throughout_of_scalar rfl trivial

/-!
# Runs with the same output
-/

/-- Two runs that succeed with the same output, with the members in it, and in what is printed of
it, in order at all depths, or that both fail. -/
inductive Alike {α : Type} (shown : α → Value) : Except Failure α → Except Failure α → Prop where
  | success (a : α) (names : (shown a).Throughout HasBytesAscending)
      (printed : PrintsInOrder (shown a)) : Alike shown (.ok a) (.ok a)
  | failure (fault fault' : Failure) : Alike shown (.error fault) (.error fault')

/-- What runs that are alike print is one text, compact or pretty, of one tree in order. -/
theorem Alike.printed {α : Type} {shown : α → Value} {a b : α}
    (h : Alike shown (.ok a) (.ok b)) :
    ∃ t : Tree, t.InByteOrder ∧
      ((shown a).compactText = t.text .compact ∧ (shown b).compactText = t.text .compact) ∧
      ((shown a).prettyText = t.text .pretty ∧ (shown b).prettyText = t.text .pretty) := by
  cases h with
  | success a names printed =>
      rcases printed with ⟨t, hordered, hcompact, hpretty⟩
      exact ⟨t, hordered, ⟨hcompact, hcompact⟩, hpretty, hpretty⟩

theorem alike_of_toOption {α : Type} {shown : α → Value} {x y : Except Failure α}
    (h : x.toOption = y.toOption)
    (hnames : ∀ a, x = .ok a → (shown a).Throughout Value.HasAscendingNames) :
    Alike shown x y := by
  cases x with
  | error fault =>
      cases y with
      | error fault' => exact .failure fault fault'
      | ok b => cases h
  | ok a =>
      cases y with
      | error fault => cases h
      | ok b =>
          cases h
          exact .success a (hasBytesAscending_of_ascending (hnames a rfl))
            (printsInOrder_of_ascending (hnames a rfl))

/-!
# What rearranged texts are read for
-/

variable {t u : Tree}

theorem document?_of_rearranges (h : t.Rearranges u) (hnames : t.DistinctNames)
    (g g' : Spacing) : document? (t.text g) = document? (u.text g') := by
  ext1 v
  rw [document?, document?, toOption_eq_some_iff, toOption_eq_some_iff, readDocument_text_iff,
    readDocument_text_iff, Tree.blind_value? nestingLimit h hnames]

theorem state?_of_rearranges (h : t.Rearranges u) (hnames : t.DistinctNames)
    (g g' : Spacing) : state? (some (t.text g)) = state? (some (u.text g')) := by
  ext1 state
  rw [state?, state?, toOption_eq_some_iff, toOption_eq_some_iff, SaveState.read_text_iff,
    SaveState.read_text_iff, SaveState.blind_ofTree? h hnames]

/-!
# Commands
-/

/-- The order of the members in a text never matters, nor how the text is spaced out: as a
query, as the document of a query, as a slot and as a saved game it leads to the same output
or to a failure. -/
theorem alike_of_rearranges (h : t.Rearranges u) (hnames : t.DistinctNames)
    (g g' : Spacing) :
    (∀ text?, Alike id (resolveQuery (t.text g) text?) (resolveQuery (u.text g') text?)) ∧
    (∀ query, Alike id (resolveQuery query (some (t.text g)))
      (resolveQuery query (some (u.text g')))) ∧
    (∀ text? asTruth, Alike Evaluation.shown (evaluateSlot (t.text g) text? asTruth)
      (evaluateSlot (u.text g') text? asTruth)) ∧
    ∀ slot asTruth, Alike Evaluation.shown (evaluateSlot slot (some (t.text g)) asTruth)
      (evaluateSlot slot (some (u.text g')) asTruth) := by
  have hdocument := document?_of_rearranges h hnames g g'
  have hinput : input? (some (t.text g)) = input? (some (u.text g')) :=
    congrArg (Option.map some) hdocument
  have hstate := state?_of_rearranges h hnames g g'
  have hfound : ∀ {query : String} {text? : Option String} (v : Value),
      resolveQuery query text? = .ok v → v.Throughout Value.HasAscendingNames :=
    fun v hv => (isDocument_of_resolveQuery hv).names
  refine ⟨?_, ?_, ?_, ?_⟩
  · intro text?
    refine alike_of_toOption ?_ hfound
    rw [toOption_resolveQuery, toOption_resolveQuery, hdocument]
  · intro query
    refine alike_of_toOption ?_ hfound
    rw [toOption_resolveQuery, toOption_resolveQuery, hinput]
  · intro text? asTruth
    refine alike_of_toOption ?_ fun r hr => names_of_evaluateSlot hr
    rw [toOption_evaluateSlot, toOption_evaluateSlot, hdocument]
  · intro slot asTruth
    refine alike_of_toOption ?_ fun r hr => names_of_evaluateSlot hr
    rw [toOption_evaluateSlot, toOption_evaluateSlot, hstate]

/-- A text that is a directive, a condition and a saved game at once, with all its members
turned around. -/
theorem alike_of_turned_around :
    let flags : List (String × Tree) := [("torch", .boolean true), ("key", .boolean false)]
    let torch : List (String × Tree) := [("var", .string "torch"), ("scope", .string "flag")]
    let members (flags torch : List (String × Tree)) : List (String × Tree) :=
      [("flags", .object flags), ("or", .array [.object [("flag", .string "key")], .object torch]),
        ("path", .string "flags")]
    let t : Tree := .object (members flags torch)
    let u : Tree := .object (members flags.reverse torch.reverse).reverse
    t.Rearranges u ∧ t.DistinctNames ∧
      (resolveQuery (t.text .compact) (some (t.text .compact))).toOption =
        some (.object [("key", .boolean false), ("torch", .boolean true)]) ∧
      (evaluateSlot (t.text .compact) (some (t.text .compact)) true).toOption.map
        Evaluation.shown = some (.boolean true) ∧
      Alike id (resolveQuery (t.text .compact) (some (t.text .compact)))
        (resolveQuery (u.text .pretty) (some (t.text .compact))) ∧
      Alike id (resolveQuery (t.text .compact) (some (t.text .compact)))
        (resolveQuery (t.text .compact) (some (u.text .pretty))) ∧
      Alike Evaluation.shown (evaluateSlot (t.text .compact) (some (t.text .compact)) true)
        (evaluateSlot (u.text .pretty) (some (t.text .compact)) true) ∧
      Alike Evaluation.shown (evaluateSlot (t.text .compact) (some (t.text .compact)) true)
        (evaluateSlot (t.text .compact) (some (u.text .pretty)) true) := by
  intro flags torch members t u
  have hflags : (Tree.object flags).Rearranges (.object flags.reverse) :=
    .members (List.reverse_perm flags).symm
  have htorch : (Tree.object torch).Rearranges (.object torch.reverse) :=
    .members (List.reverse_perm torch).symm
  have h : t.Rearranges u :=
    .trans (.inObject [] "flags" _ hflags)
      (.trans (.inObject [("flags", .object flags.reverse)] "or" _ (.inArray [_] [] htorch))
        (.members (List.reverse_perm (members flags.reverse torch.reverse)).symm))
  have hnames : t.DistinctNames := by
    simp [t, members, flags, torch, Tree.distinctNames_object_iff, Tree.distinctNames_array_iff,
      Tree.DistinctNames.boolean, Tree.DistinctNames.string]
  rcases alike_of_rearranges h hnames .compact .pretty with ⟨hquery, hinput, hslot, hstate⟩
  exact ⟨h, hnames, by decide +kernel, by decide +kernel, hquery _, hinput _, hslot _ _, hstate _ _⟩

end Command
end GameConfig
