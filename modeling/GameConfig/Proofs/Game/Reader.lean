import GameConfig.Game.SaveState.Reader
import GameConfig.Proofs.Game.WellFormed
import GameConfig.Proofs.Json.Mirror

/-!
# What the reader of saved games takes

The scanners of a saved game are mirrored by the one for values: whatever is taken for a
scalar, a list or a dictionary of some kind can be taken for the value that it is.  The parts
that are read are in order.
-/

namespace GameConfig
namespace SaveState

open Json

variable {α : Type} {s rest : List Char}

/-!
# Kinds
-/

theorem takes_scalar {expected : Expected} {accept? : Value → Option α} {a : α}
    (h : Takes (scalar expected accept?) s a rest) :
    ∃ v, accept? v = some a ∧
      ∀ contents? : Option (Scan Value), Takes (valueWithin contents?) s v rest := by
  rcases h with ⟨shorter, h⟩
  rcases hskip : skipSpace s with ⟨text, le⟩
  unfold scalar at h
  rw [hskip] at h
  split at h
  · cases h
  · cases h
  rcases bind_eq_ok_iff.mp h with ⟨⟨v, r⟩, hcarried, h⟩
  rcases map_eq_ok_iff.mp hcarried with ⟨found, hvalue, hfound⟩
  cases hfound
  dsimp only at h
  split at h
  · rename_i haccept
    cases h
    refine ⟨found.1, haccept, ?_⟩
    cases text with
    | nil => cases hvalue
    | cons c t =>
        rcases exists_gap hskip with ⟨gap, hgap, hc, rfl⟩
        intro contents?
        rw [takes_valueWithin_gap hgap hc]
        -- Only a value without parts is taken where no container may be opened.
        rcases takes_valueWithin_cases ⟨found.2.shorter, hvalue⟩ with ⟨_, _, _, _, _, _,
          ⟨_, _, _, hcontents, _⟩ | ⟨_, _, _, hcontents, _⟩ | ⟨_, _, hscalar⟩⟩
        · cases hcontents
        · cases hcontents
        · exact hscalar contents?
  · cases h

theorem not_takes_containerMissing {expected : Expected} {a : α} :
    ¬Takes (containerMissing expected) s a rest := by
  intro h
  rcases takes_scalar h with ⟨v, haccept, -⟩
  cases haccept

theorem takes_listOf {item : Scan α} {items : List α} (h : Takes (listOf item) s items rest) :
    ∃ gap t, IsBlank gap ∧ s = gap ++ '[' :: t ∧ Takes (elements item true) t items rest := by
  rcases h with ⟨shorter, h⟩
  unfold listOf at h
  split at h
  · rename_i t le hskip
    rcases exists_gap hskip with ⟨gap, hgap, -, hs⟩
    rcases map_eq_ok_iff.mp h with ⟨found, hitems, hfound⟩
    cases hfound
    exact ⟨gap, t, hgap, hs, found.2.shorter, hitems⟩
  · exact absurd ⟨shorter, h⟩ not_takes_containerMissing

theorem takes_dictionaryOf {item : Scan α} {entries : Dictionary α}
    (h : Takes (dictionaryOf item) s entries rest) :
    ∃ gap t pairs, IsBlank gap ∧ s = gap ++ '{' :: t ∧
      Takes (members string item true) t pairs rest ∧ entries = Dictionary.ofList pairs := by
  rcases h with ⟨shorter, h⟩
  unfold dictionaryOf at h
  split at h
  · rename_i t le hskip
    rcases exists_gap hskip with ⟨gap, hgap, -, hs⟩
    rcases bind_eq_ok_iff.mp h with ⟨found, hpairs, hfound⟩
    cases hfound
    exact ⟨gap, t, found.1, hgap, hs, ⟨found.2.shorter, hpairs⟩, rfl⟩
  · exact absurd ⟨shorter, h⟩ not_takes_containerMissing

/-!
# Kinds mirrored by values
-/

theorem scalar_mirrors {expected : Expected} {accept? : Value → Option α} {f : α → Value}
    (h : ∀ v a, accept? v = some a → v = f a) (room : Nat) :
    Mirrors f (scalar expected accept?) (value room) := by
  intro s a rest htaken
  rcases takes_scalar htaken with ⟨v, haccept, hvalue⟩
  rw [← h v a haccept]
  cases room with
  | zero => exact hvalue none
  | succ room => exact hvalue (some (value room))

theorem listOf_mirrors {item : Scan α} {f : α → Value} {room : Nat}
    (h : Mirrors f item (value room)) :
    Mirrors (fun items => .array (items.map f)) (listOf item) (value (room + 1)) := by
  intro s items rest htaken
  rcases takes_listOf htaken with ⟨gap, t, hgap, rfl, hitems⟩
  exact valueWithin_array hgap (h.elements true hitems)

theorem takes_value_of_dictionaryOf {item : Scan α} {f : α → Value} {room : Nat}
    (h : Mirrors f item (value room)) {entries : Dictionary α}
    (htaken : Takes (dictionaryOf item) s entries rest) :
    let members := entries.map fun entry => (entry.1, f entry.2)
    Dictionary.Ascending members ∧ Takes (value (room + 1)) s (.object members) rest := by
  rcases takes_dictionaryOf htaken with ⟨gap, t, pairs, hgap, rfl, hpairs, rfl⟩
  constructor
  · exact Dictionary.ascending_map_iff.mpr (Dictionary.ascending_ofList pairs)
  · rw [Dictionary.map_ofList]
    exact valueWithin_object hgap (h.members true hpairs)

/-!
# Parts
-/

def itemList (items : List String) : Value :=
  .array (items.map Value.string)

def stored (state : SaveState) : Part → Dictionary Value
  | .flags => state.flags.map fun entry => (entry.1, .boolean entry.2)
  | .counters => state.counters.map fun entry => (entry.1, .integer entry.2)
  | .quests => state.quests.map fun entry => (entry.1, .integer entry.2)
  | .text => state.text.map fun entry => (entry.1, .string entry.2)
  | .inventories => state.inventories.map fun entry => (entry.1, itemList entry.2)

variable {state state' : SaveState}

theorem wellFormed_iff_stored : state.WellFormed ↔ ∀ part, (state.stored part).Ascending := by
  constructor
  · intro h part
    cases part with
    | flags => exact Dictionary.ascending_map_iff.mpr h.flags
    | counters => exact Dictionary.ascending_map_iff.mpr h.counters
    | quests => exact Dictionary.ascending_map_iff.mpr h.quests
    | text => exact Dictionary.ascending_map_iff.mpr h.text
    | inventories => exact Dictionary.ascending_map_iff.mpr h.inventories
  · intro h
    exact ⟨Dictionary.ascending_map_iff.mp (h .flags),
      Dictionary.ascending_map_iff.mp (h .counters), Dictionary.ascending_map_iff.mp (h .quests),
      Dictionary.ascending_map_iff.mp (h .text),
      Dictionary.ascending_map_iff.mp (h .inventories)⟩

theorem boolean_mirrors (room : Nat) :
    Mirrors Value.boolean (scalar .boolean Value.boolean?) (value room) := by
  apply scalar_mirrors
  intro v b h
  cases v with
  | boolean b' =>
      cases h
      rfl
  | _ => cases h

theorem integer_mirrors (room : Nat) :
    Mirrors Value.integer (scalar .integer Value.signed?) (value room) := by
  apply scalar_mirrors
  intro v n h
  cases v with
  | integer n' =>
      cases h
      rfl
  | _ => cases h

theorem string_mirrors (room : Nat) :
    Mirrors Value.string (scalar .string Value.string?) (value room) := by
  apply scalar_mirrors
  intro v text h
  cases v with
  | string text' =>
      cases h
      rfl
  | _ => cases h

theorem takes_value_of_readPart {part : Part} (room : Nat)
    (h : Takes (readPart part state) s state' rest) :
    (state'.stored part).Ascending ∧
      Takes (value (room + 2)) s (.object (state'.stored part)) rest := by
  rcases h with ⟨shorter, h⟩
  cases part with
  | flags =>
      rcases bind_eq_ok_iff.mp h with ⟨⟨flags, r⟩, hflags, hfound⟩
      cases hfound
      exact takes_value_of_dictionaryOf (boolean_mirrors (room + 1)) ⟨shorter, hflags⟩
  | counters =>
      rcases bind_eq_ok_iff.mp h with ⟨⟨counters, r⟩, hcounters, hfound⟩
      cases hfound
      exact takes_value_of_dictionaryOf (integer_mirrors (room + 1)) ⟨shorter, hcounters⟩
  | quests =>
      rcases bind_eq_ok_iff.mp h with ⟨⟨quests, r⟩, hquests, hfound⟩
      cases hfound
      exact takes_value_of_dictionaryOf (integer_mirrors (room + 1)) ⟨shorter, hquests⟩
  | text =>
      rcases bind_eq_ok_iff.mp h with ⟨⟨text, r⟩, htext, hfound⟩
      cases hfound
      exact takes_value_of_dictionaryOf (string_mirrors (room + 1)) ⟨shorter, htext⟩
  | inventories =>
      rcases bind_eq_ok_iff.mp h with ⟨⟨inventories, r⟩, hinventories, hfound⟩
      cases hfound
      have hlists := listOf_mirrors (string_mirrors room)
      exact takes_value_of_dictionaryOf hlists ⟨shorter, hinventories⟩

theorem stored_of_readPart_of_ne {part other : Part} (hother : other ≠ part)
    (h : Takes (readPart part state) s state' rest) :
    state'.stored other = state.stored other := by
  rcases h with ⟨shorter, h⟩
  -- Each part is one field of the saved game, and no field belongs to two parts.
  cases part
  all_goals
    rcases bind_eq_ok_iff.mp h with ⟨⟨entries, r⟩, -, hfound⟩
    cases hfound
    cases other
  all_goals first | rfl | exact absurd rfl hother

/-!
# Members
-/

theorem takes_readMember_some {part : Part}
    (h : Takes (readMember (some part) state) s state' rest) :
    ∃ t, (∃ shorter, colon s = .ok ⟨t, shorter⟩) ∧
      Takes (readPart part state) t state' rest := by
  rcases h with ⟨shorter, h⟩
  rcases bind_eq_ok_iff.mp h with ⟨afterColon, hcolon, h⟩
  rcases map_eq_ok_iff.mp h with ⟨found, hpart, hfound⟩
  cases hfound
  exact ⟨afterColon.text, ⟨afterColon.shorter, hcolon⟩, found.2.shorter, hpart⟩

theorem takes_readMember_none (h : Takes (readMember none state) s state' rest) :
    state' = state ∧ ∃ t, (∃ shorter, colon s = .ok ⟨t, shorter⟩) ∧
      ∃ shorter, skipValue t = .ok ⟨rest, shorter⟩ := by
  rcases h with ⟨shorter, h⟩
  rcases bind_eq_ok_iff.mp h with ⟨afterColon, hcolon, h⟩
  rcases bind_eq_ok_iff.mp h with ⟨r, hskip, h⟩
  cases h
  exact ⟨rfl, afterColon.text, ⟨afterColon.shorter, hcolon⟩, r.shorter, hskip⟩

theorem takes_readMembers_cases {seen : List Part} {first : Bool}
    (h : Takes (readMembers seen state first) s state' rest) :
    (state' = state ∧ ∃ shorter, nextName string first s = .ok (.finished ⟨rest, shorter⟩)) ∨
      ∃ name t next u, (∃ le, nextName string first s = .ok (.item name ⟨t, le⟩)) ∧
        (∀ part, Keyword.ofWord? name = some part → part ∉ seen) ∧
        Takes (readMember (Keyword.ofWord? name) state) t next u ∧
        Takes (readMembers ((Keyword.ofWord? name).toList ++ seen) next false) u state' rest := by
  rcases h with ⟨shorter, h⟩
  rw [readMembers] at h
  split at h
  · cases h
  · rename_i hnext
    cases h
    exact Or.inl ⟨rfl, shorter, hnext⟩
  rename_i name t hnext
  dsimp only at h
  split at h
  · cases h
  rename_i hseen
  split at h
  · cases h
  rename_i hcarried
  rcases map_eq_ok_iff.mp hcarried with ⟨found, hmember, hfound⟩
  cases hfound
  split at h
  · cases h
  rename_i r' hrest
  cases h
  refine Or.inr ⟨name, t.text, found.1, found.2.text, ⟨t.noLonger, hnext⟩, ?_,
    ⟨found.2.shorter, hmember⟩, r'.shorter, hrest⟩
  intro part hpart
  rw [hpart, Option.filter_eq_none_iff] at hseen
  simpa using hseen

theorem takes_scan_cases (h : Takes scan s state rest) :
    ∃ gap t, IsBlank gap ∧
      ((s = gap ++ '{' :: t ∧ Takes (readMembers [] empty true) t state rest) ∨
        (s = gap ++ '[' :: t ∧ Takes (readParts true Keyword.all empty) t state rest)) := by
  rcases h with ⟨shorter, h⟩
  unfold scan at h
  split at h
  · rename_i t le hskip
    rcases exists_gap hskip with ⟨gap, hgap, -, hs⟩
    rcases map_eq_ok_iff.mp h with ⟨found, hmembers, hfound⟩
    cases hfound
    exact ⟨gap, t, hgap, Or.inl ⟨hs, found.2.shorter, hmembers⟩⟩
  · rename_i t le hskip
    rcases exists_gap hskip with ⟨gap, hgap, -, hs⟩
    rcases map_eq_ok_iff.mp h with ⟨found, hparts, hfound⟩
    cases hfound
    exact ⟨gap, t, hgap, Or.inr ⟨hs, found.2.shorter, hparts⟩⟩
  · exact absurd ⟨shorter, h⟩ not_takes_containerMissing

theorem takes_of_read {text : String} (h : read text = .ok state) :
    ∃ rest, Takes scan text.toList state rest := by
  rcases bind_eq_ok_iff.mp (mapError_eq_ok_iff.mp h) with ⟨⟨state, r⟩, hscan, h⟩
  rcases bind_eq_ok_iff.mp h with ⟨-, -, h⟩
  cases h
  exact ⟨r.text, r.shorter, hscan⟩

/-!
# Order
-/

theorem wellFormed_readPart (hstate : state.WellFormed) {part : Part}
    (h : Takes (readPart part state) s state' rest) : state'.WellFormed := by
  rw [wellFormed_iff_stored] at hstate ⊢
  intro other
  by_cases hother : other = part
  · rw [hother]
    exact (takes_value_of_readPart 0 h).left
  · rw [stored_of_readPart_of_ne hother h]
    exact hstate other

theorem wellFormed_readMember (hstate : state.WellFormed) {part? : Option Part}
    (h : Takes (readMember part? state) s state' rest) : state'.WellFormed := by
  cases part? with
  | some part =>
      rcases takes_readMember_some h with ⟨t, -, hpart⟩
      exact wellFormed_readPart hstate hpart
  | none =>
      rcases takes_readMember_none h with ⟨rfl, -⟩
      exact hstate

theorem wellFormed_readMembers (hstate : state.WellFormed) {seen : List Part} {first : Bool}
    (h : Takes (readMembers seen state first) s state' rest) : state'.WellFormed := by
  -- By induction on what is left of the text, which every member makes shorter.
  induction hn : s.length using Nat.strong_induction_on
    generalizing s seen state first with
  | _ n ih =>
    rcases takes_readMembers_cases h with ⟨rfl, -⟩ |
      ⟨name, t, next, u, ⟨le, -⟩, -, hmember, hrest⟩
    · exact hstate
    · have hlength : u.length < n := by
        rcases hmember with ⟨shorter, -⟩
        rw [← hn]
        exact Nat.lt_of_lt_of_le shorter le
      exact ih u.length hlength (wellFormed_readMember hstate hmember) hrest rfl

theorem wellFormed_readParts (hstate : state.WellFormed) {first : Bool} {parts : List Part}
    (h : Takes (readParts first parts state) s state' rest) : state'.WellFormed := by
  induction parts generalizing s state first with
  | nil =>
      rcases h with ⟨shorter, h⟩
      rcases bind_eq_ok_iff.mp h with ⟨r, -, h⟩
      cases h
      exact hstate
  | cons part parts ih =>
      rcases h with ⟨shorter, h⟩
      rcases bind_eq_ok_iff.mp h with ⟨next, -, h⟩
      cases next with
      | finished r =>
          cases h
          exact hstate
      | item _ t =>
          rcases bind_eq_ok_iff.mp h with ⟨found, hcarried, h⟩
          rcases map_eq_ok_iff.mp hcarried with ⟨found, hpart, rfl⟩
          rcases bind_eq_ok_iff.mp h with ⟨found', hrest, h⟩
          cases h
          have hnext := wellFormed_readPart hstate ⟨found.2.shorter, hpart⟩
          exact ih hnext ⟨found'.2.shorter, hrest⟩

theorem wellFormed_of_read {text : String} (h : read text = .ok state) : state.WellFormed := by
  rcases takes_of_read h with ⟨rest, hscan⟩
  rcases takes_scan_cases hscan with ⟨gap, t, -, ⟨-, hmembers⟩ | ⟨-, hparts⟩⟩
  · exact wellFormed_readMembers wellFormed_empty hmembers
  · exact wellFormed_readParts wellFormed_empty hparts

end SaveState
end GameConfig
