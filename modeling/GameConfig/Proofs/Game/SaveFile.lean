import GameConfig.Proofs.Dictionary.Keyword
import GameConfig.Proofs.Game.Reader
import GameConfig.Proofs.Json.Passing
import GameConfig.Value.Position

/-!
# Saved games as documents

A text that is read for a saved game may also be read for a document.  What the saved game
holds is then what the document has for its five parts, however often and with whatever
escapes the names are written, and nothing else in the document matters.
-/

namespace GameConfig
namespace SaveState

open Json

variable {s t rest : List Char} {state state' : SaveState}

/-!
# Members read twice
-/

instance : LawfulKeyword Part :=
  .of_nodup (by intro part; cases part <;> decide) (by decide)

theorem takes_readMember_of_value {part? : Option Part} {room : Nat} {v : Value}
    {rest' : List Char} (hcolon : ∃ shorter, colon s = .ok ⟨t, shorter⟩)
    (hv : Takes (value (room + 2)) t v rest)
    (h : Takes (readMember part? state) s state' rest') :
    rest' = rest ∧ (∀ part, part? = some part → v = .object (state'.stored part)) ∧
      ∀ part, part? ≠ some part → state'.stored part = state.stored part := by
  rcases hcolon with ⟨shorter, hcolon⟩
  cases part? with
  | some part =>
      rcases takes_readMember_some h with ⟨t', ⟨shorter', hcolon'⟩, hpart⟩
      rw [hcolon] at hcolon'
      cases hcolon'
      rcases hv.unique (takes_value_of_readPart room hpart).right with ⟨hobject, hrest⟩
      refine ⟨hrest.symm, ?_, ?_⟩
      · intro other hother
        cases hother
        exact hobject
      · intro other hother
        apply stored_of_readPart_of_ne _ hpart
        rintro rfl
        exact hother rfl
  | none =>
      rcases takes_readMember_none h with ⟨rfl, t', ⟨shorter', hcolon'⟩, _, hskip⟩
      rw [hcolon] at hcolon'
      cases hcolon'
      rcases skipValue_of_takes hv with ⟨_, hskip'⟩
      rw [hskip] at hskip'
      cases hskip'
      refine ⟨rfl, ?_, ?_⟩
      · intro part hpart
        cases hpart
      · intro part _
        rfl

/-- What was read from members on top of a saved game: a part that the members do not have is as
it was before, and one that they have was not seen before and holds what they have for it. -/
def ReadFrom (seen : List Part) (state : SaveState) (members : Dictionary Value)
    (state' : SaveState) : Prop :=
  ∀ part : Part,
    (members.find? (Keyword.word part) = none ∧ state'.stored part = state.stored part) ∨
      (part ∉ seen ∧
        members.find? (Keyword.word part) = some (.object (state'.stored part)))

theorem readFrom_cons {seen : List Part} {name : String} {v : Value}
    {pairs : List (String × Value)} {next : SaveState}
    (hseen : ∀ part, Keyword.ofWord? name = some part → part ∉ seen)
    (hpart : ∀ part, Keyword.ofWord? name = some part → v = .object (next.stored part))
    (hothers : ∀ part, Keyword.ofWord? name ≠ some part →
      next.stored part = state.stored part)
    (h : ReadFrom ((Keyword.ofWord? name).toList ++ seen) next (Dictionary.ofList pairs) state') :
    ReadFrom seen state (Dictionary.ofList ((name, v) :: pairs)) state' := by
  intro part
  rw [Dictionary.find?_ofList_cons]
  by_cases hname : Keyword.ofWord? name = some part
  · -- The part stands here, so that it cannot be written again.
    have hword : Keyword.word part = name := (Keyword.ofWord?_eq_some_iff.mp hname).symm
    rcases h part with ⟨hmissing, hstored⟩ | ⟨hunseen, -⟩
    · right
      rw [hmissing, if_pos hword, hstored, ← hpart part hname]
      exact ⟨hseen part hname, rfl⟩
    · rw [hname] at hunseen
      exact absurd List.mem_cons_self hunseen
  · have hword : Keyword.word part ≠ name := by
      intro hword
      exact hname (Keyword.ofWord?_eq_some_iff.mpr hword.symm)
    rw [if_neg hword, Option.or_none]
    rcases h part with ⟨hmissing, hstored⟩ | ⟨hunseen, hfound⟩
    · exact Or.inl ⟨hmissing, hstored.trans (hothers part hname)⟩
    · refine Or.inr ⟨?_, hfound⟩
      intro hmem
      exact hunseen (List.mem_append_right _ hmem)

theorem readFrom_readMembers {room : Nat} {pairs : List (String × Value)} {first : Bool}
    {seen : List Part} {rest' : List Char}
    (hpairs : Takes (members string (value (room + 2)) first) s pairs rest)
    (h : Takes (readMembers seen state first) s state' rest') :
    ReadFrom seen state (Dictionary.ofList pairs) state' := by
  induction pairs generalizing s first seen state with
  | nil =>
      rcases takes_members_nil_iff.mp hpairs with ⟨shorter, hend⟩
      rcases takes_readMembers_cases h with ⟨rfl, -⟩ | ⟨name, t, next, u, ⟨le, hnext⟩, -⟩
      · intro part
        exact Or.inl ⟨rfl, rfl⟩
      · rw [hend] at hnext
        cases hnext
  | cons pair pairs ih =>
      obtain ⟨name, v⟩ := pair
      rcases takes_members_cons_iff.mp hpairs with ⟨t, u, w, ⟨le, hname⟩, hcolon, hv, hrest⟩
      rcases takes_readMembers_cases h with ⟨-, shorter, hend⟩ |
        ⟨name', t', next, u', ⟨le', hname'⟩, hseen, hmember, hrest'⟩
      · rw [hname] at hend
        cases hend
      · rw [hname] at hname'
        cases hname'
        rcases takes_readMember_of_value hcolon hv hmember with ⟨rfl, hpart, hothers⟩
        exact readFrom_cons hseen hpart hothers (ih hrest hrest')

/-!
# Texts read twice
-/

theorem readFrom_of_read {text : String} {ms : Dictionary Value} (hread : read text = .ok state)
    (hdocument : readDocument text = .ok (.object ms)) : ReadFrom [] empty ms state := by
  rcases takes_of_read hread with ⟨rest, hscan⟩
  rcases takes_of_readDocument hdocument with ⟨rest', hvalue⟩
  rcases takes_valueWithin_cases hvalue with ⟨gap, c, t, hgap, hc, htext, hform⟩
  rcases takes_scan_cases hscan with ⟨gap', t', hgap', ⟨htext', hmembers⟩ | ⟨htext', -⟩⟩
  · rcases eq_of_gap_eq hgap hgap' hc rfl (htext.symm.trans htext') with ⟨rfl, rfl⟩
    rcases hform with ⟨hc, -⟩ | ⟨-, item, pairs, hitem, hpairs, hobject⟩ | ⟨-, hc, -⟩
    · exact absurd hc (by decide)
    · cases hitem
      cases hobject
      exact readFrom_readMembers hpairs hmembers
    · exact absurd rfl hc
  · rcases eq_of_gap_eq hgap hgap' hc rfl (htext.symm.trans htext') with ⟨rfl, rfl⟩
    rcases hform with ⟨-, item, items, -, -, hobject⟩ | ⟨hc, -⟩ | ⟨hc, -⟩
    · cases hobject
    · exact absurd hc (by decide)
    · exact absurd rfl hc

/-!
# What is found in the document
-/

theorem stored_empty (part : Part) : empty.stored part = [] := by
  cases part <;> rfl

theorem ReadFrom.at?_member {ms : Dictionary Value} (h : ReadFrom [] empty ms state)
    (part : Part) (name : String) :
    (Value.object ms).at? [.member (Keyword.word part), .member name] =
      (state.stored part).find? name := by
  show (Dictionary.find? (Keyword.word part) ms).bind (·.at? [.member name]) = _
  rcases h part with ⟨hmissing, hstored⟩ | ⟨-, hfound⟩
  · rw [hmissing, hstored, stored_empty]
    rfl
  · rw [hfound]
    exact Option.bind_fun_some _

theorem ReadFrom.stored_eq {ms ms' : Dictionary Value} (h : ReadFrom [] empty ms state)
    (h' : ReadFrom [] empty ms' state') {part : Part}
    (hpart : ms'.find? (Keyword.word part) = ms.find? (Keyword.word part)) :
    state'.stored part = state.stored part := by
  rcases h part with ⟨hmissing, hstored⟩ | ⟨-, hfound⟩
  · rcases h' part with ⟨-, hstored'⟩ | ⟨-, hfound'⟩
    · rw [hstored, hstored']
    · rw [hpart, hmissing] at hfound'
      cases hfound'
  · rcases h' part with ⟨hmissing', -⟩ | ⟨-, hfound'⟩
    · rw [hpart, hfound] at hmissing'
      cases hmissing'
    · rw [hpart, hfound] at hfound'
      exact (Value.object.inj (Option.some.inj hfound')).symm

/-!
# What a saved game stores
-/

theorem map_entries_injective {α β : Type} {f : α → β} (hf : Function.Injective f) :
    Function.Injective (List.map fun entry : String × α => (entry.1, f entry.2)) := by
  apply List.map_injective_iff.mpr
  rintro ⟨name, a⟩ ⟨name', a'⟩ h
  rcases Prod.mk.inj h with ⟨hname, hentry⟩
  exact Prod.ext hname (hf hentry)

theorem itemList_injective : Function.Injective itemList := by
  intro items items' h
  have hinjective : Function.Injective Value.string := fun _ _ => Value.string.inj
  exact List.map_injective_iff.mpr hinjective (Value.array.inj h)

theorem eq_of_stored_eq (h : ∀ part, state'.stored part = state.stored part) :
    state' = state := by
  have hflags := map_entries_injective (fun _ _ => Value.boolean.inj) (h .flags)
  have hcounters := map_entries_injective (fun _ _ => Value.integer.inj) (h .counters)
  have hquests := map_entries_injective (fun _ _ => Value.integer.inj) (h .quests)
  have htext := map_entries_injective (fun _ _ => Value.string.inj) (h .text)
  have hinventories := map_entries_injective itemList_injective (h .inventories)
  cases state
  cases state'
  cases hflags
  cases hcounters
  cases hquests
  cases htext
  cases hinventories
  rfl

def partOf : Scope → Part
  | .flag => .flags
  | .counter => .counters
  | .quest => .quests
  | .text => .text

theorem lookup_eq_find?_stored (scope : Scope) (name : String) :
    state.lookup scope name = (state.stored (partOf scope)).find? name := by
  cases scope with
  | flag => exact (Dictionary.find?_map Value.boolean name state.flags).symm
  | counter => exact (Dictionary.find?_map Value.integer name state.counters).symm
  | quest => exact (Dictionary.find?_map Value.integer name state.quests).symm
  | text => exact (Dictionary.find?_map Value.string name state.text).symm

theorem hasItem_iff_find?_stored {item inventory : String} :
    state.hasItem item (some inventory) = true ↔
      ∃ items, (state.stored .inventories).find? inventory = some (.array items) ∧
        .string item ∈ items := by
  have hfind : (state.stored .inventories).find? inventory =
      (Dictionary.find? inventory state.inventories).map itemList :=
    Dictionary.find?_map itemList inventory state.inventories
  rw [hasItem_some_iff, hfind]
  constructor
  · rintro ⟨items, hfound, hitem⟩
    refine ⟨items.map Value.string, ?_, List.mem_map_of_mem hitem⟩
    rw [hfound]
    rfl
  · rintro ⟨_, hfound, hitem⟩
    rcases Option.map_eq_some_iff.mp hfound with ⟨items, hinventory, hitems⟩
    cases hitems
    rcases List.mem_map.mp hitem with ⟨item', hmem, hsame⟩
    cases hsame
    exact ⟨items, hinventory, hmem⟩

/-- A text that is read both for a saved game and for an object: the stores hold what the object
has for them, an item is in an inventory if the object has it there, and nothing but the five
members that are read decides the saved game. -/
theorem read_agrees_with_readDocument {text : String} {ms : Dictionary Value}
    (hread : read text = .ok state) (hdocument : readDocument text = .ok (.object ms)) :
    let v : Value := .object ms
    (∀ name,
      state.lookup .flag name = v.at? [.member "flags", .member name] ∧
      state.lookup .counter name = v.at? [.member "counters", .member name] ∧
      state.lookup .quest name = v.at? [.member "quests", .member name] ∧
      state.lookup .text name = v.at? [.member "text", .member name]) ∧
    (∀ item inventory, state.hasItem item (some inventory) = true ↔
      ∃ items, v.at? [.member "inventories", .member inventory] = some (.array items) ∧
        .string item ∈ items) ∧
    (∀ item, state.hasItem item none = true ↔
      ∃ inventory items,
        v.at? [.member "inventories", .member inventory] = some (.array items) ∧
          .string item ∈ items) ∧
    (∀ text' state' ms', read text' = .ok state' → readDocument text' = .ok (.object ms') →
      (∀ name ∈ ["flags", "counters", "quests", "text", "inventories"],
        Dictionary.find? name ms' = Dictionary.find? name ms) → state' = state) := by
  intro v
  have hfrom := readFrom_of_read hread hdocument
  have hlookup : ∀ scope name,
      state.lookup scope name = v.at? [.member (Keyword.word (partOf scope)), .member name] := by
    intro scope name
    rw [lookup_eq_find?_stored, hfrom.at?_member]
  have hitem : ∀ item inventory, state.hasItem item (some inventory) = true ↔
      ∃ items, v.at? [.member "inventories", .member inventory] = some (.array items) ∧
        .string item ∈ items := by
    intro item inventory
    rw [hasItem_iff_find?_stored, ← hfrom.at?_member .inventories inventory]
    exact Iff.rfl
  refine ⟨?_, hitem, ?_, ?_⟩
  · intro name
    exact ⟨hlookup .flag name, hlookup .counter name, hlookup .quest name, hlookup .text name⟩
  · intro item
    rw [(wellFormed_of_read hread).hasItem_none_iff]
    simp only [hitem]
  · intro text' state' ms' hread' hdocument' hsame
    have hfrom' := readFrom_of_read hread' hdocument'
    apply eq_of_stored_eq
    intro part
    apply hfrom.stored_eq hfrom'
    apply hsame
    cases part <;> decide

deriving instance DecidableEq for SaveState

/-- A flag that is written twice, once with an escape in its name, a part whose name is written
with one, parts that are missing and a member that is none. -/
theorem read_lit_flag_and_rope :
    let text := "\x7b\"pet\": [null], \"fl\\u0061gs\": \x7b\"lit\": false, " ++
      "\"li\\u0074\": true\x7d, \"inventories\": \x7b\"belt\": [\"rope\"]\x7d\x7d"
    let state : SaveState := ⟨[("lit", true)], [], [], [], [("belt", ["rope"])]⟩
    ∃ ms, read text = .ok state ∧ readDocument text = .ok (.object ms) ∧
      (Value.object ms).at? [.member "flags", .member "lit"] = some (.boolean true) ∧
      (Value.object ms).at? [.member "quests", .member "rats"] = none ∧
      ∃ items, (Value.object ms).at? [.member "inventories", .member "belt"] =
        some (.array items) ∧ .string "rope" ∈ items := by
  intro text state
  have hread : read text = .ok state := by decide +kernel
  have hobject : ((readDocument text).toOption.map Value.kind) = some .object := by
    decide +kernel
  cases hdocument : readDocument text with
  | error fault =>
      rw [hdocument] at hobject
      cases hobject
  | ok v =>
      rw [hdocument] at hobject
      cases v with
      | object ms =>
          rcases read_agrees_with_readDocument hread hdocument with ⟨hlookup, hitem, -, -⟩
          refine ⟨ms, hread, rfl, ?_, ?_, ?_⟩
          · exact (hlookup "lit").left.symm
          · exact (hlookup "rats").right.right.left.symm
          · exact (hitem "rope" "belt").mp rfl
      | _ => cases hobject

end SaveState
end GameConfig
