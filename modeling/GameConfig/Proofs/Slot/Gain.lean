import GameConfig.Proofs.Game.ReadsAlike
import GameConfig.Proofs.Slot.Agreement

/-!
# Conditions that further items keep

A game that has gained items still has every item that it had, and all else is as it was.  A
slot that asks for no item has the same value in both games.  So a condition that holds before
also holds behind, as long as nothing but `and` and `or` stands around the places where it asks
for items.
-/

namespace GameConfig

/-!
# Games that gain items
-/

/-- The second game has all that the first one has; it differs in items only. -/
structure Game.Gains (game game' : Game) : Prop where
  lookup : ∀ scope name, game'.lookup scope name = game.lookup scope name
  hasFlag : ∀ name, game'.hasFlag name = game.hasFlag name
  hasItem : ∀ item inventory?, game.hasItem item inventory? = true →
    game'.hasItem item inventory? = true

namespace Game.Gains

variable {game game' game'' : Game}

theorem refl (game : Game) : game.Gains game :=
  ⟨fun _ _ => rfl, fun _ => rfl, fun _ _ => id⟩

theorem trans (h : game.Gains game') (h' : game'.Gains game'') : game.Gains game'' where
  lookup scope name := (h'.lookup scope name).trans (h.lookup scope name)
  hasFlag name := (h'.hasFlag name).trans (h.hasFlag name)
  hasItem item inventory? := h'.hasItem item inventory? ∘ h.hasItem item inventory?

end Game.Gains

namespace SaveState

theorem hasItem_addItem_self (state : SaveState) (inventory item : String) :
    (state.addItem inventory item).hasItem item none = true := by
  have hfound : (state.addItem inventory item).inventories.find? inventory =
      some (state.items inventory ++ [item]) := Dictionary.find?_insert_self _ _ _
  refine List.any_eq_true.mpr ⟨_, Dictionary.mem_of_find? hfound, ?_⟩
  simp

theorem gains_addItem (state : SaveState) (inventory item : String) :
    state.game.Gains (state.addItem inventory item).game where
  lookup scope name := by
    cases scope <;> rfl
  hasFlag _ := rfl
  hasItem other asked? hother := by
    by_cases hitem : other = item
    · subst hitem
      cases asked? with
      | none => exact hasItem_addItem_self state inventory other
      | some asked => exact hasItem_addItem_iff.mpr (Or.inl hother)
    · exact (hasItem_addItem_of_ne_item state inventory asked? hitem).trans hother

theorem gains_addItems (state : SaveState) (additions : List (String × String)) :
    state.game.Gains (state.addItems additions).game := by
  induction additions generalizing state with
  | nil => exact Game.Gains.refl _
  | cons addition additions ih =>
      exact (gains_addItem state addition.1 addition.2).trans (ih _)

end SaveState

/-!
# Operators
-/

namespace Operator

variable {game game' : Game}

theorem verdict_eq_of_gains (h : game.Gains game') {op : Operator} (hop : op ≠ .hasItem)
    (values : List Value) :
    (op.verdict game' values).answer = (op.verdict game values).answer := by
  fun_cases Operator.verdict game op values with
  | case1 v => rfl
  | case2 item => exact absurd rfl hop
  | case3 item inventory => exact absurd rfl hop
  | case4 name =>
      cases name with
      | string name => exact h.hasFlag name
      | _ => rfl
  | case5 text pattern => rfl
  | case6 op left right accepts hitem hmatches hcomparison =>
      simp only [Operator.verdict, hcomparison]
  | case7 op left right hitem hmatches hcomparison =>
      simp only [Operator.verdict, hcomparison]
  | case8 op values htwo hnot hitem hitemIn hflag hmatches =>
      simp only [Operator.verdict]

theorem verdict_hasItem_of_gains (h : game.Gains game') {values : List Value}
    (hholds : (Operator.hasItem.verdict game values).answer = true) :
    (Operator.hasItem.verdict game' values).answer = true := by
  rcases values with _ | ⟨item, _ | ⟨inventory, _ | ⟨third, rest⟩⟩⟩
  · exact hholds
  · cases item with
    | string item => exact h.hasItem item none hholds
    | _ => exact hholds
  · cases item with
    | string item =>
        cases inventory with
        | string inventory => exact h.hasItem item (some inventory) hholds
        | _ => exact hholds
    | _ => exact hholds
  · exact hholds

theorem outcome_eq_of_gains (h : game.Gains game') {op : Operator} (hop : op ≠ .hasItem)
    (values : List Value) : op.outcome game' values = op.outcome game values := by
  cases op with
  | and => rfl
  | or => rfl
  | _ => exact congrArg (_ && ·) (verdict_eq_of_gains h hop values)

theorem outcome_of_gains (h : game.Gains game') {op : Operator} {values : List Value}
    (hholds : op.outcome game values = true) : op.outcome game' values = true := by
  by_cases hop : op = .hasItem
  · subst hop
    rcases Bool.and_eq_true_iff.mp hholds with ⟨htakes, hverdict⟩
    exact Bool.and_eq_true_iff.mpr ⟨htakes, verdict_hasItem_of_gains h hverdict⟩
  · rwa [outcome_eq_of_gains h hop]

end Operator

/-!
# The slots inside a slot
-/

namespace Slot

mutual

def parts : Slot → List Slot
  | .variable v => [.variable v]
  | .condition op operands => .condition op operands :: partsOfAll operands

def partsOfAll : List Slot → List Slot
  | [] => []
  | slot :: slots => parts slot ++ partsOfAll slots

end

def operator? : Slot → Option Operator
  | .variable _ => none
  | .condition op _ => some op

def operands : Slot → List Slot
  | .variable _ => []
  | .condition _ operands => operands

/-- Nowhere in the slot are there conditions on items among the operands, at any depth, of an
operator other than `and` and `or`. -/
def AsksItemsOpenly (slot : Slot) : Prop :=
  ∀ part ∈ slot.parts, part.operator? ≠ some .and → part.operator? ≠ some .or →
    ∀ inner ∈ partsOfAll part.operands, inner.operator? ≠ some .hasItem

instance : DecidablePred AsksItemsOpenly :=
  fun slot => inferInstanceAs (Decidable (∀ part ∈ slot.parts, _ → _ → ∀ inner ∈ _, _))

theorem mem_partsOfAll_iff {part : Slot} {slots : List Slot} :
    part ∈ partsOfAll slots ↔ ∃ slot ∈ slots, part ∈ slot.parts := by
  induction slots with
  | nil => simp [partsOfAll]
  | cons slot slots ih => simp [partsOfAll, ih]

theorem self_mem_parts (slot : Slot) : slot ∈ slot.parts := by
  cases slot <;> exact List.mem_cons_self

theorem AsksItemsOpenly.operand {op : Operator} {operands : List Slot}
    (h : (condition op operands).AsksItemsOpenly) {operand : Slot} (hmem : operand ∈ operands) :
    operand.AsksItemsOpenly := by
  intro part hpart
  apply h part
  exact List.mem_cons_of_mem _ (mem_partsOfAll_iff.mpr ⟨operand, hmem, hpart⟩)

/-!
# Slots in a game that gains items
-/

variable {game game' : Game}

theorem value_eq_of_gains (h : game.Gains game') {slot : Slot}
    (hslot : ∀ part ∈ slot.parts, part.operator? ≠ some .hasItem) :
    (slot.value game').answer = (slot.value game).answer := by
  induction slot with
  | leaf v =>
      cases v with
      | literal v => rfl
      | reference scope name => exact congrArg (Option.getD · scope.unset) (h.lookup scope name)
  | condition op operands ih =>
      have hop : op ≠ .hasItem := by
        rintro rfl
        exact hslot _ (self_mem_parts _) rfl
      have hoperands : operands.map (fun slot => (slot.value game').answer) =
          operands.map (fun slot => (slot.value game).answer) := by
        apply List.map_congr_left
        intro operand hmem
        apply ih operand hmem
        intro part hpart
        apply hslot
        exact List.mem_cons_of_mem _ (mem_partsOfAll_iff.mpr ⟨operand, hmem, hpart⟩)
      rw [answer_value_condition, answer_value_condition, hoperands,
        Operator.outcome_eq_of_gains h hop]

theorem truthy_of_gains (h : game.Gains game') {slot : Slot} (hslot : slot.AsksItemsOpenly)
    (htrue : (slot.value game).answer.truthy = true) :
    (slot.value game').answer.truthy = true := by
  induction slot with
  | leaf v =>
      rw [value_eq_of_gains h]
      · exact htrue
      · intro part hpart
        cases List.mem_singleton.mp hpart
        nofun
  | condition op operands ih =>
      rw [answer_value_condition] at htrue ⊢
      have hih : ∀ operand ∈ operands, (operand.value game).answer.truthy = true →
          (operand.value game').answer.truthy = true :=
        fun operand hmem => ih operand hmem (hslot.operand hmem)
      -- Under `and` and `or` the operands may change, but from false to true only; under every
      -- other operator they may not ask for items, so that only the verdict can change.
      by_cases hand : op = .and
      · subst hand
        rw [Value.truthy, Operator.outcome, List.all_map, List.all_eq_true] at htrue ⊢
        exact fun operand hmem => hih operand hmem (htrue operand hmem)
      by_cases hor : op = .or
      · subst hor
        rw [Value.truthy, Operator.outcome, List.any_map, List.any_eq_true] at htrue ⊢
        rcases htrue with ⟨operand, hmem, htrue⟩
        exact ⟨operand, hmem, hih operand hmem htrue⟩
      · have hinside := hslot _ (self_mem_parts _) (by simpa [operator?] using hand)
          (by simpa [operator?] using hor)
        have hoperands : operands.map (fun slot => (slot.value game').answer) =
            operands.map (fun slot => (slot.value game).answer) := by
          apply List.map_congr_left
          intro operand hmem
          apply value_eq_of_gains h
          intro part hpart
          exact hinside part (mem_partsOfAll_iff.mpr ⟨operand, hmem, hpart⟩)
        rw [hoperands]
        exact Operator.outcome_of_gains h htrue

/-- What is true before items are added is true behind, unless it is hidden under another
operator than `and` and `or` that items are asked for. -/
theorem truth_addItems (e : Value) (he : (ofValue e).AsksItemsOpenly) (state : SaveState)
    (additions : List (String × String))
    (h : ((ofValue e).truth state.game).answer = true) :
    ((ofValue e).truth (state.addItems additions).game).answer = true :=
  truthy_of_gains (state.gains_addItems additions) he h

theorem truth_addItems_of_wanted_item :
    let e : Value := .object
      [("and", .array
        [.object [("or", .array
            [.object [("hasItem", .array [.object [("text", .string "wanted")], .string "belt"])],
              .object [("hasItem", .string "cube")]])],
          .object [("not", .object [("hasFlag", .string "cursed")])]])]
    let state : SaveState :=
      { SaveState.empty with
        text := [("wanted", "potion")], inventories := [("stash", ["cube"])] }
    (ofValue e).AsksItemsOpenly ∧ ((ofValue e).truth state.game).answer = true ∧
      ((ofValue e).truth
        (state.addItems [("belt", "key"), ("stash", "rope")]).game).answer = true := by
  intro e state
  have he : (ofValue e).AsksItemsOpenly := by
    decide
  have hbefore : ((ofValue e).truth state.game).answer = true := rfl
  exact ⟨he, hbefore, truth_addItems e he state _ hbefore⟩

end Slot

end GameConfig
