import GameConfig.Game.SaveState
import GameConfig.Proofs.Slot.Operators
import GameConfig.Proofs.Slot.Reading
import GameConfig.Proofs.Value.Shape

/-!
# Operands replaced by their values

The value that a saved game gives to an operand can be written in the place of the operand.
It is never read as a condition or as a reference to state, so that it stands for itself from
then on, and what holds an operand is a function of the values of its operands.  Operands nest;
the way to one counts the operands that it goes through.
-/

namespace GameConfig

/-!
# Constants
-/

namespace Value

def IsConstant (v : Value) : Prop :=
  Slot.ofValue v = .variable (.literal v)

theorem isConstant_of_scalar {v : Value} (h : v.form = .scalar) : v.IsConstant := by
  unfold IsConstant
  cases v <;> first | rfl | cases h

theorem IsConstant.value_eq {v : Value} (h : v.IsConstant) (game : Game) :
    (Slot.ofValue v).value game = pure v := by
  rw [h, Slot.value]
  rfl

theorem IsConstant.truth_eq {v : Value} (h : v.IsConstant) (game : Game) :
    (Slot.ofValue v).truth game = pure v.truthy := by
  rw [h, Slot.truth_variable]
  rfl

end Value

theorem Scope.form_unset (scope : Scope) : scope.unset.form = .scalar := by
  cases scope <;> rfl

theorem Game.holds_stored {P : Value → Prop} (game : Game) (hunset : ∀ scope : Scope, P scope.unset)
    (hstored : ∀ scope name v, game.lookup scope name = some v → P v) (scope : Scope)
    (name : String) : P ((game.lookup scope name).getD scope.unset) := by
  cases hfound : game.lookup scope name with
  | none => exact hunset scope
  | some v => exact hstored scope name v hfound

def Game.GivesScalars (game : Game) : Prop :=
  ∀ scope name v, game.lookup scope name = some v → v.form = .scalar

theorem SaveState.givesScalars (state : SaveState) : state.game.GivesScalars := by
  intro scope name v hfound
  cases scope <;> rcases Option.map_eq_some_iff.mp hfound with ⟨stored, -, rfl⟩ <;> rfl

namespace Slot

def worth (game : Game) (e : Value) : Value :=
  ((ofValue e).value game).answer

variable {game : Game}

theorem worth_of_isConstant {v : Value} (h : v.IsConstant) : worth game v = v := by
  unfold worth
  rw [h.value_eq]
  rfl

theorem worth_of_condition {e : Value} {op : Operator} {operands : List Value}
    (h : ofValue e = .condition op (operands.map ofValue)) :
    worth game e = .boolean (op.outcome game (operands.map (worth game))) := by
  unfold worth
  rw [h, answer_value_condition, List.map_map]
  rfl

theorem holds_worth {P : Value → Prop} (hboolean : ∀ b, P (.boolean b))
    (hstored : ∀ scope name, P ((game.lookup scope name).getD scope.unset)) {x : Value}
    (hself : P x) : P (worth game x) := by
  cases hop : Operator.ofValue? x with
  | some found =>
      rw [worth_of_condition (ofValue_of_operator hop)]
      exact hboolean _
  | none =>
      have hread := ofValue_of_no_operator hop
      rcases Variable.ofValue_cases x with hliteral | ⟨scope, name, hreference⟩
      · rw [hliteral] at hread
        rwa [worth_of_isConstant hread]
      · unfold worth
        rw [hread, hreference]
        exact hstored scope name

theorem worth_cases (hgame : game.GivesScalars) (x : Value) :
    (worth game x).form = .scalar ∨ (x.IsConstant ∧ worth game x = x) := by
  cases hop : Operator.ofValue? x with
  | some found =>
      apply Or.inl
      rw [worth_of_condition (ofValue_of_operator hop)]
      rfl
  | none =>
      have hread := ofValue_of_no_operator hop
      rcases Variable.ofValue_cases x with hliteral | ⟨scope, name, hreference⟩
      · rw [hliteral] at hread
        exact Or.inr ⟨hread, worth_of_isConstant hread⟩
      · apply Or.inl
        unfold worth
        rw [hread, hreference]
        exact game.holds_stored Scope.form_unset hgame scope name

theorem isConstant_worth (hgame : game.GivesScalars) (x : Value) :
    (worth game x).IsConstant := by
  rcases worth_cases hgame x with hscalar | ⟨hconstant, hself⟩
  · exact Value.isConstant_of_scalar hscalar
  · rwa [hself]

theorem items?_worth (hgame : game.GivesScalars) {x : Value} (h : x.items? = none) :
    (worth game x).items? = none := by
  rcases worth_cases hgame x with hscalar | ⟨-, hself⟩
  · generalize worth game x = v at hscalar
    cases v <;> first | rfl | cases hscalar
  · rwa [hself]

end Slot

/-!
# The operands of a value
-/

namespace Value

open Operator (operandValues)

def operand? (e : Value) (index : Nat) : Option Value :=
  (Operator.ofValue? e).bind fun found => (operandValues found.2)[index]?

def putOperand (index : Nat) (v : Value) : Value → Value
  | .array items => .array (items.set index v)
  | _ => v

def replaceOperand (e : Value) (index : Nat) (v : Value) : Value :=
  match e with
  | .object members =>
      match Operator.first? members with
      | some (op, member) =>
          .object (Dictionary.insert (Keyword.word op) (putOperand index v member) members)
      | none => .object members
  | e => e

def operandAt? (e : Value) : List Nat → Option Value
  | [] => some e
  | index :: way => (e.operand? index).bind (·.operandAt? way)

def replaceAt (v : Value) : List Nat → Value → Value
  | [], _ => v
  | index :: way, e =>
      match e.operand? index with
      | some operand => e.replaceOperand index (replaceAt v way operand)
      | none => e

/-- An operand that is not one of several may not be replaced by an array, since the elements
of that would be the operands. -/
def Fits (v x : Value) : Prop :=
  x.items? = none → v.items? = none

theorem operandValues_putOperand {member x v : Value} {index : Nat}
    (hx : (operandValues member)[index]? = some x) (hfits : v.Fits x) :
    operandValues (putOperand index v member) = (operandValues member).set index v := by
  cases hitems : member.items? with
  | some items =>
      cases member <;> cases hitems
      rfl
  | none =>
      rw [Operator.operandValues_of_items?_eq_none hitems] at hx ⊢
      rcases List.getElem?_eq_some_iff.mp hx with ⟨hindex, rfl⟩
      obtain rfl : index = 0 := Nat.lt_one_iff.mp hindex
      have hput : putOperand 0 v member = v := by
        cases member <;> first | rfl | cases hitems
      rw [hput]
      exact Operator.operandValues_of_items?_eq_none (hfits hitems)

theorem ofValue_replaceOperand {e x v : Value} {index : Nat} (hx : e.operand? index = some x)
    (hfits : v.Fits x) :
    ∃ (op : Operator) (operands : List Value), operands[index]? = some x ∧
      Slot.ofValue e = .condition op (operands.map Slot.ofValue) ∧
      Slot.ofValue (e.replaceOperand index v) =
        .condition op ((operands.set index v).map Slot.ofValue) := by
  rcases Option.bind_eq_some_iff.mp hx with ⟨⟨op, member⟩, hop, hindex⟩
  refine ⟨op, operandValues member, hindex, Slot.ofValue_of_operator hop, ?_⟩
  rw [← operandValues_putOperand hindex hfits]
  cases e with
  | object members =>
      have hfirst : Operator.first? members = some (op, member) := hop
      apply Slot.ofValue_of_operator
      rw [replaceOperand, hfirst]
      exact Operator.first?_insert hfirst _
  | _ => cases hop

theorem items?_replaceOperand {e x : Value} {index : Nat} (hx : e.operand? index = some x)
    (v : Value) : (e.replaceOperand index v).items? = none := by
  cases e with
  | object members =>
      rw [replaceOperand]
      split <;> rfl
  | _ => cases hx

end Value

/-!
# Replacing an operand by one of the same value
-/

namespace Slot

variable {game : Game}

theorem worth_replaceOperand {e x v : Value} {index : Nat} (hx : e.operand? index = some x)
    (hfits : v.Fits x) (hsame : worth game v = worth game x) :
    worth game (e.replaceOperand index v) = worth game e := by
  rcases Value.ofValue_replaceOperand hx hfits with ⟨op, operands, hindex, hold, hnew⟩
  have hvalues : (operands.set index v).map (worth game) = operands.map (worth game) := by
    rcases List.getElem?_eq_some_iff.mp hindex with ⟨hlt, rfl⟩
    rw [List.map_set, hsame, ← List.map_set, List.set_getElem_self]
  rw [worth_of_condition hnew, worth_of_condition hold, hvalues]

theorem worth_replaceAt {e x v : Value} {way : List Nat} (hx : e.operandAt? way = some x)
    (hfits : v.Fits x) (hsame : worth game v = worth game x) :
    (Value.replaceAt v way e).Fits e ∧ worth game (Value.replaceAt v way e) = worth game e := by
  induction way generalizing e with
  | nil =>
      cases hx
      exact ⟨hfits, hsame⟩
  | cons index way ih =>
      rcases Option.bind_eq_some_iff.mp hx with ⟨operand, hoperand, hrest⟩
      rcases ih hrest with ⟨hinner, heq⟩
      rw [Value.replaceAt, hoperand]
      constructor
      · intro _
        exact Value.items?_replaceOperand hoperand _
      · exact worth_replaceOperand hoperand hinner heq

theorem worth_replaceAt_worth (state : SaveState) {e x : Value} {way : List Nat}
    (hx : e.operandAt? way = some x) :
    worth state.game (Value.replaceAt (worth state.game x) way e) = worth state.game e := by
  have hconstant := isConstant_worth state.givesScalars x
  have hfits : (worth state.game x).Fits x := items?_worth state.givesScalars
  exact (worth_replaceAt hx hfits (worth_of_isConstant hconstant)).right

/-!
# An array of operands
-/

theorem operand?_singleton (op : Operator) (xs : List Value) (index : Nat) :
    (Value.object [(Keyword.word op, .array xs)]).operand? index = xs[index]? := by
  show (Operator.first? [(Keyword.word op, Value.array xs)]).bind _ = _
  rw [Operator.first?_singleton]
  rfl

theorem replaceOperand_singleton (op : Operator) (xs : List Value) (index : Nat) (v : Value) :
    (Value.object [(Keyword.word op, .array xs)]).replaceOperand index v =
      .object [(Keyword.word op, .array (xs.set index v))] := by
  rw [Value.replaceOperand, Operator.first?_singleton]
  show Value.object (Dictionary.insert _ _ [(Keyword.word op, _)]) = _
  rw [Dictionary.insert, if_pos rfl]
  rfl

/-- What a saved game gives to an operand stands for itself in every game, and the operand can
be replaced by it: where an operator has an array of operands, and at any depth. -/
theorem operand_replaced_by_value (state : SaveState) :
    (∀ (op : Operator) (xs : List Value) (index : Nat) (x : Value), xs[index]? = some x →
      let v := ((ofValue x).value state.game).answer
      (∀ game : Game, (ofValue v).value game = pure v ∧
        (ofValue v).truth game = pure v.truthy) ∧
      ((ofValue (.object [(Keyword.word op, .array (xs.set index v))])).truth
          state.game).answer =
        ((ofValue (.object [(Keyword.word op, .array xs)])).truth state.game).answer) ∧
    (∀ (e x : Value) (way : List Nat), e.operandAt? way = some x →
      let v := ((ofValue x).value state.game).answer
      (∀ game : Game, (ofValue v).value game = pure v ∧
        (ofValue v).truth game = pure v.truthy) ∧
      ((ofValue (Value.replaceAt v way e)).value state.game).answer =
        ((ofValue e).value state.game).answer ∧
      ((ofValue (Value.replaceAt v way e)).truth state.game).answer =
        ((ofValue e).truth state.game).answer) := by
  have hself : ∀ (x : Value) (game : Game),
      (ofValue (worth state.game x)).value game = pure (worth state.game x) ∧
        (ofValue (worth state.game x)).truth game = pure (worth state.game x).truthy := by
    intro x game
    have hconstant := isConstant_worth state.givesScalars x
    exact ⟨hconstant.value_eq game, hconstant.truth_eq game⟩
  constructor
  · intro op xs index x hx v
    have hoperand := operand?_singleton op xs index
    rw [hx] at hoperand
    have hway : (Value.object [(Keyword.word op, .array xs)]).operandAt? [index] = some x := by
      rw [Value.operandAt?, hoperand]
      rfl
    have hworth := worth_replaceAt_worth state hway
    rw [Value.replaceAt, hoperand] at hworth
    show _ ∧ (worth state.game _).truthy = (worth state.game _).truthy
    rw [← replaceOperand_singleton, ← hworth]
    exact ⟨hself x, rfl⟩
  · intro e x way hx v
    have hworth := worth_replaceAt_worth state hx
    exact ⟨hself x, hworth, congrArg Value.truthy hworth⟩

/-- The name of the item that is asked for lies two conditions deep; in the one around it, it
is the only operand, and beside that one stands a name that is no operator. -/
theorem asked_item_replaced_by_name :
    let state : SaveState := { SaveState.empty with text := [("wanted", "cube")] }
    let asked (item : Value) : Value := .object
      [("and", .array [.object [("counter", .string "gold")],
        .object [("hasItem", item), ("note", .string "seen")]])]
    let x : Value := .object [("text", .string "wanted")]
    ((asked x).operandAt? [1, 0] = some x ∧
      ((ofValue x).value state.game).answer = .string "cube" ∧
      Value.replaceAt (.string "cube") [1, 0] (asked x) = asked (.string "cube")) ∧
    (ofValue (.string "cube")).value SaveState.empty.game = pure (.string "cube") ∧
    ((ofValue (asked (.string "cube"))).value state.game).answer =
      ((ofValue (asked x)).value state.game).answer ∧
    ([x, .string "belt"][0]? = some x ∧
      ((ofValue (.object [("hasItem", .array [.string "cube", .string "belt"])])).truth
          state.game).answer =
        ((ofValue (.object [("hasItem", .array [x, .string "belt"])])).truth
          state.game).answer) := by
  intro state asked x
  have hway : (asked x).operandAt? [1, 0] = some x := rfl
  have hreplaced : Value.replaceAt (.string "cube") [1, 0] (asked x) = asked (.string "cube") :=
    rfl
  have hindex : [x, .string "belt"][0]? = some x := rfl
  rcases operand_replaced_by_value state with ⟨hsingle, hdeep⟩
  have hvalue : ((ofValue x).value state.game).answer = .string "cube" := rfl
  refine ⟨⟨hway, hvalue, hreplaced⟩, ?_, ?_, hindex, ?_⟩
  · exact ((hdeep (asked x) x [1, 0] hway).left SaveState.empty.game).left
  · exact (hdeep (asked x) x [1, 0] hway).right.left
  · exact (hsingle .hasItem [x, .string "belt"] 0 x hindex).right

end Slot

end GameConfig
