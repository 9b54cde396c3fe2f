import GameConfig.Proofs.Slot.Condition
import GameConfig.Proofs.Slot.Substitution
import GameConfig.Proofs.Value.InRange
import GameConfig.Proofs.Value.Laws

/-!
# Comparisons

Six operators compare two operands and differ in the orders that they accept.  Two values may
have no order at all, and then `notEquals` alone holds: no other comparison follows from the
denial of another one.  Turning the operands around turns their order around.
-/

namespace GameConfig

namespace Operator

variable {op : Operator} {accepts : Option Ordering → Bool}

def comparisons : List Operator :=
  [.equals, .notEquals, .lessThan, .lessOrEqual, .greaterThan, .greaterOrEqual]

theorem exists_accepts_of_mem (h : op ∈ comparisons) :
    ∃ accepts, op.comparison? = some accepts := by
  apply Option.isSome_iff_exists.mp
  revert op
  decide

theorem takes_of_comparison (h : op.comparison? = some accepts) (count : Nat) :
    op.takes count = (count == 2) := by
  cases op <;> cases h <;> rfl

theorem outcome_of_comparison (h : op.comparison? = some accepts) (game : Game)
    (left right : Value) : op.outcome game [left, right] = accepts (left.compare right) := by
  cases op <;> cases h <;> rfl

theorem holds_of_comparison (h : op.comparison? = some accepts) (game : Game)
    (operands : List (Transcript Value)) : op.holds game operands = op.strict game operands := by
  cases op <;> cases h <;> rfl

theorem holds_of_length_ne_two (h : op.comparison? = some accepts) (game : Game)
    {operands : List (Transcript Value)} (hcount : operands.length ≠ 2) :
    op.holds game operands = pure false := by
  have htakes : op.takes operands.length = false := by
    rw [takes_of_comparison h]
    exact beq_eq_false_iff_ne.mpr hcount
  rw [holds_of_comparison h, strict, htakes]
  rfl

end Operator

/-!
# Games that store well-formed values
-/

theorem Value.wellFormed_of_scalar {v : Value} (h : v.form = .scalar) : v.WellFormed := by
  refine throughout_of_scalar h ?_
  cases v <;> cases h <;> trivial

def Game.GivesWellFormed (game : Game) : Prop :=
  ∀ scope name v, game.lookup scope name = some v → v.WellFormed

theorem SaveState.givesWellFormed (state : SaveState) : state.game.GivesWellFormed := by
  intro scope name v hfound
  exact Value.wellFormed_of_scalar (state.givesScalars scope name v hfound)

namespace Slot

theorem wellFormed_worth {game : Game} (hgame : game.GivesWellFormed) {x : Value}
    (hx : x.WellFormed) : (worth game x).WellFormed := by
  have hboolean : ∀ b, (Value.boolean b).WellFormed := fun b => Value.wellFormed_of_scalar rfl
  have hunset : ∀ scope : Scope, scope.unset.WellFormed :=
    fun scope => Value.wellFormed_of_scalar scope.form_unset
  exact holds_worth hboolean (game.holds_stored hunset hgame) hx

/-!
# What holds for two operands
-/

def holdsFor (game : Game) (op : Operator) (operands : List Value) : Bool :=
  ((ofValue (op.written operands)).truth game).answer

def order (game : Game) (left right : Value) : Option Ordering :=
  (worth game left).compare (worth game right)

theorem holdsFor_comparison (game : Game) {op : Operator} {accepts : Option Ordering → Bool}
    (h : op.comparison? = some accepts) (left right : Value) :
    holdsFor game op [left, right] = accepts (order game left right) := by
  rw [holdsFor, truth_written, Operator.answer_holds, List.map_map]
  exact Operator.outcome_of_comparison h game _ _

theorem order_swap {game : Game} (hgame : game.GivesWellFormed) {left right : Value}
    (hleft : left.WellFormed) (hright : right.WellFormed) :
    order game right left = (order game left right).map Ordering.swap :=
  Value.compare_swap (wellFormed_worth hgame hleft) (wellFormed_worth hgame hright)

theorem holdsFor_exclusive (game : Game) (left right : Value) :
    ¬ (holdsFor game .lessThan [left, right] ∧ holdsFor game .equals [left, right]) ∧
      ¬ (holdsFor game .lessThan [left, right] ∧ holdsFor game .greaterThan [left, right]) ∧
      ¬ (holdsFor game .equals [left, right] ∧ holdsFor game .greaterThan [left, right]) := by
  rw [holdsFor_comparison game rfl, holdsFor_comparison game rfl, holdsFor_comparison game rfl]
  cases order game left right with
  | none => decide
  | some found => cases found <;> decide

theorem holdsFor_swap {game : Game} (hgame : game.GivesWellFormed) {left right : Value}
    (hleft : left.WellFormed) (hright : right.WellFormed) :
    holdsFor game .greaterThan [left, right] = holdsFor game .lessThan [right, left] ∧
      holdsFor game .greaterOrEqual [left, right] = holdsFor game .lessOrEqual [right, left] ∧
      holdsFor game .equals [left, right] = holdsFor game .equals [right, left] := by
  rw [holdsFor_comparison game rfl, holdsFor_comparison game rfl, holdsFor_comparison game rfl,
    holdsFor_comparison game rfl, holdsFor_comparison game rfl, holdsFor_comparison game rfl,
    order_swap hgame hleft hright]
  cases order game left right with
  | none => decide
  | some found => cases found <;> decide

theorem truth_of_operator_of_length_ne_two {e member : Value} {op : Operator}
    (he : Operator.ofValue? e = some (op, member)) (hop : op ∈ Operator.comparisons)
    (hcount : (Operator.operandValues member).length ≠ 2) (game : Game) :
    (ofValue e).truth game = pure false := by
  rcases Operator.exists_accepts_of_mem hop with ⟨accepts, haccepts⟩
  rw [truth_of_operator he]
  apply Operator.holds_of_length_ne_two haccepts
  rwa [List.length_map]

/-- At most one of `lessThan`, `equals` and `greaterThan` holds, and these determine the other
comparisons.  Turning the operands around turns `greaterThan` into `lessThan` and
`greaterOrEqual` into `lessOrEqual`, and keeps `equals`.  With another number of operands than
two no comparison holds, and none asks anything. -/
theorem comparisons_consistent (game : Game) (left right : Value) :
    (¬ (holdsFor game .lessThan [left, right] ∧ holdsFor game .equals [left, right]) ∧
      ¬ (holdsFor game .lessThan [left, right] ∧ holdsFor game .greaterThan [left, right]) ∧
      ¬ (holdsFor game .equals [left, right] ∧ holdsFor game .greaterThan [left, right])) ∧
    holdsFor game .notEquals [left, right] = !holdsFor game .equals [left, right] ∧
    holdsFor game .lessOrEqual [left, right] =
      (holdsFor game .lessThan [left, right] || holdsFor game .equals [left, right]) ∧
    holdsFor game .greaterOrEqual [left, right] =
      (holdsFor game .greaterThan [left, right] || holdsFor game .equals [left, right]) ∧
    (game.GivesWellFormed → left.WellFormed → right.WellFormed →
      holdsFor game .greaterThan [left, right] = holdsFor game .lessThan [right, left] ∧
      holdsFor game .greaterOrEqual [left, right] = holdsFor game .lessOrEqual [right, left] ∧
      holdsFor game .equals [left, right] = holdsFor game .equals [right, left]) ∧
    ∀ op ∈ Operator.comparisons, ∀ e member : Value,
      Operator.ofValue? e = some (op, member) → (Operator.operandValues member).length ≠ 2 →
        (ofValue e).truth game = pure false := by
  refine ⟨holdsFor_exclusive game left right, ?_, ?_, ?_, ?_, ?_⟩
  · rw [holdsFor_comparison game rfl, holdsFor_comparison game rfl]
    rfl
  · rw [holdsFor_comparison game rfl, holdsFor_comparison game rfl,
      holdsFor_comparison game rfl]
  · rw [holdsFor_comparison game rfl, holdsFor_comparison game rfl,
      holdsFor_comparison game rfl]
  · intro hgame hleft hright
    exact holdsFor_swap hgame hleft hright
  · intro op hop e member he hcount
    exact truth_of_operator_of_length_ne_two he hop hcount game

theorem comparisons_of_gold :
    let game := { SaveState.empty with counters := [("gold", 2)] }.game
    let gold : Value := .object [("counter", .string "gold")]
    let price : Value := .float ⟨0x4004000000000000⟩
    let alone : Value := .object [("lessThan", gold)]
    game.GivesWellFormed ∧ gold.WellFormed ∧ price.WellFormed ∧
      Operator.ofValue? alone = some (.lessThan, gold) ∧
      (Operator.operandValues gold).length ≠ 2 ∧
      holdsFor game .lessThan [gold, price] = true ∧
      holdsFor game .greaterThan [price, gold] = true ∧
      (ofValue alone).truth game = pure false := by
  intro game gold price alone
  have hgame : game.GivesWellFormed := SaveState.givesWellFormed _
  have hgold : gold.WellFormed := Value.throughout_of_everywhere (by decide)
  have hprice : price.WellFormed := Value.wellFormed_of_scalar rfl
  have halone : Operator.ofValue? alone = some (.lessThan, gold) := rfl
  have hcount : (Operator.operandValues gold).length ≠ 2 := by decide
  have hless : holdsFor game .lessThan [gold, price] = true := by decide +kernel
  rcases comparisons_consistent game price gold with ⟨-, -, -, -, hswap, hother⟩
  refine ⟨hgame, hgold, hprice, halone, hcount, hless, ?_, ?_⟩
  · rw [(hswap hgame hprice hgold).left, hless]
  · exact hother .lessThan (by decide) alone gold halone hcount

end Slot

end GameConfig
