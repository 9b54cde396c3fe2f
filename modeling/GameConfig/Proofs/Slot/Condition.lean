import GameConfig.Proofs.Slot.Agreement
import GameConfig.Proofs.Slot.Reading

/-!
# Conditions as they are written

A value with an operator is evaluated by that operator, from what its operands give.  Its
value is its truth: the questions are the same, and nothing but a boolean comes out.
-/

namespace GameConfig

namespace Operator

def written (op : Operator) (operands : List Value) : Value :=
  .object [(Keyword.word op, .array operands)]

theorem ofValue?_written (op : Operator) (operands : List Value) :
    ofValue? (op.written operands) = some (op, .array operands) :=
  first?_singleton op _

end Operator

namespace Slot

variable {game : Game} {e member : Value} {op : Operator}

theorem value_of_operator (h : Operator.ofValue? e = some (op, member)) :
    (ofValue e).value game = Value.boolean <$>
      op.holds game ((Operator.operandValues member).map fun x => (ofValue x).value game) := by
  rw [ofValue_of_operator h, value_condition, List.map_map]
  rfl

theorem truth_of_operator (h : Operator.ofValue? e = some (op, member)) :
    (ofValue e).truth game =
      op.holds game ((Operator.operandValues member).map fun x => (ofValue x).value game) := by
  rw [ofValue_of_operator h, truth_condition, List.map_map]
  rfl

theorem value_written (game : Game) (op : Operator) (operands : List Value) :
    (ofValue (op.written operands)).value game =
      Value.boolean <$> op.holds game (operands.map fun x => (ofValue x).value game) :=
  value_of_operator (op.ofValue?_written operands)

theorem truth_written (game : Game) (op : Operator) (operands : List Value) :
    (ofValue (op.written operands)).truth game =
      op.holds game (operands.map fun x => (ofValue x).value game) :=
  truth_of_operator (op.ofValue?_written operands)

end Slot

end GameConfig
