import GameConfig.Proofs.Game.Transcript
import GameConfig.Slot.Evaluate

/-!
# Operators as functions of their operands

The value of a condition depends on its operands through their transcripts only.  `and` and
`or` take these one by one.  Every other operator asks nothing unless it has as many
operands as it takes; then it gets all their values in order and comes to a verdict, for
which it asks at most one question more.
-/

namespace GameConfig

namespace Slot

@[induction_eliminator]
theorem induction {motive : Slot → Prop}
    (leaf : ∀ v, motive (.variable v))
    (condition : ∀ op operands, (∀ operand ∈ operands, motive operand) →
      motive (.condition op operands))
    (slot : Slot) : motive slot := by
  match slot with
  | .variable v =>
      exact leaf v
  | .condition op operands =>
      exact condition op operands fun operand _ => induction leaf condition operand

end Slot

namespace Operator

def takes : Operator → Nat → Bool
  | .and, _ => true
  | .or, _ => true
  | .not, count => count == 1
  | .hasFlag, count => count == 1
  | .hasItem, count => count == 1 || count == 2
  | _, count => count == 2

def verdict (game : Game) : Operator → List Value → Transcript Bool
  | .not, [v] => pure (!v.truthy)
  | .hasItem, [item] => game.testItem item
  | .hasItem, [item, inventory] => game.testItemIn item inventory
  | .hasFlag, [name] => game.testFlag name
  | .matches, [text, pattern] => pure (text.matchedBy pattern)
  | op, [left, right] =>
      match op.comparison? with
      | some accepts => pure (accepts (left.compare right))
      | none => pure false
  | _, _ => pure false

def strict (game : Game) (op : Operator) (operands : List (Transcript Value)) :
    Transcript Bool :=
  if op.takes operands.length then
    Transcript.inOrder operands >>= op.verdict game
  else
    pure false

def holds (game : Game) : Operator → List (Transcript Value) → Transcript Bool
  | .and, operands => Transcript.scan false operands
  | .or, operands => Transcript.scan true operands
  | op, operands => op.strict game operands

/-!
# Outcomes

The truth of a condition is a function of the values of its operands.  That some of them were
never asked for does not show in it.
-/

def outcome (game : Game) : Operator → List Value → Bool
  | .and, values => values.all Value.truthy
  | .or, values => values.any Value.truthy
  | op, values => op.takes values.length && (op.verdict game values).answer

theorem answer_strict (game : Game) (op : Operator) (operands : List (Transcript Value)) :
    (op.strict game operands).answer =
      (op.takes operands.length &&
        (op.verdict game (operands.map Transcript.answer)).answer) := by
  unfold strict
  split
  · rename_i htakes
    rw [Transcript.answer_bind, Transcript.answer_inOrder, htakes, Bool.true_and]
  · rename_i htakes
    rw [Transcript.answer_pure, Bool.eq_false_iff.mpr htakes, Bool.false_and]

theorem answer_holds (game : Game) (op : Operator) (operands : List (Transcript Value)) :
    (op.holds game operands).answer = op.outcome game (operands.map Transcript.answer) := by
  cases op with
  | and =>
      show (Transcript.scan false operands).answer = List.all _ _
      rw [Transcript.answer_scan, List.all_eq_not_any_not]
      simp
  | or =>
      show (Transcript.scan true operands).answer = List.any _ _
      rw [Transcript.answer_scan]
      simp
  | _ =>
      show (strict game _ operands).answer = (takes _ _ && _)
      rw [answer_strict, List.length_map]

end Operator

namespace Slot

theorem every_eq (game : Game) (slots : List Slot) :
    every game slots = Transcript.scan false (slots.map (value game)) := by
  induction slots with
  | nil => rfl
  | cons slot slots ih =>
      rw [every, List.map_cons, Transcript.scan, ih]
      apply bind_congr
      intro v
      cases v.truthy <;> rfl

theorem any_eq (game : Game) (slots : List Slot) :
    any game slots = Transcript.scan true (slots.map (value game)) := by
  induction slots with
  | nil => rfl
  | cons slot slots ih =>
      rw [any, List.map_cons, Transcript.scan, ih]

theorem value_condition (game : Game) (op : Operator) (operands : List Slot) :
    value game (.condition op operands) =
      Value.boolean <$> op.holds game (operands.map (value game)) := by
  cases op with
  | and => simp [value, Operator.holds, every_eq]
  | or => simp [value, Operator.holds, any_eq]
  | _ =>
      rcases operands with _ | ⟨a, _ | ⟨b, _ | ⟨c, rest⟩⟩⟩ <;>
        simp [value, Operator.holds, Operator.strict, Operator.takes, Operator.verdict,
          Operator.comparison?, Transcript.inOrder]

theorem answer_value_condition (game : Game) (op : Operator) (operands : List Slot) :
    (value game (.condition op operands)).answer =
      .boolean (op.outcome game (operands.map fun slot => (slot.value game).answer)) := by
  rw [value_condition, Transcript.answer_map, Operator.answer_holds, List.map_map]
  rfl

theorem truth_eq_map (game : Game) (slot : Slot) :
    slot.truth game = Value.truthy <$> slot.value game := rfl

theorem truth_variable (game : Game) (v : Variable) :
    (Slot.variable v).truth game = Value.truthy <$> v.value game := by
  rw [truth_eq_map, value]

/-- A condition is as true as its operator holds: no value is made of the outcome first. -/
theorem truth_condition (game : Game) (op : Operator) (operands : List Slot) :
    (Slot.condition op operands).truth game = op.holds game (operands.map (value game)) := by
  rw [truth_eq_map, value_condition, ← comp_map]
  exact id_map _

end Slot

end GameConfig
