import GameConfig.Proofs.Slot.Agreement

/-!
# Games without a test for flags

A game that has no test of its own for flags tells them by the value that it finds.  If the
test of a game says just that, the game can do without it: every slot has the same value, and
a look-up of the flag takes the place of every call of the test.
-/

namespace GameConfig

def Question.asLookup : Question → Question
  | .hasFlag name => .lookup .flag name
  | question => question

namespace Game

variable {α : Type}

def withoutFlagTest (game : Game) : Game :=
  { game with flagTest? := none }

/-- Whether a flag holds exactly if a true value is found for it. -/
def TestsByLookup (game : Game) : Prop :=
  ∀ name, game.hasFlag name = (game.lookup .flag name).any Value.truthy

/-!
# How a question is served

A look-up and a search for an item are one call each.  So is a test for a flag, if the game
has a test of its own; otherwise the flag is looked up, and the value that is found decides.
-/

def serve (game : Game) : Question → Transcript (Option Value)
  | .lookup scope name => game.askLookup scope name
  | .hasItem item inventory? => do
      let found ← game.askItem item inventory?
      pure (some (.boolean found))
  | .hasFlag name =>
      match game.flagTest? with
      | some test => ⟨some (.boolean (test name)), [.hasFlag name]⟩
      | none => do
          let found ← game.askLookup .flag name
          pure (some (.boolean (found.any Value.truthy)))

theorem serve_eq (game : Game) (q : Question) :
    game.serve q = ⟨game.answer q, [game.reduce q]⟩ := by
  cases q with
  | lookup scope name => rfl
  | hasItem item inventory? => rfl
  | hasFlag name =>
      rw [serve, answer, hasFlag, reduce]
      cases game.flagTest? <;> rfl

theorem calls_eq_flatMap_serve (game : Game) (t : Transcript α) :
    game.calls t = t.questions.flatMap fun q => (game.serve q).questions := by
  simp only [serve_eq]
  exact List.map_eq_flatMap

/-!
# Doing without the test
-/

theorem questions_serve_withoutFlagTest (game : Game) (q : Question) :
    (game.withoutFlagTest.serve q).questions =
      (game.serve q).questions.map Question.asLookup := by
  cases q with
  | lookup scope name => rfl
  | hasItem item inventory? => rfl
  | hasFlag name =>
      show [Question.lookup .flag name] = _
      rw [serve]
      cases game.flagTest? <;> rfl

theorem calls_withoutFlagTest (game : Game) (t : Transcript α) :
    game.withoutFlagTest.calls t = (game.calls t).map Question.asLookup := by
  rw [calls_eq_flatMap_serve, calls_eq_flatMap_serve, List.map_flatMap]
  simp only [questions_serve_withoutFlagTest]

theorem answer_withoutFlagTest {game : Game} (h : game.TestsByLookup) (q : Question) :
    game.withoutFlagTest.answer q = game.answer q := by
  cases q with
  | lookup scope name => rfl
  | hasItem item inventory? => rfl
  | hasFlag name =>
      show some (Value.boolean (game.withoutFlagTest.hasFlag name)) =
        some (Value.boolean (game.hasFlag name))
      rw [hasFlag_of_flagTest?_eq_none rfl, h name]
      rfl

end Game

theorem SaveState.testsByLookup (state : SaveState) : state.game.TestsByLookup := by
  intro name
  show (state.flags.find? name).getD false =
    ((state.flags.find? name).map Value.boolean).any Value.truthy
  cases state.flags.find? name with
  | none => rfl
  | some held => rfl

namespace Slot

theorem value_withoutFlagTest {game : Game} (h : game.TestsByLookup) (slot : Slot) :
    slot.value game.withoutFlagTest = slot.value game := by
  apply slot.value_eq_of_answers
  intro q _
  exact Game.answer_withoutFlagTest h q

/-- A saved game can do without its test for flags. -/
theorem evaluation_without_flagTest (state : SaveState) (e : Value) :
    ((ofValue e).value state.game.withoutFlagTest).answer =
        ((ofValue e).value state.game).answer ∧
      ((ofValue e).truth state.game.withoutFlagTest).answer =
        ((ofValue e).truth state.game).answer ∧
      state.game.withoutFlagTest.calls ((ofValue e).value state.game.withoutFlagTest) =
        (state.game.calls ((ofValue e).value state.game)).map Question.asLookup ∧
      state.game.withoutFlagTest.calls ((ofValue e).truth state.game.withoutFlagTest) =
        (state.game.calls ((ofValue e).truth state.game)).map Question.asLookup := by
  have hvalue := value_withoutFlagTest state.testsByLookup (ofValue e)
  have htruth := truth_eq_of_value_eq hvalue
  rw [hvalue, htruth]
  refine ⟨rfl, rfl, ?_, ?_⟩
  · exact Game.calls_withoutFlagTest state.game _
  · exact Game.calls_withoutFlagTest state.game _

end Slot

end GameConfig
