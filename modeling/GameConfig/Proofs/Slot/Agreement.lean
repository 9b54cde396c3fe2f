import GameConfig.Proofs.Game.Update
import GameConfig.Proofs.Slot.Operators

/-!
# What evaluation depends on

Two games that give the same answers to all questions asked against one of them cannot be
told apart by what is evaluated: neither the outcome nor the questions differ.  For this
the answers need not even be the same, since a name that was never set reads like one that
was set to the value of its scope.
-/

namespace GameConfig

open Transcript (Follows follows_self)

variable {game game' : Game}

theorem Variable.value_follows (v : Variable) :
    Follows (game.Settled game') (v.value game') (v.value game) := by
  cases v with
  | literal v => exact follows_self _
  | reference scope name =>
      intro hsettled
      have hread : (game'.lookup scope name).getD scope.unset =
          (game.lookup scope name).getD scope.unset :=
        hsettled (.lookup scope name) (by simp [Variable.value, Game.askLookup])
      rw [Transcript.eq_iff]
      simpa [Variable.value, Game.askLookup] using hread

theorem Game.askItem_follows (item : String) (inventory? : Option String) :
    Follows (game.Settled game') (game'.askItem item inventory?)
      (game.askItem item inventory?) := by
  intro hsettled
  have hread := hsettled (.hasItem item inventory?) (by simp [Game.askItem])
  simpa [Game.Settled, Game.reading, Game.answer, Game.askItem] using hread

theorem Game.askFlag_follows (name : String) :
    Follows (game.Settled game') (game'.askFlag name) (game.askFlag name) := by
  intro hsettled
  have hread := hsettled (.hasFlag name) (by simp [Game.askFlag])
  simpa [Game.Settled, Game.reading, Game.answer, Game.askFlag] using hread

theorem Game.testItem_follows (item : Value) :
    Follows (game.Settled game') (game'.testItem item) (game.testItem item) := by
  cases item with
  | string item => exact askItem_follows item none
  | _ => exact follows_self _

theorem Game.testItemIn_follows (item inventory : Value) :
    Follows (game.Settled game') (game'.testItemIn item inventory)
      (game.testItemIn item inventory) := by
  fun_cases Game.testItemIn game item inventory with
  | case1 item inventory => exact askItem_follows item (some inventory)
  | case2 =>
      simp only [Game.testItemIn]
      exact follows_self _

theorem Game.testFlag_follows (name : Value) :
    Follows (game.Settled game') (game'.testFlag name) (game.testFlag name) := by
  cases name with
  | string name => exact askFlag_follows name
  | _ => exact follows_self _

theorem Operator.verdict_follows (op : Operator) (values : List Value) :
    Follows (game.Settled game') (op.verdict game' values) (op.verdict game values) := by
  fun_cases Operator.verdict game op values with
  | case1 v => exact follows_self _
  | case2 item => exact Game.testItem_follows item
  | case3 item inventory => exact Game.testItemIn_follows item inventory
  | case4 name => exact Game.testFlag_follows name
  | case5 text pattern => exact follows_self _
  | case6 op left right accepts hitem hmatches hcomparison =>
      simp only [Operator.verdict, hcomparison]
      exact follows_self _
  | case7 op left right hitem hmatches hcomparison =>
      simp only [Operator.verdict, hcomparison]
      exact follows_self _
  | case8 op values htwo hnot hitem hitemIn hflag hmatches =>
      simp only [Operator.verdict]
      exact follows_self _

theorem Operator.strict_follows (op : Operator) {ts us : List (Transcript Value)}
    (h : List.Forall₂ (Follows (game.Settled game')) us ts) :
    Follows (game.Settled game') (op.strict game' us) (op.strict game ts) := by
  rw [strict, strict, h.length_eq]
  split
  · exact (Transcript.inOrder_follows h).bind (verdict_follows op)
  · exact follows_self _

theorem Operator.holds_follows (op : Operator) {ts us : List (Transcript Value)}
    (h : List.Forall₂ (Follows (game.Settled game')) us ts) :
    Follows (game.Settled game') (op.holds game' us) (op.holds game ts) := by
  cases op with
  | and => exact Transcript.scan_follows false h
  | or => exact Transcript.scan_follows true h
  | _ => exact strict_follows _ h

theorem Slot.value_follows (slot : Slot) :
    Follows (game.Settled game') (slot.value game') (slot.value game) := by
  induction slot with
  | leaf v =>
      simp only [value]
      exact v.value_follows
  | condition op operands ih =>
      rw [value_condition, value_condition]
      have hoperands : List.Forall₂ (Follows (game.Settled game'))
          (operands.map (value game')) (operands.map (value game)) := by
        rw [List.forall₂_map_left_iff, List.forall₂_map_right_iff, List.forall₂_same]
        exact ih
      exact (op.holds_follows hoperands).map _

namespace Slot

theorem questions_truth (game : Game) (slot : Slot) :
    (slot.truth game).questions = (slot.value game).questions := by
  rw [truth_eq_map, Transcript.questions_map]

theorem truth_eq_of_value_eq {slot : Slot} (h : slot.value game' = slot.value game) :
    slot.truth game' = slot.truth game := by
  rw [truth_eq_map, truth_eq_map, h]

theorem value_eq_of_answers (slot : Slot)
    (h : ∀ q ∈ (slot.value game).questions, game'.answer q = game.answer q) :
    slot.value game' = slot.value game := by
  apply slot.value_follows
  intro q hq
  exact Game.settled_of_answer_eq (h q hq)

/-- Games of one kind are alike already if they give the same answers to what is asked
behind their tests for flags. -/
theorem value_eq_of_calls (slot : Slot) (hkind : game.SameKind game')
    (h : ∀ q ∈ game.calls (slot.value game), game'.answer q = game.answer q) :
    slot.value game' = slot.value game := by
  apply slot.value_eq_of_answers
  intro q hq
  apply hkind.answer_eq_of_reduce
  exact h (game.reduce q) (List.mem_map_of_mem hq)

theorem value_run_of_not_touches (slot : Slot) (state : SaveState)
    {updates : List SaveState.Update}
    (h : ∀ q ∈ (slot.value state.game).questions, ∀ update ∈ updates, ¬ update.Touches q) :
    slot.value (state.run updates).game = slot.value state.game := by
  apply slot.value_eq_of_answers
  intro q hq
  exact SaveState.answer_run_of_not_touches state (h q hq)

/-- Transcripts are the same only if their questions are, in the same order. -/
theorem evaluation_determined_by_answers (e : Value) :
    (∀ game game' : Game,
      (∀ q ∈ ((ofValue e).value game).questions, game'.answer q = game.answer q) →
        (ofValue e).value game' = (ofValue e).value game) ∧
    (∀ game game' : Game,
      (∀ q ∈ ((ofValue e).truth game).questions, game'.answer q = game.answer q) →
        (ofValue e).truth game' = (ofValue e).truth game) ∧
    (∀ game game' : Game, game.SameKind game' →
      (∀ q ∈ game.calls ((ofValue e).value game), game'.answer q = game.answer q) →
        (ofValue e).value game' = (ofValue e).value game ∧
        (ofValue e).truth game' = (ofValue e).truth game ∧
        game'.calls ((ofValue e).value game') = game.calls ((ofValue e).value game)) ∧
    (∀ (state : SaveState) (updates : List SaveState.Update),
      (∀ q ∈ ((ofValue e).value state.game).questions,
        (state.run updates).game.answer q = state.game.answer q) →
        (ofValue e).value (state.run updates).game = (ofValue e).value state.game ∧
        (ofValue e).truth (state.run updates).game = (ofValue e).truth state.game) ∧
    (∀ (state : SaveState) (updates : List SaveState.Update),
      (∀ q ∈ ((ofValue e).value state.game).questions,
        ∀ update ∈ updates, ¬ update.Touches q) →
        (ofValue e).value (state.run updates).game = (ofValue e).value state.game ∧
        (ofValue e).truth (state.run updates).game = (ofValue e).truth state.game) := by
  refine ⟨?_, ?_, ?_, ?_, ?_⟩
  · intro game game' hanswer
    exact (ofValue e).value_eq_of_answers hanswer
  · intro game game' hanswer
    rw [questions_truth] at hanswer
    exact truth_eq_of_value_eq ((ofValue e).value_eq_of_answers hanswer)
  · intro game game' hkind hanswer
    have hsame := (ofValue e).value_eq_of_calls hkind hanswer
    refine ⟨hsame, truth_eq_of_value_eq hsame, ?_⟩
    rw [hsame, Game.calls, Game.calls, hkind.reduce_eq]
  · intro state updates hanswer
    have hsame := (ofValue e).value_eq_of_answers hanswer
    exact ⟨hsame, truth_eq_of_value_eq hsame⟩
  · intro state updates htouches
    have hsame := (ofValue e).value_run_of_not_touches state htouches
    exact ⟨hsame, truth_eq_of_value_eq hsame⟩

theorem evaluation_of_computed_flag :
    let e : Value := .object [("hasFlag", .object [("text", .string "friend")])]
    let state : SaveState :=
      { SaveState.empty with flags := [("cain", true)], text := [("friend", "cain")] }
    let updated := state.run [.setFlag "gillian" true, .addItem "belt" "potion"]
    (∀ q ∈ ((ofValue e).value state.game).questions,
      updated.game.answer q = state.game.answer q) ∧
    (ofValue e).value updated.game = (ofValue e).value state.game ∧
    (ofValue e).truth updated.game = (ofValue e).truth state.game ∧
    updated.game.calls ((ofValue e).value updated.game) =
      state.game.calls ((ofValue e).value state.game) := by
  intro e state updated
  have hquestions : ((ofValue e).value state.game).questions =
      [.lookup .text "friend", .hasFlag "cain"] := by
    rfl
  have hanswer : ∀ q ∈ ((ofValue e).value state.game).questions,
      updated.game.answer q = state.game.answer q := by
    rw [hquestions, List.forall_mem_cons, List.forall_mem_singleton]
    exact ⟨rfl, rfl⟩
  rcases evaluation_determined_by_answers e with ⟨-, htruth, hcalls, hrun, -⟩
  refine ⟨hanswer, (hrun state _ hanswer).left, ?_, ?_⟩
  · exact htruth state.game updated.game (by rwa [questions_truth])
  · have hkind : state.game.SameKind updated.game := rfl
    exact (hcalls _ _ hkind (by rwa [SaveState.calls_game])).right.right

end Slot

end GameConfig
