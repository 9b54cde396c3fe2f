import GameConfig.Proofs.Game.ReadsAlike
import GameConfig.Proofs.Slot.Agreement

/-!
# Conditions on what was never set

No slot can tell saved games apart that read alike: it has the same value in both, and it
gets there by the same calls.  So it does not matter for any condition whether a name was
set to the value of its scope or not at all, whether an empty inventory was opened, in which
order items were added, or how often.
-/

namespace GameConfig

namespace Game

/-- No slot has another value in one of the games, another truth, or other calls on the way
to them. -/
def Indistinguishable (game game' : Game) : Prop :=
  ∀ e : Value,
    ((Slot.ofValue e).value game').answer = ((Slot.ofValue e).value game).answer ∧
    ((Slot.ofValue e).truth game').answer = ((Slot.ofValue e).truth game).answer ∧
    game'.calls ((Slot.ofValue e).value game') = game.calls ((Slot.ofValue e).value game) ∧
    game'.calls ((Slot.ofValue e).truth game') = game.calls ((Slot.ofValue e).truth game)

theorem indistinguishable_of_settled {game game' : Game} (hkind : game.SameKind game')
    (h : ∀ q, game.Settled game' q) : game.Indistinguishable game' := by
  intro e
  have hvalue : (Slot.ofValue e).value game' = (Slot.ofValue e).value game :=
    (Slot.ofValue e).value_follows fun q _ => h q
  have htruth := Slot.truth_eq_of_value_eq hvalue
  have hcalls : ∀ {α : Type} (t : Transcript α), game'.calls t = game.calls t := by
    intro α t
    unfold calls
    rw [hkind.reduce_eq]
  rw [hvalue, htruth, hcalls, hcalls]
  exact ⟨rfl, rfl, rfl, rfl⟩

end Game

namespace SaveState

variable {state state' : SaveState}

theorem ReadsAlike.indistinguishable (h : state.ReadsAlike state') (hstate : state.WellFormed)
    (hstate' : state'.WellFormed) : state.game.Indistinguishable state'.game := by
  apply Game.indistinguishable_of_settled
  · rfl
  · intro q
    exact h.settled hstate hstate' q

/-- Saved games that read alike cannot be told apart.  That is so after a name that was never
set has been set to the value of its scope, after an inventory has been opened, after an item
has been added again, and after the same items have been added in another way. -/
theorem indistinguishable_of_readsAlike (state : SaveState) (hstate : state.WellFormed) :
    (∀ state' : SaveState, state'.WellFormed → state.ReadsAlike state' →
      state.game.Indistinguishable state'.game) ∧
    (∀ scope name, state.lookup scope name = none →
      state.game.Indistinguishable (state.apply (.unset scope name)).game) ∧
    (∀ inventory, state.game.Indistinguishable (state.openInventory inventory).game) ∧
    (∀ inventory item, state.hasItem item (some inventory) = true →
      state.game.Indistinguishable (state.addItem inventory item).game) ∧
    (∀ additions additions' : List (String × String),
      (∀ addition, addition ∈ additions' ↔ addition ∈ additions) →
        (state.addItems additions).game.Indistinguishable (state.addItems additions').game) := by
  refine ⟨?_, ?_, ?_, ?_, ?_⟩
  · intro state' hstate' halike
    exact halike.indistinguishable hstate hstate'
  · intro scope name hunset
    exact (readsAlike_unset hunset).indistinguishable hstate (hstate.apply _)
  · intro inventory
    exact (readsAlike_openInventory state inventory).indistinguishable hstate
      (hstate.openInventory inventory)
  · intro inventory item hitem
    exact (readsAlike_addItem hitem).indistinguishable hstate
      (hstate.apply (.addItem inventory item))
  · intro additions additions' hsame
    exact (readsAlike_addItems hsame).indistinguishable (hstate.run _) (hstate.run _)

theorem indistinguishable_beside_empty_stash :
    let state : SaveState :=
      { empty with
        counters := [("gold", 120)], inventories := [("belt", ["potion", "key"])] }
    let state' : SaveState :=
      { flags := [("metCain", false)], counters := [("gold", 120), ("kills", 0)],
        quests := [("butcher", 0)], text := [("name", "")],
        inventories := [("belt", ["key", "potion", "potion"]), ("stash", [])] }
    let asked : Value := .object
      [("or", .array [.object [("hasFlag", .string "metCain")],
        .object [("hasItem", .object [("text", .string "name")])],
        .object [("hasItem", .string "key")]])]
    (state.WellFormed ∧ state'.WellFormed ∧ state.ReadsAlike state' ∧
      state.lookup .quest "butcher" = none ∧ state.hasItem "key" (some "belt") = true) ∧
    state.game.Indistinguishable state'.game ∧
    state.game.Indistinguishable (state.apply (.setQuest "butcher" 0)).game ∧
    state.game.Indistinguishable (state.addItem "belt" "key").game ∧
    (state.addItems [("belt", "key"), ("stash", "cube")]).game.Indistinguishable
      (state.addItems [("stash", "cube"), ("belt", "key"), ("stash", "cube")]).game ∧
    state.game.calls ((Slot.ofValue asked).value state.game) =
      [.hasFlag "metCain", .lookup .text "name", .hasItem "" none, .hasItem "key" none] ∧
    state'.game.calls ((Slot.ofValue asked).value state'.game) =
      [.hasFlag "metCain", .lookup .text "name", .hasItem "" none, .hasItem "key" none] := by
  intro state state' asked
  have hstate : state.WellFormed := by
    decide
  have hstate' : state'.WellFormed := by
    decide
  have halike : state.ReadsAlike state' := by
    constructor
    · intro scope name
      cases scope <;>
        simp only [state, state', lookup, Dictionary.find?, empty, Scope.unset] <;> grind
    · intro item inventory
      simp only [state, state', hasItem, items, Dictionary.find?]
      grind
  have hunset : state.lookup .quest "butcher" = none := rfl
  have hitem : state.hasItem "key" (some "belt") = true := rfl
  have hsame : ∀ addition : String × String,
      addition ∈ [("stash", "cube"), ("belt", "key"), ("stash", "cube")] ↔
        addition ∈ [("belt", "key"), ("stash", "cube")] := by
    intro addition
    simp only [List.mem_cons, List.not_mem_nil, or_false]
    tauto
  rcases indistinguishable_of_readsAlike state hstate with ⟨hread, hset, -, hagain, hadded⟩
  refine ⟨⟨hstate, hstate', halike, hunset, hitem⟩, hread state' hstate' halike,
    hset .quest "butcher" hunset, hagain "belt" "key" hitem, hadded _ _ hsame, ?_, ?_⟩
  · rfl
  · rfl

end SaveState

end GameConfig
