import GameConfig.Command.Basic

/-!
# Outcomes of commands

Apart from which error is reported, a command is a function of what its texts are read for:
it gives a result exactly if all of them can be read.
-/

namespace GameConfig
namespace Command

def document? (text : String) : Option Value :=
  (Json.readDocument text).toOption

def state? : Option String → Option SaveState
  | none => some SaveState.empty
  | some text => (SaveState.read text).toOption

def input? : Option String → Option (Option Value)
  | none => some none
  | some text => (document? text).map some

def evaluation (state : SaveState) (slot : Value) (asTruth : Bool) : Evaluation :=
  if asTruth then .truth ((Slot.ofValue slot).truth state.game).answer
  else .value ((Slot.ofValue slot).value state.game).answer

/-!
# Computations that may fail
-/

theorem toOption_bind {ε α β : Type} (x : Except ε α) (f : α → Except ε β) :
    (x >>= f).toOption = x.toOption.bind fun a => (f a).toOption := by
  cases x <;> rfl

theorem toOption_mapError {ε ε' α : Type} (f : ε → ε') (x : Except ε α) :
    (x.mapError f).toOption = x.toOption := by
  cases x <;> rfl

theorem toOption_eq_some_iff {ε α : Type} {x : Except ε α} {a : α} :
    x.toOption = some a ↔ x = .ok a := by
  cases x with
  | error fault => exact ⟨nofun, nofun⟩
  | ok a' => rw [Except.toOption, Option.some.injEq, Except.ok.injEq]

/-!
# Commands
-/

theorem toOption_readDocument (text : String) :
    (readDocument text).toOption = document? text :=
  toOption_mapError _ _

theorem toOption_readSaveState (text : String) :
    (readSaveState text).toOption = state? (some text) :=
  toOption_mapError _ _

theorem toOption_resolveQuery (query : String) (text? : Option String) :
    (resolveQuery query text?).toOption =
      (document? query).bind fun q =>
        (input? text?).map fun document? => (Query.resolve? document? q).value := by
  rw [resolveQuery, toOption_bind, toOption_readDocument]
  congr 1
  funext q
  cases text? with
  | none => rfl
  | some text =>
      dsimp only
      rw [toOption_bind, toOption_readDocument, input?]
      cases document? text <;> rfl

theorem toOption_evaluateSlot (slot : String) (text? : Option String) (asTruth : Bool) :
    (evaluateSlot slot text? asTruth).toOption =
      (document? slot).bind fun e =>
        (state? text?).map fun state => evaluation state e asTruth := by
  have hevaluation : ∀ (e : Value) (state : SaveState),
      (if asTruth then
          (pure (.truth ((Slot.ofValue e).truth state.game).answer) : Except Failure Evaluation)
        else pure (.value ((Slot.ofValue e).value state.game).answer)) =
        .ok (evaluation state e asTruth) := by
    intro e state
    cases asTruth <;> rfl
  rw [evaluateSlot, toOption_bind, toOption_readDocument]
  congr 1
  funext e
  cases text? with
  | none =>
      dsimp only [pure_bind]
      exact congrArg Except.toOption (hevaluation e SaveState.empty)
  | some text =>
      dsimp only
      rw [toOption_bind, toOption_readSaveState]
      simp only [hevaluation]
      cases state? (some text) <;> rfl

end Command
end GameConfig
