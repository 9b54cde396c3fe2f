import GameConfig.Game.SaveState.Reader
import GameConfig.Json.Message
import GameConfig.Manual
import GameConfig.Query.Resolve
import GameConfig.Slot.Evaluate

/-!
# Commands

What the commands do with the texts they are given: resolve a query, evaluate a slot, or show
a page of the manual.
-/

namespace GameConfig
namespace Command

inductive Failure where
  | json (error : Json.Error)
  | missingFile
  | notText
  | unknownTopic (name : String)
deriving DecidableEq, Repr

def Failure.message : Failure → String
  | .json error => "Invalid JSON: " ++ error.message
  | .missingFile => "IO error: No such file or directory (os error 2)"
  | .notText => "IO error: stream did not contain valid UTF-8"
  | .unknownTopic name =>
      "Unknown category: '" ++ name ++
        "'\nRun 'lorekey docs' to see available categories."

def readDocument (text : String) : Except Failure Value :=
  (Json.readDocument text).mapError .json

def readSaveState (text : String) : Except Failure SaveState :=
  (SaveState.read text).mapError .json

/-- The value that a query finds in a document.  The query is read first. -/
def resolveQuery (query : String) (input? : Option String) : Except Failure Value := do
  let query ← readDocument query
  match input? with
  | none => pure (Query.resolve? none query).value
  | some input => do
      let document ← readDocument input
      pure (Query.resolve? (some document) query).value

inductive Evaluation where
  | value (v : Value)
  | truth (b : Bool)
deriving Repr

/-- The value of a slot in a saved game, or in one where nothing is set.  The slot is read
first. -/
def evaluateSlot (slot : String) (state? : Option String) (asTruth : Bool) :
    Except Failure Evaluation := do
  let slot ← readDocument slot
  let state ←
    match state? with
    | none => pure SaveState.empty
    | some text => readSaveState text
  let slot := Slot.ofValue slot
  if asTruth then pure (.truth (slot.truth state.game).answer)
  else pure (.value (slot.value state.game).answer)

def showTopic (name : String) : Except Failure String :=
  match Manual.Topic.ofName? name with
  | some topic => pure topic.text
  | none => .error (.unknownTopic name)

end Command
end GameConfig
