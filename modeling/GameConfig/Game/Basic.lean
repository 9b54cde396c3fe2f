import GameConfig.Game.Scope

/-!
# Games

Conditions see a game through the questions they ask it.  A transcript is an answer
together with all questions that were asked on the way to it, in order.  A game without a
test of its own for flags asks itself for the value of the flag instead.
-/

namespace GameConfig

structure Game where
  lookup : Scope → String → Option Value
  hasItem : String → Option String → Bool
  flagTest? : Option (String → Bool)

inductive Question where
  | lookup (scope : Scope) (name : String)
  | hasItem (item : String) (inventory? : Option String)
  | hasFlag (name : String)
deriving DecidableEq, Repr

structure Transcript (α : Type) where
  answer : α
  questions : List Question
deriving Repr

namespace Transcript

variable {α β : Type}

protected def pure (a : α) : Transcript α :=
  ⟨a, []⟩

protected def bind (t : Transcript α) (next : α → Transcript β) : Transcript β :=
  let u := next t.answer
  ⟨u.answer, t.questions ++ u.questions⟩

instance : Monad Transcript where
  pure := Transcript.pure
  bind := Transcript.bind

@[simp] theorem answer_pure (a : α) : (pure a : Transcript α).answer = a := rfl

@[simp] theorem questions_pure (a : α) : (pure a : Transcript α).questions = [] := rfl

@[simp] theorem answer_bind (t : Transcript α) (next : α → Transcript β) :
    (t >>= next).answer = (next t.answer).answer := rfl

@[simp] theorem questions_bind (t : Transcript α) (next : α → Transcript β) :
    (t >>= next).questions = t.questions ++ (next t.answer).questions := rfl

end Transcript

namespace Game

def hasFlag (game : Game) (name : String) : Bool :=
  match game.flagTest? with
  | some test => test name
  | none => (game.lookup .flag name).any Value.truthy

def askLookup (game : Game) (scope : Scope) (name : String) : Transcript (Option Value) :=
  ⟨game.lookup scope name, [.lookup scope name]⟩

def askItem (game : Game) (item : String) (inventory? : Option String) : Transcript Bool :=
  ⟨game.hasItem item inventory?, [.hasItem item inventory?]⟩

def askFlag (game : Game) (name : String) : Transcript Bool :=
  ⟨game.hasFlag name, [.hasFlag name]⟩

def reduce (game : Game) : Question → Question
  | .hasFlag name =>
      match game.flagTest? with
      | some _ => .hasFlag name
      | none => .lookup .flag name
  | question => question

def calls {α : Type} (game : Game) (t : Transcript α) : List Question :=
  t.questions.map game.reduce

end Game

end GameConfig
