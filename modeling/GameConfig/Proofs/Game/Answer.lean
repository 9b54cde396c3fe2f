import GameConfig.Game.Basic

/-!
# Answers of games

Two games can be compared question by question.  A name that was never set reads like one
that was set to the value of its scope, so that games with different answers may still
look the same.  Games of one kind pass the same questions on to their stores.
-/

namespace GameConfig

def Question.unset : Question → Value
  | .lookup scope _ => scope.unset
  | .hasItem _ _ => .boolean false
  | .hasFlag _ => .boolean false

namespace Game

variable {game game' : Game}

def answer (game : Game) : Question → Option Value
  | .lookup scope name => game.lookup scope name
  | .hasItem item inventory? => some (.boolean (game.hasItem item inventory?))
  | .hasFlag name => some (.boolean (game.hasFlag name))

def reading (game : Game) (q : Question) : Value :=
  (game.answer q).getD q.unset

/-- A question is settled between two games if it reads alike in both. -/
def Settled (game game' : Game) (q : Question) : Prop :=
  game'.reading q = game.reading q

theorem settled_of_answer_eq {q : Question} (h : game'.answer q = game.answer q) :
    game.Settled game' q := by
  rw [Settled, reading, reading, h]

/-!
# Games of one kind
-/

def SameKind (game game' : Game) : Prop :=
  game'.flagTest?.isSome = game.flagTest?.isSome

theorem hasFlag_of_flagTest?_eq_none (h : game.flagTest? = none) (name : String) :
    game.hasFlag name = (game.lookup .flag name).any Value.truthy := by
  rw [hasFlag, h]

theorem SameKind.reduce_eq (h : game.SameKind game') : game'.reduce = game.reduce := by
  funext q
  cases q with
  | lookup scope name => rfl
  | hasItem item inventory? => rfl
  | hasFlag name =>
      unfold SameKind at h
      cases htest : game.flagTest? <;> cases htest' : game'.flagTest? <;>
        simp_all [reduce]

theorem SameKind.answer_eq_of_reduce (hkind : game.SameKind game') {q : Question}
    (h : game'.answer (game.reduce q) = game.answer (game.reduce q)) :
    game'.answer q = game.answer q := by
  cases q with
  | lookup scope name => exact h
  | hasItem item inventory? => exact h
  | hasFlag name =>
      cases htest : game.flagTest? with
      | some test => simpa [reduce, htest] using h
      | none =>
          have htest' : game'.flagTest? = none := by
            simpa [SameKind, htest] using hkind
          have hlookup : game'.lookup .flag name = game.lookup .flag name := by
            simpa [reduce, htest, answer] using h
          rw [answer, answer, hasFlag_of_flagTest?_eq_none htest,
            hasFlag_of_flagTest?_eq_none htest', hlookup]

end Game

end GameConfig
