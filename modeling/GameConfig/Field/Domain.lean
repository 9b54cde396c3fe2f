import GameConfig.Keyword

/-!
# Words of the game's domain

The closed sets that configurations name by keyword.  The first element of each is the one to
take when nothing is said.
-/

namespace GameConfig

inductive Animation where
  | looped
  | playOnce
  | backAndForth
deriving DecidableEq, Repr, Inhabited

instance : Keyword Animation where
  all := [.looped, .playOnce, .backAndForth]
  word
    | .looped => "looped"
    | .playOnce => "playOnce"
    | .backAndForth => "backAndForth"

inductive Direction where
  | front
  | frontLeft
  | left
  | backLeft
  | back
  | backRight
  | right
  | frontRight
  | all
deriving DecidableEq, Repr, Inhabited

instance : Keyword Direction where
  all :=
    [.front, .frontLeft, .left, .backLeft, .back, .backRight, .right, .frontRight, .all]
  word
    | .front => "front"
    | .frontLeft => "frontLeft"
    | .left => "left"
    | .backLeft => "backLeft"
    | .back => "back"
    | .backRight => "backRight"
    | .right => "right"
    | .frontRight => "frontRight"
    | .all => "all"

inductive Inventory where
  | body
  | belt
  | stash
deriving DecidableEq, Repr, Inhabited

instance : Keyword Inventory where
  all := [.body, .belt, .stash]
  word
    | .body => "body"
    | .belt => "belt"
    | .stash => "stash"

inductive Status where
  | stand
  | walk
  | attack
  | hit
  | dead
deriving DecidableEq, Repr, Inhabited

instance : Keyword Status where
  all := [.stand, .walk, .attack, .hit, .dead]
  word
    | .stand => "stand"
    | .walk => "walk"
    | .attack => "attack"
    | .hit => "hit"
    | .dead => "dead"

end GameConfig
