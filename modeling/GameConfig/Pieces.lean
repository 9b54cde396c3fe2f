/-!
# Pieces of a text

A mark divides a text into one piece more than it occurs there.
-/

namespace GameConfig

def pieces (mark : Char) : List Char → List (List Char)
  | [] => [[]]
  | c :: rest =>
      if c = mark then [] :: pieces mark rest
      else
        match pieces mark rest with
        | [] => [[c]]
        | piece :: more => (c :: piece) :: more

end GameConfig
