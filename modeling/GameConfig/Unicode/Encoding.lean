import GameConfig.Unicode.Ranges

/-!
# Encodings of ranges

In UTF-8 a character is a leading byte and up to three bytes of six more bits each.  The
characters of a range are those of a few sequences of byte ranges, in ascending order.
-/

namespace GameConfig
namespace Unicode

abbrev ByteRanges := List (Nat × Nat)

def followers : Nat × Nat := (0x80, 0xBF)

/-- The byte ranges of a range of numbers that are written as one byte, counted from a first one,
and a number of further bytes. -/
def byteRangesFrom (base : Nat) : (more first last : Nat) → List ByteRanges
  | 0, first, last => [[(base + first, base + last)]]
  | more + 1, first, last =>
      let block := Nat.pow 64 (more + 1)
      let start := first / block
      let stop := last / block
      let under (digit first last : Nat) : List ByteRanges :=
        (byteRangesFrom 0x80 more first last).map ((base + digit, base + digit) :: ·)
      if start = stop then under start (first % block) (last % block)
      else
        let cutsHead := first % block ≠ 0
        let cutsTail := last % block ≠ block - 1
        let head := if cutsHead then under start (first % block) (block - 1) else []
        let tail := if cutsTail then under stop 0 (last % block) else []
        let low := if cutsHead then start + 1 else start
        let high := if cutsTail then stop - 1 else stop
        let middle :=
          if low ≤ high then
            [(base + low, base + high) :: List.replicate (more + 1) followers]
          else []
        head ++ middle ++ tail

/-- The blocks of code points whose encodings have the same length, each with the leading byte of
its code point zero and the number of further bytes. -/
def encodingBlocks : List ((Nat × Nat) × Nat × Nat) :=
  [((0, 0x7F), 0, 0), ((0x80, 0x7FF), 0xC0, 1), ((0x800, 0xD7FF), 0xE0, 2),
    ((0xE000, 0xFFFF), 0xE0, 2), ((0x10000, 0x10FFFF), 0xF0, 3)]

def byteRanges (range : Nat × Nat) : List ByteRanges :=
  encodingBlocks.flatMap fun ((first, last), base, more) =>
    if max first range.1 ≤ min last range.2 then
      byteRangesFrom base more (max first range.1) (min last range.2)
    else []

end Unicode
end GameConfig
