import HostSurvey.Pattern.CharSet
import HostSurvey.Text.Utf8

/-!
# Encoded sets

`CharSet.encodings` writes a set of characters as sequences of byte ranges: one
range for each byte of an encoding, every choice of a byte from each range being
the encoding of a member. The sequences are in ascending order.
-/

namespace HostSurvey.Pattern

open Text

/-- A range of bytes for each place of an encoding. -/
abbrev ByteRanges := List (Nat × Nat)

/-- Cuts a range where its ends lie inside a block, for blocks of the given sizes, large ones
first, so that every piece lies in one block or is made of whole ones. -/
def alignedPieces : List Nat → Nat → Nat → List (Nat × Nat)
  | [], low, high => [(low, high)]
  | size :: sizes, low, high =>
    if low / size = high / size then alignedPieces sizes low high
    else
      let first := (low + size - 1) / size * size
      let behind := (high + 1) / size * size
      (if low < first then alignedPieces sizes low (first - 1) else []) ++
        (if first < behind then [(first, behind - 1)] else []) ++
        (if behind ≤ high then alignedPieces sizes behind high else [])

/-- The code points by the length of their encodings, without the surrogates, each with the sizes
of the blocks that share their first bytes. -/
def encodingClasses : List (Nat × Nat × List Nat) :=
  [(0, 0x7F, []), (0x80, 0x7FF, [64]), (0x800, 0xD7FF, [4096, 64]), (0xE000, 0xFFFF, [4096, 64]),
    (0x10000, 0x10FFFF, [262144, 4096, 64])]

/-- The byte ranges between the encodings of the ends of a piece. -/
def byteRanges (piece : Nat × Nat) : ByteRanges :=
  List.zipWith (fun a b => (a.toNat, b.toNat)) (Utf8.encodeChar (Char.ofNat piece.1))
    (Utf8.encodeChar (Char.ofNat piece.2))

def CharSet.encodings (s : CharSet) : List ByteRanges :=
  s.runs.flatMap fun r =>
    encodingClasses.flatMap fun c =>
      let low := max r.1 c.1
      let high := min r.2 c.2.1
      if low ≤ high then (alignedPieces c.2.2 low high).map byteRanges else []

end HostSurvey.Pattern
