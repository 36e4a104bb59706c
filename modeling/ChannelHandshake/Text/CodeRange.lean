/-!
# Ranges of code points

A class of characters as ascending ranges of code points, both ends included.
-/

namespace ChannelHandshake.Text

/-- Some range of `ranges` holds `code`. -/
def inRanges (ranges : List (Nat × Nat)) (code : Nat) : Bool :=
  ranges.any fun (first, last) => first ≤ code && code ≤ last

end ChannelHandshake.Text
