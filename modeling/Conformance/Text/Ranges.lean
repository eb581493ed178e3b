/-
# Ranges of characters

A class of characters is given by ranges of code points, in three lists so that a look-up goes
through one of them only.
-/

namespace Conformance.Text

/-- Whether a code point lies in one of the ranges. -/
def inRanges (ranges : List (Nat × Nat)) (code : Nat) : Bool :=
  ranges.any fun (first, last) => first ≤ code && code ≤ last

/-- Whether a character lies in one of the ranges: `low` has those below U+1000, `middle` those
that begin between U+1000 and U+FFFF, and `high` all others. -/
def inPlane (low middle high : List (Nat × Nat)) (c : Char) : Bool :=
  if c.toNat < 0x1000 then inRanges low c.toNat
  else if c.toNat < 0x10000 then inRanges middle c.toNat
  else inRanges high c.toNat

end Conformance.Text
