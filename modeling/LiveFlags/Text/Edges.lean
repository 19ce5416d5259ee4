/-!
# Sets of code points as edges

A set of code points is written as the increasing list of the code points at which membership flips,
beginning with "outside". A code point belongs to the set when an odd number of edges lie at or below
it, and the number of edges at or below a code point is found by halving.
-/
namespace LiveFlags.Text

/-- The positions at which membership flips, in increasing order. -/
abbrev Edges := Array UInt32

namespace Edges

/-- The least index in `[low, low + span]` whose edge lies above `code`, where every edge before `low`
lies at or below it and every edge from `low + span` on lies above it. -/
def countFrom (edges : Edges) (code : UInt32) (low span : Nat) : Nat :=
  if span = 0 then low
  else
    let half := span / 2
    if edges.getD (low + half) 0 ≤ code then countFrom edges code (low + half + 1) (span - half - 1)
    else countFrom edges code low half
termination_by span
decreasing_by all_goals omega

/-- Whether the code point belongs to the set. -/
def contains (edges : Edges) (code : UInt32) : Bool :=
  countFrom edges code 0 edges.size % 2 = 1

end Edges

end LiveFlags.Text
