/-!
# Ranges of characters

A class of characters is given by the closed ranges of its code points, in ascending order.
`Ranges.contains` finds a character by halving.
-/

namespace StartupGate.Text

/-- Closed ranges of code points, ascending. -/
abbrev Ranges := Array (Nat × Nat)

namespace Ranges

/-- Looks for the range that holds `n` among the entries `lo` to `hi` (exclusive). The fuel bounds
the number of halvings. -/
def search (table : Ranges) (n : Nat) : (fuel lo hi : Nat) → Bool
  | 0, _, _ => false
  | fuel + 1, lo, hi =>
    if lo < hi then
      let mid := (lo + hi) / 2
      match table[mid]? with
      | none => false
      | some (first, last) =>
        if n < first then search table n fuel lo mid
        else if last < n then search table n fuel (mid + 1) hi
        else true
    else false

/-- Whether a character is in one of some ranges. -/
def contains (table : Ranges) (c : Char) : Bool := search table c.toNat 16 0 table.size

end Ranges

end StartupGate.Text
