/-!
# Ranges of characters

A property of characters is a list of closed ranges of code points, in increasing order.
-/

namespace Songbook.Text

abbrev Ranges := List (Nat × Nat)

def Ranges.has (ranges : Ranges) (c : Char) : Bool :=
  ranges.any fun range => range.1 ≤ c.toNat && c.toNat ≤ range.2

end Songbook.Text
