import Songbook.Text.Lower

/-!
# Collations

How two texts are compared: letter by letter, or by their lower-cased forms.
-/

namespace Songbook

inductive Collation where
  | simple
  | caseInsensitive
  deriving DecidableEq

namespace Collation

/-- Two texts are equal under a collation if their keys are. -/
def key : Collation → String → String
  | simple, s => s
  | caseInsensitive, s => Text.lower s

def compare (collation : Collation) (a b : String) : Ordering :=
  Ord.compare (collation.key a) (collation.key b)

def equals (collation : Collation) (a b : String) : Bool :=
  collation.compare a b == .eq

end Collation

end Songbook
