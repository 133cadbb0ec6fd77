set_option autoImplicit false

namespace Casework.Text

structure CodeRange where
  first : Nat
  last : Nat
deriving Repr, DecidableEq

def inRanges (ranges : List CodeRange) (letter : Char) : Bool :=
  ranges.any fun range => range.first ≤ letter.toNat && letter.toNat ≤ range.last

end Casework.Text
