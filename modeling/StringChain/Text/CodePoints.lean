namespace StringChain.Text

abbrev CodePoints := List (Nat × Nat)

namespace CodePoints

def has (ranges : CodePoints) (c : Char) : Bool :=
  ranges.any fun (first, last) => first ≤ c.toNat && c.toNat ≤ last

end CodePoints
end StringChain.Text
