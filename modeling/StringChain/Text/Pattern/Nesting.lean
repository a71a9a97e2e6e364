namespace StringChain.Text.Pattern

structure Row where
  count : Nat
  deepest : Nat
  last : Nat
deriving DecidableEq, Repr

namespace Row

def empty : Row := ⟨0, 0, 0⟩

def push (r : Row) (depth : Nat) : Row := ⟨r.count + 1, max r.deepest depth, depth⟩

def repeatLast (r : Row) : Row := ⟨r.count, max r.deepest (r.last + 1), r.last + 1⟩

def depth (r : Row) : Nat := if r.count ≤ 1 then r.deepest else r.deepest + 1

end Row

structure Part where
  left : Option Nat
  row : Row
deriving DecidableEq, Repr

namespace Part

def empty : Part := ⟨none, .empty⟩

def push (p : Part) (depth : Nat) : Part := { p with row := p.row.push depth }

def depth (p : Part) : Nat :=
  match p.left with
  | some left => max left p.row.depth + 1
  | none => p.row.depth

def alternate (p : Part) : Part := ⟨some (max (p.left.getD 0) p.row.depth), .empty⟩

def operate (p : Part) : Part := ⟨some p.depth, .empty⟩

end Part

def depthLimit : Nat := 250

end StringChain.Text.Pattern
