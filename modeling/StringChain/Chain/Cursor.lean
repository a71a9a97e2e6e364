import StringChain.Chain.Basic

namespace StringChain

inductive Side where
  | front
  | back
deriving DecidableEq, Repr

structure Cursor where
  front : Option Nat
  back : Option Nat
  remaining : Nat
deriving DecidableEq, Repr

def Side.other : Side → Side
  | front => back
  | back => front

namespace Cursor

def position (k : Cursor) : Side → Option Nat
  | .front => k.front
  | .back => k.back

def advance (k : Cursor) (side : Side) (n : Node) (remaining : Nat) : Cursor :=
  match side with
  | .front => ⟨n.next, k.back, remaining⟩
  | .back => ⟨k.front, n.prev, remaining⟩

def take (k : Cursor) (side : Side) (c : Chain) : Checked (Option Nat × Cursor) :=
  match k.remaining, k.position side with
  | remaining + 1, some i => do
    let n ← c.arena.contentAt i
    .ok (some i, k.advance side n remaining)
  | _, _ => .ok (none, k)

def nth (k : Cursor) (side : Side) (n : Nat) (c : Chain) : Checked (Option Nat × Cursor) :=
  match n with
  | 0 => k.take side c
  | n + 1 => do
    match ← k.take side c with
    | (some _, k') => k'.nth side n c
    | (none, k') => .ok (none, k')

def upTo (k : Cursor) (side : Side) (n : Nat) (c : Chain) : Checked (List Nat) :=
  match n with
  | 0 => .ok []
  | n + 1 => do
    match ← k.take side c with
    | (some i, k') => .ok (i :: (← k'.upTo side n c))
    | (none, _) => .ok []

def rest (k : Cursor) (side : Side) (c : Chain) : Checked (List Nat) := k.upTo side k.remaining c

theorem take_of_none_remaining {k : Cursor} (h : k.remaining = 0) (side : Side) (c : Chain) :
    k.take side c = .ok (none, k) := by
  unfold take
  rw [h]

end Cursor

namespace Chain

def cursor (c : Chain) : Cursor := ⟨c.headIndex, c.tailIndex, c.size⟩

def valueAt (c : Chain) (i : Nat) : Checked String := do .ok (← c.arena.contentAt i).value

def indices (c : Chain) (side : Side) : Checked (List Nat) := c.cursor.rest side c

def valuesFrom (c : Chain) (side : Side) : Checked (List String) := do
  (← c.indices side).mapM c.valueAt

def handlesFrom (c : Chain) (side : Side) : Checked (List Handle) := do
  (← c.indices side).mapM c.handleAt

def values (c : Chain) : Checked (List String) := c.valuesFrom .front

def handles (c : Chain) : Checked (List Handle) := c.handlesFrom .front

end Chain
end StringChain
