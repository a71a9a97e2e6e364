import StringChain.Chain.Event

namespace StringChain.Chain

def unlink (c : Chain) (index : Nat) : Checked (Chain × String × Bool) := do
  let ⟨node, arena, retired⟩ ← c.arena.vacate index
  let c ← { c with arena }.join node.prev node.next
  match c.size with
  | size + 1 => .ok ({ c with size }, node.value, retired)
  | 0 => .error .countBelowZero

def remove (c : Chain) (h : Handle) : Checked (Outcome String) :=
  match c.resolve h with
  | .error refusal => .ok ⟨.error refusal, c, [.deleteRejected refusal]⟩
  | .ok index => do
    let (c, value, retired) ← c.unlink index
    let deleted := Event.deleted index c.size
    .ok ⟨.ok value, c, if retired then [.retired index, deleted] else [deleted]⟩

def delete (c : Chain) (target : Option Handle) : Checked (Outcome Unit) :=
  match target with
  | some h => do .ok ((← c.remove h).map fun _ => ())
  | none => .ok ⟨.ok (), c, []⟩

def clear (c : Chain) : Chain :=
  { c with arena := c.arena.clear, headIndex := none, tailIndex := none, size := 0 }

def setGeneration (c : Chain) (h : Handle) (generation : UInt32) :
    Except Refusal (Chain × Handle) := do
  let index ← c.resolve h
  match c.arena.slot? index with
  | some s =>
    .ok ({ c with arena := c.arena.put index { s with generation } }, ⟨c.id, index, generation⟩)
  | none => .error .staleNode

end StringChain.Chain
