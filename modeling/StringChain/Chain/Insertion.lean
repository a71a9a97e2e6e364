import StringChain.Chain.Event
import StringChain.Text.Utf8

namespace StringChain.Chain

def accept (c : Chain) (target : Option Handle) (value : String) : Except Refusal (Option Nat) := do
  let place ← match target with
    | some h => some <$> c.resolve h
    | none => .ok none
  match c.policy.objection? value with
  | some objection => .error (.invalidArgument objection)
  | none => .ok place

def link (c : Chain) (place : Option Nat) (value : String) : Checked (Chain × Nat) := do
  let prev ← c.prevOf place
  let (arena, index) ← c.arena.occupy ⟨value, prev, place⟩
  let c ← { c with arena }.setNext prev (some index)
  let c ← c.setPrev place (some index)
  .ok ({ c with size := c.size + 1 }, index)

def rejectInsert (c : Chain) (refusal : Refusal) : Outcome Handle :=
  ⟨.error refusal, c, [.insertRejected refusal]⟩

def insertBefore (c : Chain) (target : Option Handle) (value : String) (m : Memory) :
    Checked (Outcome Handle × Memory) :=
  match c.accept target value with
  | .error refusal => .ok (c.rejectInsert refusal, m)
  | .ok place =>
    match c.arena.reserve? m with
    | none => .ok (c.rejectInsert .nodeAllocation, m)
    | some (arena, m) =>
      let c := { c with arena }
      match m.hold? value.utf8ByteSize with
      | none => .ok (c.rejectInsert (.valueAllocation value.utf8ByteSize), m)
      | some m => do
        let (c, index) ← c.link place value
        let handle ← c.handleAt index
        .ok (⟨.ok handle, c, [.inserted index c.size]⟩, m)

def insertBytes (c : Chain) (target : Option Handle) (bytes : ByteArray) (m : Memory) :
    Checked (Outcome Handle × Memory) :=
  let bytes := Text.untilNul bytes
  match String.fromUTF8? bytes with
  | some value => c.insertBefore target value m
  | none => .ok (⟨.error (.invalidArgument (.notUtf8 (Text.validUpTo bytes))), c, []⟩, m)

def pushBack (c : Chain) (value : String) (m : Memory) : Checked (Outcome Handle × Memory) :=
  c.insertBefore none value m

def pushFront (c : Chain) (value : String) (m : Memory) : Checked (Outcome Handle × Memory) := do
  c.insertBefore (← c.handleAt? c.headIndex) value m

def extend (c : Chain) (values : List String) (m : Memory) : Checked (Outcome Unit × Memory) :=
  match values with
  | [] => .ok (⟨.ok (), c, []⟩, m)
  | value :: rest => do
    let (first, m) ← c.pushBack value m
    match first.result with
    | .error refusal => .ok (⟨.error refusal, first.chain, first.events⟩, m)
    | .ok _ =>
      let (others, m) ← first.chain.extend rest m
      .ok ({ others with events := first.events ++ others.events }, m)

end StringChain.Chain
