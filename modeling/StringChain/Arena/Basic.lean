import StringChain.Fault
import StringChain.Memory
import StringChain.Slot

namespace StringChain

structure Arena (α : Type) where
  slots : Array (Slot α)
  free : Option Nat
  capacity : Nat

structure Vacated (α : Type) where
  content : α
  arena : Arena α
  retired : Bool

namespace Arena

variable {α : Type}

def empty : Arena α := ⟨#[], none, 0⟩

def size (a : Arena α) : Nat := a.slots.size

def slot? (a : Arena α) (i : Nat) : Option (Slot α) := a.slots[i]?

def content? (a : Arena α) (i : Nat) : Option α := (a.slot? i).bind Slot.content?

def slotAt (a : Arena α) (i : Nat) : Checked (Slot α) :=
  match a.slot? i with
  | some s => .ok s
  | none => .error (.outOfRange i)

def contentAt (a : Arena α) (i : Nat) : Checked α := do
  match (← a.slotAt i).content? with
  | some x => .ok x
  | none => .error (.unoccupied i)

def put (a : Arena α) (i : Nat) (s : Slot α) : Arena α :=
  { a with slots := a.slots.setIfInBounds i s }

def update (a : Arena α) (i : Nat) (f : α → α) : Checked (Arena α) := do
  let s ← a.slotAt i
  match s.content? with
  | some x => .ok (a.put i (s.fill (f x)))
  | none => .error (.unoccupied i)

def grownCapacity (capacity slots : Nat) : Nat := max (max (2 * capacity) (slots + 1)) 4

def hasRoom (a : Arena α) : Bool := a.free.isSome || decide (a.slots.size < a.capacity)

def reserve? (a : Arena α) (m : Memory) : Option (Arena α × Memory) :=
  if a.hasRoom then some (a, m)
  else m.allocate?.map fun m' => ({ a with capacity := grownCapacity a.capacity a.slots.size }, m')

def occupy (a : Arena α) (x : α) : Checked (Arena α × Nat) :=
  match a.free with
  | some i => do
    let s ← a.slotAt i
    match s.entry with
    | .vacant next => .ok ({ a.put i (s.fill x) with free := next }, i)
    | _ => .error (.notVacant i)
  | none =>
    if a.slots.size < a.capacity then
      .ok ({ a with slots := a.slots.push (.fresh x) }, a.slots.size)
    else .error (.unreserved a.slots.size)

def vacate (a : Arena α) (i : Nat) : Checked (Vacated α) := do
  let s ← a.slotAt i
  match s.content? with
  | some x =>
    let s' := s.vacate a.free
    .ok ⟨x, { a.put i s' with free := if s'.isRetired then a.free else some i }, s'.isRetired⟩
  | none => .error (.unoccupied i)

def vacateAll (i : Nat) : List (Slot α) → List (Slot α) × Option Nat
  | [] => ([], none)
  | s :: rest =>
    let (rest', free) := vacateAll (i + 1) rest
    let s' := s.vacate free
    (s' :: rest', if s'.isRetired then free else some i)

def clear (a : Arena α) : Arena α :=
  let (slots, free) := vacateAll 0 a.slots.toList
  { a with slots := slots.toArray, free }

def copy (a : Arena α) : Arena α := { a with capacity := a.slots.size }

end Arena
end StringChain
