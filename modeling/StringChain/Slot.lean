namespace StringChain

inductive Entry (α : Type) where
  | occupied (content : α)
  | vacant (next : Option Nat)
  | retired
deriving DecidableEq, Repr

structure Slot (α : Type) where
  generation : UInt32
  entry : Entry α
deriving DecidableEq, Repr

namespace Slot

variable {α : Type}

def lastGeneration : UInt32 := 0xFFFFFFFF

def fresh (content : α) : Slot α := ⟨0, .occupied content⟩

def content? (s : Slot α) : Option α :=
  match s.entry with
  | .occupied content => some content
  | .vacant _ => none
  | .retired => none

def isRetired (s : Slot α) : Bool :=
  match s.entry with
  | .occupied _ => false
  | .vacant _ => false
  | .retired => true

def fill (s : Slot α) (content : α) : Slot α := { s with entry := .occupied content }

def vacate (s : Slot α) (free : Option Nat) : Slot α :=
  match s.entry with
  | .occupied _ =>
    if s.generation = lastGeneration then { s with entry := .retired }
    else ⟨s.generation + 1, .vacant free⟩
  | .vacant _ => { s with entry := .vacant free }
  | .retired => s

theorem content?_eq_some {s : Slot α} {x : α} : s.content? = some x ↔ s.entry = .occupied x := by
  cases s with
  | mk g e => cases e <;> simp [content?]

theorem isRetired_iff {s : Slot α} : s.isRetired = true ↔ s.entry = .retired := by
  cases s with
  | mk g e => cases e <;> simp [isRetired]

theorem content?_fill (s : Slot α) (x : α) : (s.fill x).content? = some x := rfl

theorem generation_fill (s : Slot α) (x : α) : (s.fill x).generation = s.generation := rfl

theorem content?_vacate (s : Slot α) (free : Option Nat) : (s.vacate free).content? = none := by
  cases s with
  | mk g e =>
    cases e with
    | occupied x => simp only [vacate]; split <;> rfl
    | vacant n => rfl
    | retired => rfl

end Slot
end StringChain
