import StringChain.Arena.Basic
import StringChain.Policy

namespace StringChain

abbrev ChainId := UInt64

structure Handle where
  chain : ChainId
  index : Nat
  generation : UInt32
deriving DecidableEq, Repr

structure Node where
  value : String
  prev : Option Nat
  next : Option Nat
deriving DecidableEq, Repr

structure Chain where
  id : ChainId
  policy : Policy
  arena : Arena Node
  headIndex : Option Nat
  tailIndex : Option Nat
  size : Nat

namespace Chain

def empty (id : ChainId) (policy : Policy) : Chain := ⟨id, policy, .empty, none, none, 0⟩

def copy (c : Chain) (id : ChainId) : Chain := { c with id, arena := c.arena.copy }

def isEmpty (c : Chain) : Bool := c.size == 0

def resolve (c : Chain) (h : Handle) : Except Refusal Nat :=
  if h.chain = c.id then
    match c.arena.slot? h.index with
    | some s =>
      if s.generation = h.generation ∧ s.content?.isSome then .ok h.index else .error .staleNode
    | none => .error .staleNode
  else .error .foreignNode

def handleAt (c : Chain) (i : Nat) : Checked Handle := do
  let s ← c.arena.slotAt i
  .ok ⟨c.id, i, s.generation⟩

def handleAt? (c : Chain) : Option Nat → Checked (Option Handle)
  | some i => do .ok (some (← c.handleAt i))
  | none => .ok none

-- `none` stands for the outside, which comes after the tail and before the head.
def nextOf (c : Chain) : Option Nat → Checked (Option Nat)
  | some i => do .ok (← c.arena.contentAt i).next
  | none => .ok c.headIndex

def prevOf (c : Chain) : Option Nat → Checked (Option Nat)
  | some i => do .ok (← c.arena.contentAt i).prev
  | none => .ok c.tailIndex

def setNext (c : Chain) (place target : Option Nat) : Checked Chain :=
  match place with
  | some i => do .ok { c with arena := ← c.arena.update i fun n => { n with next := target } }
  | none => .ok { c with headIndex := target }

def setPrev (c : Chain) (place target : Option Nat) : Checked Chain :=
  match place with
  | some i => do .ok { c with arena := ← c.arena.update i fun n => { n with prev := target } }
  | none => .ok { c with tailIndex := target }

def join (c : Chain) (before after : Option Nat) : Checked Chain := do
  (← c.setNext before after).setPrev after before

theorem resolve_of_foreign {c : Chain} {h : Handle} (foreign : h.chain ≠ c.id) :
    c.resolve h = .error .foreignNode := by
  simp [resolve, foreign]

theorem resolve_eq_ok {c : Chain} {h : Handle} {i : Nat} :
    c.resolve h = .ok i ↔
      h.chain = c.id ∧ h.index = i ∧
        ∃ s n, c.arena.slot? i = some s ∧ s.generation = h.generation ∧ s.content? = some n := by
  unfold resolve
  split
  · next own =>
    cases hs : c.arena.slot? h.index with
    | none =>
      simp only [reduceCtorEq, false_iff, not_and, not_exists]
      rintro - rfl s n hs'
      simp [hs] at hs'
    | some s =>
      simp only
      split
      · next live =>
        obtain ⟨n, hn⟩ := Option.isSome_iff_exists.mp live.2
        constructor
        · intro e
          cases e
          exact ⟨own, rfl, s, n, hs, live.1, hn⟩
        · rintro ⟨-, rfl, -⟩
          rfl
      · next dead =>
        simp only [reduceCtorEq, false_iff]
        rintro ⟨-, rfl, s', n, hs', hg, hn⟩
        rw [hs] at hs'
        cases hs'
        exact dead ⟨hg, by simp [hn]⟩
  · next foreign => simp [foreign]

end Chain
end StringChain
