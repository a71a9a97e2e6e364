import StringChain.Chain.Basic
import StringChain.Log.Record

namespace StringChain

inductive Event where
  | inserted (index size : Nat)
  | insertRejected (refusal : Refusal)
  | retired (index : Nat)
  | deleted (index size : Nat)
  | deleteRejected (refusal : Refusal)
deriving DecidableEq, Repr

namespace Event

def target : String := "stringlist::list"

def level : Event → Log.Level
  | inserted _ _ => .trace
  | insertRejected _ => .debug
  | retired _ => .debug
  | deleted _ _ => .trace
  | deleteRejected _ => .debug

def message : Event → String
  | inserted _ _ => "inserted node"
  | insertRejected _ => "insert rejected"
  | retired _ => "slot generation exhausted, retiring"
  | deleted _ _ => "deleted node"
  | deleteRejected _ => "delete rejected"

def fields : Event → List (String × Log.Field)
  | inserted index size => [("index", .number index), ("size", .number size)]
  | insertRejected refusal => [("error", .text refusal.message)]
  | retired index => [("index", .number index)]
  | deleted index size => [("index", .number index), ("size", .number size)]
  | deleteRejected refusal => [("error", .text refusal.message)]

def record (id : ChainId) (e : Event) : Log.Record :=
  ⟨e.level, target, e.message, ("list", .number id.toNat) :: e.fields⟩

end Event

structure Outcome (α : Type) where
  result : Except Refusal α
  chain : Chain
  events : List Event

def Outcome.map {α β : Type} (f : α → β) (o : Outcome α) : Outcome β :=
  { o with result := o.result.map f }

end StringChain
