import StringChain.Chain.Deletion
import StringChain.Chain.Insertion

namespace StringChain

inductive Call where
  | insertBefore (target : Option Handle) (value : String)
  | insertBytes (target : Option Handle) (bytes : ByteArray)
  | pushBack (value : String)
  | pushFront (value : String)
  | extend (values : List String)
  | delete (target : Option Handle)
  | remove (handle : Handle)
  | clear

inductive Reply where
  | handle (h : Handle)
  | value (v : String)
  | done
deriving DecidableEq, Repr

namespace Chain

def perform (c : Chain) (call : Call) (m : Memory) : Checked (Outcome Reply × Memory) :=
  match call with
  | .insertBefore target value => issued (c.insertBefore target value m)
  | .insertBytes target bytes => issued (c.insertBytes target bytes m)
  | .pushBack value => issued (c.pushBack value m)
  | .pushFront value => issued (c.pushFront value m)
  | .extend values => do
    let (o, m) ← c.extend values m
    .ok (o.map fun _ => .done, m)
  | .delete target => do .ok ((← c.delete target).map fun _ => .done, m)
  | .remove handle => do .ok ((← c.remove handle).map .value, m)
  | .clear => .ok (⟨.ok .done, c.clear, []⟩, m)
where
  issued (answer : Checked (Outcome Handle × Memory)) : Checked (Outcome Reply × Memory) := do
    let (o, m) ← answer
    .ok (o.map .handle, m)

end Chain
end StringChain
