import StringChain.Chain.Format
import StringChain.Chain.Insertion
import StringChain.Workspace

namespace StringChain.Demo

def values : List String := ["First", "Second", "Third", "Fourth", "Fifth"]

structure Report where
  output : String
  records : List Log.Record
  complaint : Option String

def Report.exitCode (r : Report) : UInt32 := if r.complaint.isSome then 1 else 0

def built (size : Nat) : Log.Record := ⟨.info, "stringlist", "list built", [("size", .number size)]⟩

def run : Checked Report := do
  let id := Workspace.empty.nextId
  let (o, _) ← (Chain.empty id .standard).extend values .unlimited
  let records := o.events.map (Event.record id)
  match o.result with
  | .ok _ => .ok ⟨(← o.chain.display) ++ "\n", records ++ [built o.chain.size], none⟩
  | .error refusal => .ok ⟨"", records, some refusal.message⟩

end StringChain.Demo
