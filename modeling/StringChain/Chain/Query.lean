import StringChain.Chain.Lookup

namespace StringChain

inductive Query where
  | head
  | tail
  | has (handle : Handle)
  | get (handle : Handle)
  | next (handle : Handle)
  | prev (handle : Handle)
  | find (value : String)
  | rfind (value : String)
  | contains (value : String)
  | size
  | isEmpty
  | handles
  | values
deriving DecidableEq, Repr

inductive Finding where
  | handle? (h? : Option Handle)
  | value? (v? : Option String)
  | flag (b : Bool)
  | count (n : Nat)
  | handles (hs : List Handle)
  | values (vs : List String)
deriving DecidableEq, Repr

def Chain.ask (c : Chain) : Query → Checked Finding
  | .head => .handle? <$> c.head
  | .tail => .handle? <$> c.tail
  | .has h => .ok (.flag (c.has h))
  | .get h => .ok (.value? (c.get? h))
  | .next h => .handle? <$> c.next h
  | .prev h => .handle? <$> c.prev h
  | .find v => .handle? <$> c.find v
  | .rfind v => .handle? <$> c.rfind v
  | .contains v => .flag <$> c.contains v
  | .size => .ok (.count c.size)
  | .isEmpty => .ok (.flag c.isEmpty)
  | .handles => .handles <$> c.handles
  | .values => .values <$> c.values

end StringChain
