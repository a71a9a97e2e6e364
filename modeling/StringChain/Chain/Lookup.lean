import StringChain.Chain.Cursor

namespace StringChain.Chain

def head (c : Chain) : Checked (Option Handle) := c.handleAt? c.headIndex

def tail (c : Chain) : Checked (Option Handle) := c.handleAt? c.tailIndex

def has (c : Chain) (h : Handle) : Bool :=
  match c.resolve h with
  | .ok _ => true
  | .error _ => false

def node? (c : Chain) (h : Handle) : Option Node :=
  match c.resolve h with
  | .ok i => c.arena.content? i
  | .error _ => none

def get? (c : Chain) (h : Handle) : Option String := (c.node? h).map Node.value

def next (c : Chain) (h : Handle) : Checked (Option Handle) :=
  c.handleAt? ((c.node? h).bind Node.next)

def prev (c : Chain) (h : Handle) : Checked (Option Handle) :=
  c.handleAt? ((c.node? h).bind Node.prev)

def findFrom (c : Chain) (side : Side) (value : String) : Checked (Option Handle) := do
  .ok ((← c.handlesFrom side).find? fun h => c.get? h == some value)

def find (c : Chain) (value : String) : Checked (Option Handle) := c.findFrom .front value

def rfind (c : Chain) (value : String) : Checked (Option Handle) := c.findFrom .back value

def contains (c : Chain) (value : String) : Checked Bool := do
  .ok ((← c.values).any (· == value))

def sameValues (c d : Chain) : Checked Bool :=
  if c.size = d.size then do
    .ok ((← c.values) == (← d.values))
  else .ok false

theorem has_iff {c : Chain} {h : Handle} : c.has h = true ↔ ∃ i, c.resolve h = .ok i := by
  unfold has
  cases c.resolve h <;> simp

theorem get?_of_stale {c : Chain} {h : Handle} {r : Refusal} (stale : c.resolve h = .error r) :
    c.get? h = none := by
  simp [get?, node?, stale]

end StringChain.Chain
