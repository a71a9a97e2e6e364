import StringChain.Text.Structured

namespace StringChain

inductive Objection where
  | interiorNul (offset : Nat)
  | notUtf8 (validUpTo : Nat)
  | tooLong (length limit : Nat)
  | foreignNode
  | staleNode
deriving DecidableEq, Repr

inductive Refusal where
  | nodeAllocation
  | valueAllocation (length : Nat)
  | invalidArgument (objection : Objection)
deriving DecidableEq, Repr

namespace Objection

def message : Objection → String
  | interiorNul offset => s!"value contains a NUL byte at offset {offset}"
  | notUtf8 validUpTo => s!"value is not valid UTF-8 (valid up to byte {validUpTo})"
  | tooLong length limit => s!"value is {length} bytes, limit is {limit}"
  | foreignNode => "node belongs to another list"
  | staleNode => "node has been deleted"

def debug : Objection → String
  | interiorNul offset => Text.structured "InteriorNul" [("offset", toString offset)]
  | notUtf8 validUpTo => Text.structured "NotUtf8" [("valid_up_to", toString validUpTo)]
  | tooLong length limit =>
    Text.structured "TooLong" [("len", toString length), ("max", toString limit)]
  | foreignNode => "ForeignNode"
  | staleNode => "StaleNode"

end Objection

namespace Refusal

def foreignNode : Refusal := .invalidArgument .foreignNode
def staleNode : Refusal := .invalidArgument .staleNode

def code : Refusal → Int
  | nodeAllocation => -1
  | valueAllocation _ => -2
  | invalidArgument _ => -3

def isAllocationFailure : Refusal → Bool
  | nodeAllocation => true
  | valueAllocation _ => true
  | invalidArgument _ => false

def message : Refusal → String
  | nodeAllocation => "Allocation failure: could not reserve a node slot"
  | valueAllocation length => s!"Allocation failure: could not reserve {length} bytes for the value"
  | invalidArgument objection => "Invalid argument: " ++ objection.message

def debug : Refusal → String
  | nodeAllocation => "NodeAllocation"
  | valueAllocation length => Text.structured "ValueAllocation" [("len", toString length)]
  | invalidArgument objection => "InvalidArgument(" ++ objection.debug ++ ")"

def source? : Refusal → Option String
  | nodeAllocation => none
  | valueAllocation _ => none
  | invalidArgument objection => some objection.message

end Refusal
end StringChain
