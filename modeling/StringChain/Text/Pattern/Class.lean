import StringChain.Text.Pattern.Escape
import StringChain.Text.Pattern.Nesting

namespace StringChain.Text.Pattern

structure Class where
  opening : Bool
  part : Part
deriving DecidableEq, Repr

def Class.push (c : Class) (depth : Nat) : Class := { c with part := c.part.push depth }

def openClass? (m : Mode) (cs : List Char) : Option (Class × List Char) :=
  match m.skip cs with
  | '^' :: rest => if m.unicode then some (⟨true, .empty⟩, rest) else none
  | rest => some (⟨true, .empty⟩, rest)

def classNames : List String :=
  ["alnum", "alpha", "ascii", "blank", "cntrl", "digit", "graph", "lower", "print", "punct",
    "space", "upper", "word", "xdigit"]

def namedClass? : List Char → Option (Bool × List Char)
  | ':' :: '^' :: rest => (named? rest).map (true, ·)
  | ':' :: rest => (named? rest).map (false, ·)
  | _ => none
where
  named? (cs : List Char) : Option (List Char) :=
    match cs.span (· != ':') with
    | (name, ':' :: ']' :: rest) =>
      if classNames.contains (String.ofList name) then some rest else none
    | _ => none

def classItem? (m : Mode) : List Char → Option (Option Nat × List Char)
  | '\\' :: rest => do
    match ← escape? m rest with
    | (.character code, rest) => if m.takesCode code then some (some code, rest) else none
    | (.several, rest) => some (none, rest)
    | (.position, _) => none
  | c :: rest => if m.takesCode c.toNat then some (some c.toNat, rest) else none
  | [] => none

def classRange? (m : Mode) (cs : List Char) : Option (List Char) := do
  let (first, rest) ← classItem? m cs
  match m.skip rest with
  | '-' :: more =>
    if m.peek? more == some ']' || m.peek? more == some '-' then some ('-' :: more)
    else
      match first, ← classItem? m (m.skip more) with
      | some a, (some b, rest) => if a ≤ b then some rest else none
      | _, _ => none
  | rest => some rest

end StringChain.Text.Pattern
