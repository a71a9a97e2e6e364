import StringChain.Text.Letter
import StringChain.Text.Numeral
import StringChain.Text.Pattern.Class

namespace StringChain.Text.Pattern

structure State where
  mode : Mode
  part : Part
  outer : List (Mode × Part)
  names : List (List Char)
  classes : List Class
  repeatable : Bool
deriving DecidableEq, Repr

def State.initial : State := ⟨.standard, .empty, [], [], [], false⟩

def isWordCharacter (c : Char) : Bool := c == '_' || isLetter c || isNumeral c

def isGroupName : List Char → Bool
  | [] => false
  | c :: cs =>
    (c == '_' || isLetter c) && cs.all fun c => isWordCharacter c || ['.', '[', ']'].contains c

def openGroup (s : State) (mode : Mode) : State :=
  { s with mode, part := .empty, outer := (s.mode, s.part) :: s.outer, repeatable := false }

def closeGroup? (s : State) : Option State :=
  match s.outer with
  | (mode, part) :: outer =>
    some { s with mode, part := part.push (s.part.depth + 1), outer, repeatable := true }
  | [] => none

def namedGroup? (s : State) (cs : List Char) : Option (State × List Char) :=
  match cs.span (· != '>') with
  | (name, '>' :: rest) =>
    if isGroupName name && !s.names.contains name then
      some ({ openGroup s s.mode with names := name :: s.names }, rest)
    else none
  | _ => none

def group? (s : State) : List Char → Option (State × List Char)
  | '?' :: 'P' :: '<' :: rest => namedGroup? s rest
  | '?' :: '<' :: rest => namedGroup? s rest
  | '?' :: rest => do
    let (flags, rest) := rest.span fun c => c != ':' && c != ')'
    let mode ← s.mode.flagged? flags
    match rest with
    | ':' :: rest => some (openGroup s mode, rest)
    | ')' :: rest =>
      if flags.isEmpty then none
      else some ({ s with mode, part := s.part.push 0, repeatable := false }, rest)
    | _ => none
  | rest => some (openGroup s s.mode, rest)

def item? (s : State) (good : Bool) (rest : List Char) : Option (State × List Char) :=
  if good then some ({ s with part := s.part.push 0, repeatable := true }, rest) else none

def repeat? (s : State) (rest : List Char) : Option (State × List Char) :=
  if s.repeatable then
    some ({ s with part := { s.part with row := s.part.row.repeatLast } },
      match rest with
      | '?' :: rest => rest
      | rest => rest)
  else none

def outsideStep? (s : State) : List Char → Option (State × List Char)
  | '(' :: rest => group? s (s.mode.skip rest)
  | ')' :: rest => (closeGroup? s).map (·, rest)
  | '|' :: rest => some ({ s with part := s.part.alternate, repeatable := false }, rest)
  | '*' :: rest => repeat? s rest
  | '+' :: rest => repeat? s rest
  | '?' :: rest => repeat? s rest
  | '{' :: _ => none
  | '[' :: rest => do
    let (c, rest) ← openClass? s.mode rest
    some ({ s with classes := [c] }, rest)
  | '\\' :: rest => do
    match ← escape? s.mode rest with
    | (.character _, rest) => item? s s.mode.takesCharacters rest
    | (_, rest) => item? s true rest
  | '.' :: rest => item? s s.mode.unicode rest
  | '^' :: rest => item? s true rest
  | '$' :: rest => item? s true rest
  | _ :: rest => item? s s.mode.takesCharacters rest
  | [] => none

def closeClass (s : State) (c : Class) (around : List Class) : State :=
  match around with
  | c' :: around => { s with classes := c'.push (c.part.depth + 1) :: around }
  | [] => { s with classes := [], part := s.part.push (c.part.depth + 1), repeatable := true }

def classStep? (s : State) (c : Class) (around : List Class) (cs : List Char) :
    Option (State × List Char) :=
  let within (c : Class) : State := { s with classes := c :: around }
  let item? (c : Class) (rest : List Char) : Option (State × List Char) :=
    if s.mode.takesCharacters then some (within (c.push 0), rest) else none
  let inside : Class := { c with opening := false }
  let operate (rest : List Char) := some (within { inside with part := c.part.operate }, rest)
  match c.opening, cs with
  | true, '-' :: rest => item? c rest
  | opening, ']' :: rest =>
    if opening && c.part.row.count == 0 then item? inside rest
    else some (closeClass s c around, rest)
  | _, '[' :: rest =>
    match namedClass? rest with
    | some (negated, rest) => if negated && !s.mode.unicode then none else item? inside rest
    | none => do
      let (c', rest) ← openClass? s.mode rest
      some ({ s with classes := c' :: inside :: around }, rest)
  | _, '&' :: '&' :: rest => operate rest
  | _, '-' :: '-' :: rest => operate rest
  | _, '~' :: '~' :: rest => operate rest
  | _, cs => do item? inside (← classRange? s.mode cs)

def step? (s : State) (cs : List Char) : Option (State × List Char) :=
  match s.classes with
  | c :: around => classStep? s c around cs
  | [] => outsideStep? s cs

def reads (s : State) (cs : List Char) : Bool :=
  let here := s.mode.skip cs
  if here.isEmpty then
    s.outer.isEmpty && s.classes.isEmpty && decide (s.part.depth ≤ depthLimit)
  else
    match step? s here with
    | some (s, rest) => if rest.length < cs.length then reads s rest else false
    | none => false
termination_by cs.length

def isPattern (text : String) : Bool := reads .initial text.toList

end StringChain.Text.Pattern
