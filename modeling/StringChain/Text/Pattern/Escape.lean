import StringChain.Text.Blank

namespace StringChain.Text.Pattern

structure Mode where
  foldsCase : Bool
  unicode : Bool
  spaced : Bool
deriving DecidableEq, Repr

inductive Escape where
  | character (code : Nat)
  | several
  | position
deriving DecidableEq, Repr

namespace Mode

def standard : Mode := ⟨false, true, false⟩

def takesCharacters (m : Mode) : Bool := !(m.foldsCase && m.unicode)

def takesCode (m : Mode) (code : Nat) : Bool := m.unicode || decide (code < 0x80)

def flagged? (m : Mode) (flags : List Char) : Option Mode :=
  if flags.all ['i', 'm', 's', 'U', 'u', 'x', 'R', '-'].contains && decide flags.Nodup &&
      flags.getLast? != some '-' then
    let (on, off) := flags.span (· != '-')
    let set (flag : Char) (old : Bool) := on.contains flag || (old && !off.contains flag)
    some ⟨set 'i' m.foldsCase, set 'u' m.unicode, set 'x' m.spaced⟩
  else none

def behindBlanks (inComment : Bool) : List Char → List Char
  | [] => []
  | c :: rest =>
    if inComment then behindBlanks (c != '\n') rest
    else if isBlank c then behindBlanks false rest
    else if c == '#' then behindBlanks true rest
    else c :: rest

def skip (m : Mode) (cs : List Char) : List Char := if m.spaced then behindBlanks false cs else cs

-- Passes blanks and one mark of a comment, and stays where it is if nothing else is left.
def peek? (m : Mode) (cs : List Char) : Option Char :=
  if m.spaced then
    let found := match cs.dropWhile isBlank with
      | '#' :: rest => rest.dropWhile isBlank
      | rest => rest
    found.head?.or cs.head?
  else cs.head?

end Mode

def isPunctuation (c : Char) : Bool :=
  decide (c.toNat < 0x80) && !c.isAlphanum && c != '<' && c != '>'

def hexValue? (c : Char) : Option Nat :=
  if '0' ≤ c ∧ c ≤ '9' then some (c.toNat - 48)
  else if 'a' ≤ c ∧ c ≤ 'f' then some (c.toNat - 87)
  else if 'A' ≤ c ∧ c ≤ 'F' then some (c.toNat - 55)
  else none

def hexDigits? (m : Mode) (n code : Nat) (cs : List Char) : Option (Nat × List Char) :=
  match n with
  | 0 => some (code, cs)
  | n + 1 =>
    match m.skip cs with
    | c :: rest => do hexDigits? m n (16 * code + (← hexValue? c)) rest
    | [] => none

def codeEscape? (m : Mode) (n : Nat) (cs : List Char) : Option (Escape × List Char) := do
  let (code, rest) ← hexDigits? m n 0 cs
  if code.isValidChar then some (.character code, rest) else none

def escape? (m : Mode) : List Char → Option (Escape × List Char)
  | 'x' :: rest =>
    (codeEscape? m 2 rest).filter fun
      | (.character code, _) => m.takesCode code
      | _ => false
  | 'u' :: rest => codeEscape? m 4 rest
  | 'U' :: rest => codeEscape? m 8 rest
  | 'a' :: rest => some (.character 0x07, rest)
  | 'f' :: rest => some (.character 0x0C, rest)
  | 't' :: rest => some (.character 0x09, rest)
  | 'n' :: rest => some (.character 0x0A, rest)
  | 'r' :: rest => some (.character 0x0D, rest)
  | 'v' :: rest => some (.character 0x0B, rest)
  | 'A' :: rest => some (.position, rest)
  | 'z' :: rest => some (.position, rest)
  | c :: rest =>
    if isPunctuation c then some (.character c.toNat, rest)
    else if m.unicode then none
    else if ['d', 's', 'w'].contains c then some (.several, rest)
    else if ['b', 'B', '<', '>'].contains c then some (.position, rest)
    else none
  | [] => none

end StringChain.Text.Pattern
