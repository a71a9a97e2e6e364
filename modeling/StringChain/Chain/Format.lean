import StringChain.Chain.Cursor
import StringChain.Text.Bracketed
import StringChain.Text.Hidden
import StringChain.Text.Quoted

namespace StringChain

def separator : String := ", "

inductive Style where
  | plain
  | quoted
deriving DecidableEq, Repr

inductive Alignment where
  | left
  | centre
  | right
deriving DecidableEq, Repr

structure FormatSpec where
  style : Style
  alternate : Bool
  fill : Char
  alignment : Option Alignment
  width : Option Nat
  precision : Option Nat
deriving DecidableEq, Repr

def FormatSpec.ofStyle (style : Style) (alternate : Bool) : FormatSpec :=
  ⟨style, alternate, ' ', none, none, none⟩

def spread : Nat → List String → List String
  | _, [] => []
  | i, value :: rest => (if 0 < i then [separator, value] else [value]) ++ spread (i + 1) rest

namespace Chain

def pieces (c : Chain) : Checked (List String) := do .ok (spread 0 (← c.values))

def display (c : Chain) : Checked String := do .ok (String.join (← c.pieces))

def debug (c : Chain) (hidden : Char → Bool) : Checked String := do
  .ok (Text.bracketed ((← c.values).map (Text.Quoted.encode hidden)))

def debugLines (c : Chain) (hidden : Char → Bool) : Checked String := do
  .ok (Text.bracketedLines ((← c.values).map (Text.Quoted.encode hidden)))

def formatHiding (c : Chain) (hidden : Char → Bool) (spec : FormatSpec) : Checked String :=
  match spec.style, spec.alternate with
  | .plain, _ => c.display
  | .quoted, false => c.debug hidden
  | .quoted, true => c.debugLines hidden

def format (c : Chain) (spec : FormatSpec) : Checked String :=
  c.formatHiding Text.isHidden spec

end Chain
end StringChain
