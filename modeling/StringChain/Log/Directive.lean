import StringChain.Log.Threshold
import StringChain.Text.Octets
import StringChain.Text.Pattern.Reading

namespace StringChain.Log

structure FieldTest where
  name : String
  value : Option String
deriving DecidableEq, Repr

structure Directive where
  target : String
  span : Option String
  field : Option FieldTest
  threshold : Threshold
deriving DecidableEq, Repr

namespace FieldTest

def isMagnitude (cs : List Char) : Bool :=
  let (digits, rest) := cs.span Char.isDigit
  let (decimals, rest) := match rest with
    | '.' :: rest => rest.span Char.isDigit
    | _ => ([], rest)
  ["inf", "infinity", "nan"].contains (String.ofList cs).toLower ||
    (!(digits.isEmpty && decimals.isEmpty) && isExponent rest)
where
  isExponent : List Char → Bool
    | [] => true
    | e :: rest =>
      let digits := match rest with
        | '+' :: digits => digits
        | '-' :: digits => digits
        | digits => digits
      (e == 'e' || e == 'E') && !digits.isEmpty && digits.all Char.isDigit

def isValue (text : String) : Bool :=
  Text.Pattern.isPattern text ||
    match text.toList with
    | '+' :: rest => isMagnitude rest
    | _ => false

def ofText? (text : String) : Option FieldTest :=
  let (name, rest) := text.toList.span (· != '=')
  match rest with
  | [] => some ⟨text, none⟩
  | _ :: rest =>
    let value := String.ofList (rest.takeWhile (· != '='))
    if isValue value then some ⟨String.ofList name, some value⟩ else none

end FieldTest

namespace Directive

def startsTarget (c : Char) : Bool :=
  ['-', ':', '_'].contains c || Text.isLetter c || Text.isNumeral c

def threshold? : List Char → Option Threshold
  | [] => some (some .trace)
  | level => Threshold.ofText? (String.ofList level)

def ofWord (text : String) : Directive :=
  match Threshold.ofText? text with
  | some threshold => ⟨"", none, none, threshold⟩
  | none => ⟨text, none, none, some .trace⟩

-- The marks are sought between the blanks at both ends, but the parts are cut from the text with
-- the blanks, at the same distances from the beginning.
def ofText? (text : String) : Option Directive :=
  let cs := text.toList
  let cut? (start : Nat) (part : List Char) := Text.cutOctets? start (Text.octets part) cs
  let (word, rest) := (Text.trim cs).span fun c => c != '=' && c != '['
  let stop := Text.octets word
  match word.head?.map startsTarget, rest with
  | some true, [] => some (ofWord text)
  | some true, '=' :: rest => do ending? cs (← cut? 0 word) none none stop ('=' :: rest)
  | some false, _ => none
  | _, '[' :: rest => do
    let target ← cut? 0 word
    let (span, rest) := rest.span fun c => c != ']' && c != '\x7b'
    let name ← cut? (stop + 1) span
    let stop := stop + 1 + Text.octets span
    match rest with
    | ']' :: rest => ending? cs target (some name) none (stop + 1) rest
    | _ :: rest =>
      match rest.span (· != '\x7d') with
      | ([], _) => none
      | (field, _ :: ']' :: rest) =>
        let test ← FieldTest.ofText? (← cut? (stop + 1) field)
        ending? cs target (if span.isEmpty then none else some name) (some test)
          (stop + Text.octets field + 3) rest
      | _ => none
    | [] => none
  | _, _ => none
where
  ending? (cs : List Char) (target : String) (span : Option String) (field : Option FieldTest)
      (stop : Nat) : List Char → Option Directive
    | [] => some ⟨target, span, field, some .trace⟩
    | '=' :: _ => do some ⟨target, span, field, ← threshold? (← Text.dropOctets? (stop + 1) cs)⟩
    | _ => none

-- Records stand in no span and show no values: a directive that asks for either covers none.
def covers (d : Directive) (r : Record) : Bool :=
  d.span.isNone && d.target.toList.isPrefixOf r.target.toList &&
    match d.field with
    | some test => test.value.isNone && r.has test.name
    | none => true

def givesWay (d e : Directive) : Bool :=
  if d.target.utf8ByteSize = e.target.utf8ByteSize then
    match d.field, e.field with
    | some test, some test' => decide (test.name ≤ test'.name)
    | some _, none => false
    | none, _ => true
  else decide (d.target.utf8ByteSize < e.target.utf8ByteSize)

end Directive
end StringChain.Log
