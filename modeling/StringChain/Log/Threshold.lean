import StringChain.Log.Record

namespace StringChain.Log

abbrev Threshold := Option Level

namespace Threshold

def ofNumber? : Nat → Option Threshold
  | 0 => some none
  | 1 => some (some .error)
  | 2 => some (some .warn)
  | 3 => some (some .info)
  | 4 => some (some .debug)
  | 5 => some (some .trace)
  | _ => none

def ofName? (name : String) : Option Threshold :=
  match name.toLower with
  | "off" => some none
  | "error" => some (some .error)
  | "warn" => some (some .warn)
  | "info" => some (some .info)
  | "debug" => some (some .debug)
  | "trace" => some (some .trace)
  | _ => none

def number? (text : String) : Option Nat :=
  let digits := match text.toList with
    | '+' :: rest => rest
    | digits => digits
  if digits.isEmpty || digits.any (!·.isDigit) then none
  else some (digits.foldl (fun n d => 10 * n + (d.toNat - 48)) 0)

def ofText? (text : String) : Option Threshold :=
  ((number? text).bind ofNumber?).or (ofName? text)

def shows (t : Threshold) (l : Level) : Bool :=
  match t with
  | some most => decide (l.verbosity ≤ most.verbosity)
  | none => false

end Threshold
end StringChain.Log
