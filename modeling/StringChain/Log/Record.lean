namespace StringChain.Log

inductive Level where
  | error
  | warn
  | info
  | debug
  | trace
deriving DecidableEq, Repr

inductive Field where
  | number (n : Nat)
  | text (s : String)
deriving DecidableEq, Repr

structure Record where
  level : Level
  target : String
  message : String
  fields : List (String × Field)
deriving DecidableEq, Repr

namespace Level

def verbosity : Level → Nat
  | error => 1
  | warn => 2
  | info => 3
  | debug => 4
  | trace => 5

def name : Level → String
  | error => "ERROR"
  | warn => "WARN"
  | info => "INFO"
  | debug => "DEBUG"
  | trace => "TRACE"

end Level

def Field.written : Field → String
  | number n => toString n
  | text s => s

def Record.has (r : Record) (name : String) : Bool :=
  name == "message" || r.fields.any (·.1 == name)

def Record.line (r : Record) : String :=
  r.fields.foldl (fun line (name, field) => line ++ " " ++ name ++ "=" ++ field.written)
    (r.level.name ++ " " ++ r.target ++ ": " ++ r.message)

end StringChain.Log
