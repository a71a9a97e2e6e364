import StringChain.Log.Directive

namespace StringChain.Log

structure Filter where
  directives : List Directive
deriving DecidableEq, Repr

namespace Filter

def ofText? (text : String) : Option Filter := do
  match ← ((text.splitOn ",").filter (· != "")).mapM Directive.ofText? with
  | [] => some ⟨[⟨"", none, none, some .error⟩]⟩
  | directives => some ⟨directives⟩

def standard : Filter := ⟨[⟨"", none, none, some .warn⟩]⟩

def ofSetting (setting : Option String) : Filter := (setting.bind ofText?).getD standard

def directive? (f : Filter) (r : Record) : Option Directive :=
  (f.directives.filter (·.covers r)).foldl closer none
where
  closer (best : Option Directive) (d : Directive) : Option Directive :=
    match best with
    | some b => if b.givesWay d then some d else some b
    | none => some d

def shows (f : Filter) (r : Record) : Bool := (f.directive? r).any (·.threshold.shows r.level)

end Filter
end StringChain.Log
