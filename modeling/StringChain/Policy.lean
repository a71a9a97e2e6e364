import StringChain.Refusal

namespace StringChain

def boundedValueLength : Nat := 128

structure Policy where
  maxValueLength : Option Nat
deriving DecidableEq, Repr

namespace Policy

def standard : Policy := ⟨none⟩

def bounded : Policy := ⟨some boundedValueLength⟩

def withMaxValueLength (_ : Policy) (limit : Nat) : Policy := ⟨some limit⟩

def unbounded (_ : Policy) : Policy := ⟨none⟩

def exceededLimit? (p : Policy) (length : Nat) : Option Nat :=
  p.maxValueLength.filter fun limit => decide (limit < length)

def debug (p : Policy) : String :=
  Text.structured "ListConfig" [("max_value_len",
    match p.maxValueLength with
    | some limit => s!"Some({limit})"
    | none => "None")]

def nulOffset? (value : String) : Option Nat := value.toByteArray.data.findIdx? (· == 0)

def objection? (p : Policy) (value : String) : Option Objection :=
  match nulOffset? value with
  | some offset => some (.interiorNul offset)
  | none => (p.exceededLimit? value.utf8ByteSize).map (.tooLong value.utf8ByteSize)

theorem exceededLimit?_eq_some {p : Policy} {length limit : Nat} :
    p.exceededLimit? length = some limit ↔ p.maxValueLength = some limit ∧ limit < length := by
  simp [exceededLimit?, Option.filter_eq_some_iff]

theorem objection?_of_nul {value : String} {offset : Nat} (p : Policy)
    (h : nulOffset? value = some offset) : p.objection? value = some (.interiorNul offset) := by
  simp [objection?, h]

theorem objection?_eq_none {p : Policy} {value : String} :
    p.objection? value = none ↔
      nulOffset? value = none ∧ p.exceededLimit? value.utf8ByteSize = none := by
  unfold objection?
  cases nulOffset? value <;> simp

end Policy
end StringChain
