namespace StringChain

inductive Fault where
  | outOfRange (index : Nat)
  | unoccupied (index : Nat)
  | notVacant (index : Nat)
  | unreserved (index : Nat)
  | countBelowZero
deriving DecidableEq, Repr

abbrev Checked := Except Fault

theorem ok_of_map_eq_ok {α β : Type} {g : α → β} {x : Checked α} {y : β}
    (h : x.map g = .ok y) : ∃ a, x = .ok a ∧ g a = y := by
  cases x with
  | error e => cases h
  | ok a => exact ⟨a, rfl, Except.ok.inj h⟩

theorem ok_of_bind_eq_ok {α β : Type} {x : Checked α} {g : α → Checked β} {y : β}
    (h : (x >>= g) = .ok y) : ∃ a, x = .ok a ∧ g a = .ok y := by
  cases x with
  | error e => cases h
  | ok a => exact ⟨a, rfl, h⟩

end StringChain
