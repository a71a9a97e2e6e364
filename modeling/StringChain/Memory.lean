namespace StringChain

-- `grants n` tells whether request number `n` is granted; `granted` counts those granted.
structure Memory where
  grants : Nat → Bool
  granted : Nat

namespace Memory

def unlimited : Memory := ⟨fun _ => true, 0⟩

def limited (n : Nat) : Memory := ⟨fun request => decide (request < n), 0⟩

def allocate? (m : Memory) : Option Memory :=
  if m.grants m.granted then some { m with granted := m.granted + 1 } else none

def hold? (m : Memory) (bytes : Nat) : Option Memory :=
  if bytes = 0 then some m else m.allocate?

theorem allocate?_eq_some {m m' : Memory} (h : m.allocate? = some m') :
    m'.grants = m.grants ∧ m'.granted = m.granted + 1 := by
  unfold allocate? at h
  split at h
  · cases h; exact ⟨rfl, rfl⟩
  · cases h

theorem allocate?_eq_none {m : Memory} (h : m.allocate? = none) : m.grants m.granted = false := by
  unfold allocate? at h
  split at h
  · cases h
  · next refused => simpa using refused

theorem grants_of_allocate? {m m' : Memory} (h : m.allocate? = some m') :
    m.grants m.granted = true := by
  unfold allocate? at h
  split at h
  · next granted => exact granted
  · cases h

theorem hold?_zero (m : Memory) : m.hold? 0 = some m := rfl

theorem hold?_eq_some {m m' : Memory} {bytes : Nat} (h : m.hold? bytes = some m') :
    m'.grants = m.grants ∧ m'.granted = m.granted + if bytes = 0 then 0 else 1 := by
  unfold hold? at h
  split at h
  · next hb => cases h; simp [hb]
  · next hb => simpa [hb] using allocate?_eq_some h

theorem hold?_eq_none {m : Memory} {bytes : Nat} (h : m.hold? bytes = none) :
    m.grants m.granted = false := by
  unfold hold? at h
  split at h
  · cases h
  · exact allocate?_eq_none h

theorem grants_of_hold? {m m' : Memory} {bytes : Nat} (h : m.hold? bytes = some m')
    (some_bytes : bytes ≠ 0) : m.grants m.granted = true := by
  rw [hold?, if_neg some_bytes] at h
  exact grants_of_allocate? h

end Memory
end StringChain
