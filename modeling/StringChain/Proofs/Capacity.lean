import StringChain.Proofs.Invariants
import StringChain.Proofs.Storage

namespace StringChain

namespace Arena

variable {α : Type} {a b : Arena α} {m m' : Memory}

def Full (a : Arena α) : Prop := a.free = none ∧ a.size = a.capacity

instance (a : Arena α) : Decidable a.Full := inferInstanceAs (Decidable (_ ∧ _))

def growths (a : Arena α) : Nat := if a.Full then 1 else 0

theorem hasRoom_eq_false_iff (fits : a.size ≤ a.capacity) : a.hasRoom = false ↔ a.Full := by
  unfold hasRoom Full size at *
  cases a.free with
  | none =>
    simp only [Option.isSome_none, Bool.false_or, decide_eq_false_iff_not, true_and]
    omega
  | some i => simp

theorem reserve?_of_full (fits : a.size ≤ a.capacity) (full : a.Full) (m : Memory) :
    a.reserve? m = m.allocate?.map fun m' =>
      ({ a with capacity := grownCapacity a.capacity a.size }, m') := by
  simp [reserve?, (hasRoom_eq_false_iff fits).mpr full, size]

theorem reserve?_of_not_full (fits : a.size ≤ a.capacity) (room : ¬ a.Full) (m : Memory) :
    a.reserve? m = some (a, m) := by
  have has : a.hasRoom = true := by
    rwa [← hasRoom_eq_false_iff fits, Bool.not_eq_false] at room
  simp [reserve?, has]

theorem granted_of_reserve? (fits : a.size ≤ a.capacity) (reserved : a.reserve? m = some (b, m')) :
    m'.granted = m.granted + a.growths := by
  unfold growths
  split
  · next full =>
    rw [reserve?_of_full fits full] at reserved
    obtain ⟨m₁, allocated, e⟩ := Option.map_eq_some_iff.mp reserved
    cases e
    exact (Memory.allocate?_eq_some allocated).2
  · next room =>
    rw [reserve?_of_not_full fits room] at reserved
    cases reserved
    rfl

theorem full_of_reserve? (fits : a.size ≤ a.capacity) (refused : a.reserve? m = none) :
    a.Full ∧ m.grants m.granted = false := by
  refine ⟨?_, reserve?_eq_none refused⟩
  by_contra room
  rw [reserve?_of_not_full fits room] at refused
  cases refused

theorem grants_of_full (fits : a.size ≤ a.capacity) (full : a.Full)
    (reserved : a.reserve? m = some (b, m')) : m.grants m.granted = true := by
  rw [reserve?_of_full fits full] at reserved
  obtain ⟨m₁, allocated, -⟩ := Option.map_eq_some_iff.mp reserved
  exact Memory.grants_of_allocate? allocated

theorem capacity_of_reserve? (reserved : a.reserve? m = some (b, m')) :
    a.capacity ≤ b.capacity ∧ (a.free = none → a.size < b.capacity) := by
  unfold reserve? at reserved
  split at reserved
  · next room =>
    cases reserved
    refine ⟨Nat.le_refl _, fun empty => ?_⟩
    simpa [hasRoom, empty, size] using room
  · obtain ⟨m₁, -, e⟩ := Option.map_eq_some_iff.mp reserved
    cases e
    unfold grownCapacity size
    dsimp only
    omega

end Arena

namespace Chain

variable {c d : Chain} {l f : List Nat}

def Fits (c : Chain) : Prop := c.arena.size ≤ c.arena.capacity

theorem size_le_of_upcoming {s : Slot String} {n : Nat} (intact : c.Intact l f)
    (cells : d.cell? = Function.update c.cell? c.arena.upcoming (some s))
    (fits : c.arena.size ≤ n) (room : c.arena.free = none → c.arena.size < n) :
    d.arena.size ≤ n := by
  rcases intact.upcoming_cases with ⟨-, free, top, -⟩ | ⟨_, _, -, slot⟩
  · refine cell?_eq_none.mp ?_
    rw [cells, ← top, Function.update_of_ne (Nat.ne_of_gt (room free))]
    exact cell?_eq_none.mpr fits
  · exact Nat.le_trans (size_le_of_update (Arena.lt_size_of_slot? slot) cells) fits

theorem kept_fits : Kept Fits where
  insert := by
    intro c l f target value m o m' intact fits eq
    obtain ⟨_, _, eq', ends⟩ := insertBefore_ends intact target value m
    cases eq.symm.trans eq'
    cases ends with
    | unaccepted _ => exact fits
    | noNode _ _ => exact fits
    | noValue _ reserved _ => exact Nat.le_trans fits (Arena.capacity_of_reserve? reserved).1
    | linked _ _ reserved _ _ becomes =>
      obtain ⟨grown, room⟩ := Arena.capacity_of_reserve? reserved
      unfold Fits
      rw [becomes.capacity]
      exact size_le_of_upcoming intact becomes.cells (Nat.le_trans fits grown) room
  remove := by
    intro c l f h o intact fits eq
    rcases remove_cases intact h with ⟨r, -, eq'⟩ | ⟨_, _, d, v, -, -, cell, eq', -, becomes⟩
    · cases eq.symm.trans eq'
      exact fits
    · cases eq.symm.trans eq'
      unfold Fits
      rw [becomes.capacity]
      exact Nat.le_trans (size_le_of_update (lt_size_of_cell? cell) becomes.cells) fits
  clear := by
    intro c l f _ fits
    have size : c.clear.arena.size = c.arena.size := Arena.size_clear c.arena
    exact Nat.le_trans (Nat.le_of_eq size) fits

theorem setGeneration_fits {h h' : Handle} {g : UInt32}
    (eq : c.setGeneration h g = .ok (d, h')) (fits : c.Fits) : d.Fits := by
  obtain ⟨s, n, -, -, rfl⟩ := setGeneration_eq_ok eq
  have size := Arena.size_put c.arena h.index { s with generation := g }
  exact Nat.le_trans (Nat.le_of_eq size) fits

theorem run_fits (id : ChainId) (policy : Policy) {actions : List Action}
    (eq : (Chain.empty id policy).run actions = .ok c) : c.Fits :=
  kept_fits.run (fun _ _ => Nat.le_refl _) setGeneration_fits (empty_intact id policy)
    (Nat.le_refl 0) eq

end Chain
end StringChain
