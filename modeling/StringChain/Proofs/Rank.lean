import StringChain.Proofs.Operations

namespace StringChain

namespace Slot

variable {α : Type}

-- The number of times the slot was filled or vacated, counted from an unused slot.
def rank (s : Slot α) : Nat :=
  match s.entry with
  | .occupied _ => 2 * s.generation.toNat + 1
  | .vacant _ => 2 * s.generation.toNat
  | .retired => 2 * UInt32.size

theorem toNat_generation_succ {g : UInt32} (h : g ≠ lastGeneration) :
    (g + 1).toNat = g.toNat + 1 := by
  have last : lastGeneration.toNat + 1 = UInt32.size := rfl
  have bound : g.toNat < UInt32.size := g.toNat_lt
  have other : g.toNat ≠ lastGeneration.toNat := fun e => h (UInt32.toNat_inj.mp e)
  have room : g.toNat + 1 < UInt32.size := by omega
  rw [UInt32.toNat_add]
  exact Nat.mod_eq_of_lt room

theorem rank_vacate (s : Slot α) (free : Option Nat) :
    (s.vacate free).rank = s.rank + if s.content?.isSome then 1 else 0 := by
  obtain ⟨g, e⟩ := s
  cases e with
  | occupied x =>
    by_cases hg : g = lastGeneration
    · have last : lastGeneration.toNat + 1 = UInt32.size := rfl
      subst hg
      simp only [vacate, if_true, rank, content?, Option.isSome_some]
      omega
    · simp only [vacate, hg, if_false, rank, content?, toNat_generation_succ hg,
        Option.isSome_some, if_true]
      omega
  | vacant next => simp [vacate, rank, content?]
  | retired => simp [vacate, rank, content?]

theorem rank_eq_odd {s : Slot α} {g : UInt32} (h : s.rank = 2 * g.toNat + 1) :
    ∃ x, s = ⟨g, .occupied x⟩ := by
  obtain ⟨g', e⟩ := s
  cases e with
  | occupied x =>
    have same : g'.toNat = g.toNat := by
      simp only [rank] at h
      omega
    obtain rfl := UInt32.toNat_inj.mp same
    exact ⟨x, rfl⟩
  | vacant next =>
    simp only [rank] at h
    omega
  | retired =>
    simp only [rank] at h
    omega

end Slot

namespace Chain

variable {c d : Chain} {l f : List Nat}

def rank (c : Chain) (i : Nat) : Nat := ((c.cell? i).map Slot.rank).getD 0

structure Evolves (c d : Chain) : Prop where
  id : d.id = c.id
  policy : d.policy = c.policy
  rank : ∀ i, c.rank i ≤ d.rank i

namespace Evolves

theorem refl (c : Chain) : c.Evolves c := ⟨rfl, rfl, fun _ => Nat.le_refl _⟩

theorem trans {e : Chain} (h : c.Evolves d) (h' : d.Evolves e) : c.Evolves e where
  id := h'.id.trans h.id
  policy := h'.policy.trans h.policy
  rank i := Nat.le_trans (h.rank i) (h'.rank i)

theorem withCapacity (c : Chain) (n : Nat) : c.Evolves (c.withCapacity n) :=
  ⟨rfl, rfl, fun _ => Nat.le_refl _⟩

end Evolves

theorem Intact.upcoming_cases (intact : c.Intact l f) :
    (f = [] ∧ c.arena.free = none ∧ c.arena.size = c.arena.upcoming ∧ c.upcomingGeneration = 0) ∨
      ∃ next rest, f = c.arena.upcoming :: rest ∧
        c.arena.slot? c.arena.upcoming = some ⟨c.upcomingGeneration, .vacant next⟩ := by
  cases hf : f with
  | nil =>
    have free : c.arena.free = none := by simpa [hf] using intact.stack.free_eq
    have top : c.arena.upcoming = c.arena.size := by simp [Arena.upcoming, free]
    have generation : c.upcomingGeneration = 0 := by
      simp [upcomingGeneration, cell?, top, Arena.slot?_size]
    exact .inl ⟨rfl, free, top.symm, generation⟩
  | cons i rest =>
    obtain ⟨rfl, s, hs, vacant⟩ := intact.stack.upcoming_vacant hf
    have generation : c.upcomingGeneration = s.generation := by
      simp [upcomingGeneration, cell?, hs, Slot.generation_plain]
    refine .inr ⟨rest.head?, rest, rfl, ?_⟩
    rw [hs, generation, ← vacant]

theorem Intact.upcoming_cell (intact : c.Intact l f) :
    (c.cell? c.arena.upcoming = none ∧ c.upcomingGeneration = 0) ∨
      c.cell? c.arena.upcoming = some ⟨c.upcomingGeneration, .vacant none⟩ := by
  rcases intact.upcoming_cases with ⟨-, -, top, zero⟩ | ⟨next, rest, -, slot⟩
  · exact .inl ⟨by simp [cell?, ← top, Arena.slot?_size], zero⟩
  · exact .inr (by simp [cell?, slot, Slot.plain])

theorem rank_of_cells {s : Slot String} {i : Nat}
    (cells : d.cell? = Function.update c.cell? i (some s)) (j : Nat) :
    d.rank j = if j = i then s.rank else c.rank j := by
  unfold rank
  rw [cells]
  by_cases hj : j = i
  · subst hj
    simp
  · simp [hj]

theorem Intact.rank_upcoming (intact : c.Intact l f) :
    c.rank c.arena.upcoming = 2 * c.upcomingGeneration.toNat := by
  rcases intact.upcoming_cell with ⟨absent, zero⟩ | cell
  · simp [rank, absent, zero]
  · simp [rank, cell, Slot.rank]

theorem Intact.evolves_insert {v : String} {n : Nat} (intact : c.Intact l f)
    (becomes : (c.withCapacity n).Becomes d (Function.update c.cell? c.arena.upcoming
      (some ⟨c.upcomingGeneration, .occupied v⟩))) : c.Evolves d where
  id := becomes.id
  policy := becomes.policy
  rank j := by
    rw [rank_of_cells becomes.cells j]
    split
    · next hj =>
      rw [hj, intact.rank_upcoming]
      exact Nat.le_succ _
    · exact Nat.le_refl _

theorem evolves_remove {s : Slot String} {i : Nat} (cell : c.cell? i = some s)
    (becomes : c.Becomes d (Function.update c.cell? i (some (s.vacate none)))) : c.Evolves d where
  id := becomes.id
  policy := becomes.policy
  rank j := by
    rw [rank_of_cells becomes.cells j]
    split
    · next hj =>
      have before : c.rank j = s.rank := by simp [rank, hj, cell]
      rw [before, Slot.rank_vacate]
      exact Nat.le_add_right _ _
    · exact Nat.le_refl _

theorem evolves_clear (becomes : c.Becomes d fun i => (c.cell? i).map (·.vacate none)) :
    c.Evolves d where
  id := becomes.id
  policy := becomes.policy
  rank j := by
    unfold rank
    rw [becomes.cells]
    cases hj : c.cell? j with
    | none => simp
    | some s => simp [hj, Slot.rank_vacate]

end Chain
end StringChain
