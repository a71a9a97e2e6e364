import StringChain.Arena.Basic

namespace StringChain.Arena

variable {α : Type}

theorem size_put (a : Arena α) (i : Nat) (s : Slot α) : (a.put i s).size = a.size := by
  simp [size, put]

theorem slot?_put_same {a : Arena α} {i : Nat} (h : i < a.size) (s : Slot α) :
    (a.put i s).slot? i = some s := by
  simp [slot?, put, Array.getElem?_setIfInBounds_self_of_lt h]

theorem slot?_put_other {a : Arena α} {i j : Nat} (h : j ≠ i) (s : Slot α) :
    (a.put i s).slot? j = a.slot? j := by
  simp [slot?, put, Array.getElem?_setIfInBounds_ne (Ne.symm h)]

theorem lt_size_of_slot? {a : Arena α} {i : Nat} {s : Slot α} (h : a.slot? i = some s) :
    i < a.size := by
  obtain ⟨bound, -⟩ := Array.getElem?_eq_some_iff.mp h
  exact bound

theorem content?_eq_some {a : Arena α} {i : Nat} {x : α} :
    a.content? i = some x ↔ ∃ s, a.slot? i = some s ∧ s.content? = some x := by
  simp [content?, Option.bind_eq_some_iff]

theorem contentAt_eq_ok {a : Arena α} {i : Nat} {x : α} :
    a.contentAt i = .ok x ↔ a.content? i = some x := by
  unfold contentAt slotAt content?
  cases a.slot? i with
  | none => simp [bind, Except.bind]
  | some s => cases hs : s.content? <;> simp [bind, Except.bind, hs]

theorem update_of_slot? {a : Arena α} {i : Nat} {s : Slot α} {x : α} (hs : a.slot? i = some s)
    (hx : s.content? = some x) (f : α → α) : a.update i f = .ok (a.put i (s.fill (f x))) := by
  simp [update, slotAt, hs, hx, bind, Except.bind]

theorem content?_of_update {a b : Arena α} {i : Nat} {f : α → α} (h : a.update i f = .ok b)
    (j : Nat) : b.content? j = if j = i then (a.content? i).map f else a.content? j := by
  cases hs : a.slot? i with
  | none => simp [update, slotAt, hs, bind, Except.bind] at h
  | some s =>
    cases hx : s.content? with
    | none => simp [update, slotAt, hs, hx, bind, Except.bind] at h
    | some x =>
      rw [update_of_slot? hs hx] at h
      cases h
      by_cases hj : j = i
      · subst hj
        simp [content?, slot?_put_same (lt_size_of_slot? hs), Slot.content?_fill, hs, hx]
      · simp [content?, slot?_put_other hj, hj]

theorem content?_isSome_of_update {a b : Arena α} {i : Nat} {f : α → α}
    (h : a.update i f = .ok b) : ∃ x, a.content? i = some x := by
  cases hs : a.slot? i with
  | none => simp [update, slotAt, hs, bind, Except.bind] at h
  | some s =>
    cases hx : s.content? with
    | none => simp [update, slotAt, hs, hx, bind, Except.bind] at h
    | some x => exact ⟨x, content?_eq_some.mpr ⟨s, hs, hx⟩⟩

theorem vacate_of_slot? {a : Arena α} {i : Nat} {s : Slot α} {x : α} (hs : a.slot? i = some s)
    (hx : s.content? = some x) :
    a.vacate i = .ok ⟨x,
      { a.put i (s.vacate a.free) with
        free := if (s.vacate a.free).isRetired then a.free else some i },
      (s.vacate a.free).isRetired⟩ := by
  simp [vacate, slotAt, hs, hx, bind, Except.bind]

theorem occupy_of_vacant {a : Arena α} {i : Nat} {s : Slot α} {next : Option Nat}
    (hf : a.free = some i) (hs : a.slot? i = some s) (hv : s.entry = .vacant next) (x : α) :
    a.occupy x = .ok ({ a.put i (s.fill x) with free := next }, i) := by
  simp [occupy, hf, slotAt, hs, hv, bind, Except.bind]

theorem occupy_of_room {a : Arena α} (hf : a.free = none) (h : a.size < a.capacity) (x : α) :
    a.occupy x = .ok ({ a with slots := a.slots.push (.fresh x) }, a.size) := by
  have room : a.slots.size < a.capacity := h
  simp [occupy, hf, room, size]

theorem reserve?_eq_some {a b : Arena α} {m m' : Memory} (h : a.reserve? m = some (b, m')) :
    b.slots = a.slots ∧ b.free = a.free ∧ b.hasRoom = true := by
  unfold reserve? at h
  split at h
  · next room =>
    cases h
    exact ⟨rfl, rfl, room⟩
  · obtain ⟨m'', -, e⟩ := Option.map_eq_some_iff.mp h
    cases e
    refine ⟨rfl, rfl, ?_⟩
    have more : a.slots.size < grownCapacity a.capacity a.slots.size := by
      unfold grownCapacity
      omega
    simp [hasRoom, more]

theorem grants_of_reserve? {a b : Arena α} {m m' : Memory} (h : a.reserve? m = some (b, m')) :
    m'.grants = m.grants := by
  unfold reserve? at h
  split at h
  · cases h
    rfl
  · obtain ⟨m₁, hm, e⟩ := Option.map_eq_some_iff.mp h
    cases e
    exact (Memory.allocate?_eq_some hm).1

theorem reserve?_eq_none {a : Arena α} {m : Memory} (h : a.reserve? m = none) :
    m.grants m.granted = false := by
  unfold reserve? at h
  split at h
  · cases h
  · exact Memory.allocate?_eq_none (Option.map_eq_none_iff.mp h)

theorem length_vacateAll (i : Nat) (slots : List (Slot α)) :
    (vacateAll i slots).1.length = slots.length := by
  induction slots generalizing i with
  | nil => rfl
  | cons s rest ih => simp [vacateAll, ih]

theorem size_clear (a : Arena α) : a.clear.size = a.size := by
  simp [clear, size, length_vacateAll]

theorem content?_of_mem_vacateAll {i : Nat} {slots : List (Slot α)} {s : Slot α}
    (h : s ∈ (vacateAll i slots).1) : s.content? = none := by
  induction slots generalizing i with
  | nil => cases h
  | cons t rest ih =>
    rcases List.mem_cons.mp h with rfl | h
    · exact Slot.content?_vacate t _
    · exact ih h

theorem content?_clear (a : Arena α) (i : Nat) : a.clear.content? i = none := by
  cases hs : a.clear.slot? i with
  | none => simp [content?, hs]
  | some s =>
    have member : s ∈ (vacateAll 0 a.slots.toList).1 := by
      have found : (vacateAll 0 a.slots.toList).1[i]? = some s := by
        simpa [slot?, clear] using hs
      exact List.mem_of_getElem? found
    simp [content?, hs, content?_of_mem_vacateAll member]

end StringChain.Arena
