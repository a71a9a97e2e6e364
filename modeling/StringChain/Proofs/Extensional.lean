import StringChain.Proofs.Intact

namespace StringChain

theorem Slot.eq_of_plain {s t : Slot Node} (plain : s.plain = t.plain)
    (content : s.content? = t.content?) (link : s.vacantLink? = t.vacantLink?) : s = t := by
  obtain ⟨g, e⟩ := s
  obtain ⟨g', e'⟩ := t
  have generation : g = g' := by
    simpa only [generation_plain] using congrArg Slot.generation plain
  subst generation
  cases e with
  | occupied n =>
    obtain rfl : e' = .occupied n := content?_eq_some.mp content.symm
    rfl
  | vacant next =>
    obtain rfl : e' = .vacant next := vacantLink?_eq_some.mp link.symm
    rfl
  | retired =>
    have retired : isRetired ⟨g, e'⟩ = true := by
      rw [← isRetired_plain, ← plain]
      rfl
    obtain rfl : e' = .retired := isRetired_iff.mp retired
    rfl

namespace Arena.Stacked

variable {α : Type} {a b : Arena α} {f : List Nat} {i : Nat}

theorem vacantLink?_eq {before after : List Nat} (h : a.Stacked (before ++ i :: after)) :
    a.vacantLink? i = some after.head? := by
  cases h.visits.of_append with
  | step link rest => exact rest.start_eq ▸ link

theorem vacantLink?_of_not_mem (h : a.Stacked f) (hi : i ∉ f) : a.vacantLink? i = none :=
  Option.eq_none_iff_forall_ne_some.mpr fun next link => hi ((h.vacant i).mpr ⟨next, link⟩)

theorem same_vacantLink? {p q : List Nat} (h : a.Stacked (p ++ f)) (h' : b.Stacked (q ++ f))
    (hp : i ∉ p) (hq : i ∉ q) : b.vacantLink? i = a.vacantLink? i := by
  by_cases hi : i ∈ f
  · obtain ⟨before, after, rfl⟩ := List.append_of_mem hi
    rw [← List.append_assoc] at h h'
    rw [h.vacantLink?_eq, h'.vacantLink?_eq]
  · have out : ∀ {t : List Nat}, i ∉ t → i ∉ t ++ f := fun ht inside =>
      (List.mem_append.mp inside).elim ht hi
    rw [h.vacantLink?_of_not_mem (out hp), h'.vacantLink?_of_not_mem (out hq)]

end Arena.Stacked

namespace Chain.Intact

variable {c d : Chain} {l f : List Nat} {i : Nat}

theorem same_content? {f' : List Nat} (h : c.Intact l f) (h' : d.Intact l f')
    (cell : d.cell? i = c.cell? i) : d.arena.content? i = c.arena.content? i := by
  have values : d.valueAt? i = c.valueAt? i := by rw [valueAt?, valueAt?, cell]
  cases hv : c.valueAt? i with
  | none =>
    have absent := hv
    rw [valueAt?_eq, Option.map_eq_none_iff] at absent
    rw [hv, valueAt?_eq, Option.map_eq_none_iff] at values
    rw [absent, values]
  | some v =>
    obtain ⟨before, after, rfl⟩ := List.append_of_mem ((h.live i).mpr ⟨v, hv⟩)
    rw [h.content?_eq hv, h'.content?_eq (values.trans hv)]

theorem same_slot? {p q : List Nat} (h : c.Intact l (p ++ f)) (h' : d.Intact l (q ++ f))
    (hp : i ∉ p) (hq : i ∉ q) (cell : d.cell? i = c.cell? i) :
    d.arena.slot? i = c.arena.slot? i := by
  have content := h.same_content? h' cell
  have link := h.stack.same_vacantLink? h'.stack hp hq
  unfold cell? at cell
  unfold Arena.content? at content
  unfold Arena.vacantLink? at link
  cases hs : c.arena.slot? i with
  | none => simpa [hs] using cell
  | some s =>
    rw [hs] at cell content link
    obtain ⟨t, ht, plain⟩ := Option.map_eq_some_iff.mp cell
    rw [ht] at content link
    rw [ht, Slot.eq_of_plain plain content link]

-- The order fixes every link, the free stack every vacant entry, and the cells the rest.
theorem eq_withCapacity (h : c.Intact l f) (h' : d.Intact l f) (id : d.id = c.id)
    (policy : d.policy = c.policy) (cells : d.cell? = c.cell?) :
    d = c.withCapacity d.arena.capacity := by
  have slots : d.arena.slots = c.arena.slots := Array.ext_getElem? fun i =>
    same_slot? (p := []) (q := []) h h' List.not_mem_nil List.not_mem_nil (congrFun cells i)
  have free : d.arena.free = c.arena.free := h'.stack.free_eq.trans h.stack.free_eq.symm
  have head : d.headIndex = c.headIndex := h'.ring.headIndex_eq.trans h.ring.headIndex_eq.symm
  have tail : d.tailIndex = c.tailIndex := h'.ring.tailIndex_eq.trans h.ring.tailIndex_eq.symm
  have size : d.size = c.size := h'.size.trans h.size.symm
  obtain ⟨id', policy', ⟨slots', free', capacity⟩, head', tail', size'⟩ := d
  subst id policy slots free head tail size
  rfl

theorem eq_of_becomes {c' d' : Chain} {cells : Nat → Option (Slot String)}
    (h : d.Intact l f) (h' : d'.Intact l f) (becomes : c.Becomes d cells)
    (becomes' : c'.Becomes d' cells) (id : c'.id = c.id) (policy : c'.policy = c.policy) :
    d' = d.withCapacity d'.arena.capacity := by
  refine h.eq_withCapacity h' ?_ ?_ (becomes'.cells.trans becomes.cells.symm)
  · rw [becomes'.id, id, becomes.id]
  · rw [becomes'.policy, policy, becomes.policy]

end Chain.Intact
end StringChain
