import StringChain.Chain.Deletion
import StringChain.Chain.Links
import StringChain.Proofs.FreeStack

namespace StringChain

namespace Slot

def plain (s : Slot Node) : Slot String :=
  match s.entry with
  | .occupied n => ⟨s.generation, .occupied n.value⟩
  | .vacant _ => ⟨s.generation, .vacant none⟩
  | .retired => ⟨s.generation, .retired⟩

theorem generation_plain (s : Slot Node) : s.plain.generation = s.generation := by
  obtain ⟨g, e⟩ := s
  cases e <;> rfl

theorem content?_plain (s : Slot Node) : s.plain.content? = s.content?.map Node.value := by
  obtain ⟨g, e⟩ := s
  cases e <;> rfl

theorem isRetired_plain (s : Slot Node) : s.plain.isRetired = s.isRetired := by
  obtain ⟨g, e⟩ := s
  cases e <;> rfl

theorem plain_fill (s : Slot Node) (n : Node) : (s.fill n).plain = s.plain.fill n.value := by
  obtain ⟨g, e⟩ := s
  cases e <;> rfl

theorem plain_fill_same {s : Slot Node} {n n' : Node} (h : s.content? = some n)
    (same : n'.value = n.value) : (s.fill n').plain = s.plain := by
  obtain ⟨g, e⟩ := s
  obtain rfl : e = .occupied n := content?_eq_some.mp h
  simp [plain, fill, same]

theorem plain_vacate (s : Slot Node) (free : Option Nat) :
    (s.vacate free).plain = s.plain.vacate none := by
  obtain ⟨g, e⟩ := s
  cases e with
  | occupied n =>
    by_cases hg : g = lastGeneration
    · simp [vacate, plain, hg]
    · simp [vacate, plain, hg]
  | vacant next => rfl
  | retired => rfl

theorem isRetired_vacate (s : Slot Node) (free : Option Nat) :
    (s.vacate free).isRetired = (s.plain.vacate none).isRetired := by
  rw [← plain_vacate s free, isRetired_plain]

end Slot

namespace Chain

def cell? (c : Chain) (i : Nat) : Option (Slot String) := (c.arena.slot? i).map Slot.plain

def valueAt? (c : Chain) (i : Nat) : Option String := (c.cell? i).bind Slot.content?

def upcomingGeneration (c : Chain) : UInt32 :=
  ((c.cell? c.arena.upcoming).map Slot.generation).getD 0

def upcomingHandle (c : Chain) : Handle := ⟨c.id, c.arena.upcoming, c.upcomingGeneration⟩

def withArena (c : Chain) (a : Arena Node) : Chain := { c with arena := a }

def withCapacity (c : Chain) (n : Nat) : Chain := c.withArena { c.arena with capacity := n }

theorem valueAt?_eq (c : Chain) (i : Nat) : c.valueAt? i = (c.arena.content? i).map Node.value := by
  unfold valueAt? cell? Arena.content?
  cases c.arena.slot? i with
  | none => rfl
  | some s => simp [Slot.content?_plain]

theorem valueAt?_eq_some {c : Chain} {i : Nat} {v : String} :
    c.valueAt? i = some v ↔ ∃ n, c.arena.content? i = some n ∧ n.value = v := by
  rw [valueAt?_eq, Option.map_eq_some_iff]

theorem handleAt_of_cell? {c : Chain} {i : Nat} {s : Slot String} (h : c.cell? i = some s) :
    c.handleAt i = .ok ⟨c.id, i, s.generation⟩ := by
  obtain ⟨t, ht, rfl⟩ := Option.map_eq_some_iff.mp h
  simp [handleAt, Arena.slotAt, ht, Slot.generation_plain, bind, Except.bind]

theorem cell?_eq_occupied {c : Chain} {i : Nat} {g : UInt32} {v : String} :
    c.cell? i = some ⟨g, .occupied v⟩ ↔
      ∃ s n, c.arena.slot? i = some s ∧ s.generation = g ∧ s.content? = some n ∧ n.value = v := by
  unfold cell?
  rw [Option.map_eq_some_iff]
  constructor
  · rintro ⟨s, hs, hp⟩
    have content : s.content?.map Node.value = some v := by
      rw [← Slot.content?_plain, hp]
      rfl
    obtain ⟨n, hn, hv⟩ := Option.map_eq_some_iff.mp content
    refine ⟨s, n, hs, ?_, hn, hv⟩
    rw [← Slot.generation_plain, hp]
  · rintro ⟨s, n, hs, rfl, hn, rfl⟩
    refine ⟨s, hs, ?_⟩
    simp [Slot.plain, Slot.content?_eq_some.mp hn]

theorem resolve_eq_ok_iff {c : Chain} {h : Handle} {i : Nat} :
    c.resolve h = .ok i ↔
      h.chain = c.id ∧ h.index = i ∧ ∃ v, c.cell? h.index = some ⟨h.generation, .occupied v⟩ := by
  rw [resolve_eq_ok]
  refine and_congr_right fun _ => and_congr_right fun hi => ?_
  subst hi
  simp only [cell?_eq_occupied]
  constructor
  · rintro ⟨s, n, hs, hg, hn⟩
    exact ⟨n.value, s, n, hs, hg, hn, rfl⟩
  · rintro ⟨v, s, n, hs, hg, hn, -⟩
    exact ⟨s, n, hs, hg, hn⟩

theorem valueAt?_eq_some_iff {c : Chain} {i : Nat} {v : String} :
    c.valueAt? i = some v ↔ ∃ g, c.cell? i = some ⟨g, .occupied v⟩ := by
  unfold valueAt?
  rw [Option.bind_eq_some_iff]
  constructor
  · rintro ⟨⟨g, e⟩, hs, hv⟩
    obtain rfl : e = .occupied v := Slot.content?_eq_some.mp hv
    exact ⟨g, hs⟩
  · rintro ⟨g, hs⟩
    exact ⟨_, hs, rfl⟩

structure Becomes (c d : Chain) (cells : Nat → Option (Slot String)) : Prop where
  id : d.id = c.id
  policy : d.policy = c.policy
  capacity : d.arena.capacity = c.arena.capacity
  cells : d.cell? = cells

structure Relinked (c d : Chain) : Prop extends Becomes c d c.cell? where
  size : d.size = c.size
  free : d.arena.free = c.arena.free
  vacantLink? : d.arena.vacantLink? = c.arena.vacantLink?

theorem Relinked.trans {c d e : Chain} (h : c.Relinked d) (h' : d.Relinked e) : c.Relinked e where
  id := h'.id.trans h.id
  policy := h'.policy.trans h.policy
  capacity := h'.capacity.trans h.capacity
  cells := h'.cells.trans h.cells
  size := h'.size.trans h.size
  free := h'.free.trans h.free
  vacantLink? := h'.vacantLink?.trans h.vacantLink?

theorem cell?_of_slots {c d : Chain} {i : Nat} {s : Slot Node}
    (h : d.arena.slot? = Function.update c.arena.slot? i (some s)) :
    d.cell? = Function.update c.cell? i (some s.plain) := by
  funext j
  unfold cell?
  rw [h]
  by_cases hj : j = i
  · subst hj
    simp
  · simp [hj]

theorem relinked_put {c : Chain} {i : Nat} {s : Slot Node} {n n' : Node}
    (hs : c.arena.slot? i = some s) (hn : s.content? = some n) (same : n'.value = n.value) :
    c.Relinked (c.withArena (c.arena.put i (s.fill n'))) := by
  have slots : (c.arena.put i (s.fill n')).slot? =
      Function.update c.arena.slot? i (some (s.fill n')) :=
    Arena.slot?_put (Arena.lt_size_of_slot? hs) _
  refine ⟨⟨rfl, rfl, rfl, ?_⟩, rfl, rfl, ?_⟩
  · rw [cell?_of_slots (c := c) slots, Slot.plain_fill_same hn same]
    have unchanged : some s.plain = c.cell? i := by simp [cell?, hs]
    rw [unchanged, Function.update_eq_self]
  · funext j
    refine (Arena.vacantLink?_of_slots slots j).trans ?_
    split
    · next hj =>
      subst hj
      simp [Arena.vacantLink?, hs, Slot.vacantLink?_fill, Slot.vacantLink?_of_content? hn]
    · rfl

theorem setNext_relinked {c : Chain} {place : Option Nat} (t : Option Nat)
    (live : ∀ i ∈ place, ∃ v, c.valueAt? i = some v) :
    ∃ d, c.setNext place t = .ok d ∧ c.Relinked d := by
  cases place with
  | none => exact ⟨{ c with headIndex := t }, rfl, ⟨rfl, rfl, rfl, rfl⟩, rfl, rfl, rfl⟩
  | some i =>
    obtain ⟨v, hv⟩ := live i rfl
    obtain ⟨n, hn, -⟩ := valueAt?_eq_some.mp hv
    obtain ⟨s, hs, hsn⟩ := Arena.content?_eq_some.mp hn
    refine ⟨_, setNext_some_eq_ok.mpr ⟨_, Arena.update_of_slot? hs hsn _, rfl⟩, ?_⟩
    exact relinked_put hs hsn rfl

theorem setPrev_relinked {c : Chain} {place : Option Nat} (t : Option Nat)
    (live : ∀ i ∈ place, ∃ v, c.valueAt? i = some v) :
    ∃ d, c.setPrev place t = .ok d ∧ c.Relinked d := by
  cases place with
  | none => exact ⟨{ c with tailIndex := t }, rfl, ⟨rfl, rfl, rfl, rfl⟩, rfl, rfl, rfl⟩
  | some i =>
    obtain ⟨v, hv⟩ := live i rfl
    obtain ⟨n, hn, -⟩ := valueAt?_eq_some.mp hv
    obtain ⟨s, hs, hsn⟩ := Arena.content?_eq_some.mp hn
    refine ⟨_, setPrev_some_eq_ok.mpr ⟨_, Arena.update_of_slot? hs hsn _, rfl⟩, ?_⟩
    exact relinked_put hs hsn rfl

theorem Relinked.valueAt? {c d : Chain} (h : c.Relinked d) : d.valueAt? = c.valueAt? := by
  funext i
  rw [Chain.valueAt?, Chain.valueAt?, h.cells]

theorem setNext_setPrev {c : Chain} {x y : Option Nat} (t u : Option Nat)
    (hx : ∀ i ∈ x, ∃ v, c.valueAt? i = some v) (hy : ∀ i ∈ y, ∃ v, c.valueAt? i = some v) :
    ∃ d e, c.setNext x t = .ok d ∧ d.setPrev y u = .ok e ∧ c.Relinked e ∧
      e.nextOf x = .ok t ∧ e.prevOf y = .ok u ∧
      (∀ q w, q ≠ x → c.nextOf q = .ok w → e.nextOf q = .ok w) ∧
      (∀ q w, q ≠ y → c.prevOf q = .ok w → e.prevOf q = .ok w) := by
  obtain ⟨d, hd, relinked⟩ := setNext_relinked t hx
  obtain ⟨e, he, relinked'⟩ := setPrev_relinked (c := d) u (relinked.valueAt? ▸ hy)
  refine ⟨d, e, hd, he, relinked.trans relinked', ?_, prevOf_setPrev_same he, ?_, ?_⟩
  · exact (nextOf_setPrev he x t).mpr (nextOf_setNext_same hd)
  · intro q w hq hw
    exact (nextOf_setPrev he q w).mpr ((nextOf_setNext_other hd hq w).mpr hw)
  · intro q w hq hw
    exact (prevOf_setPrev_other he hq w).mpr ((prevOf_setNext hd q w).mpr hw)

end Chain
end StringChain
