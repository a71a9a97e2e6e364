import StringChain.Chain.Insertion
import StringChain.Proofs.Cells
import StringChain.Proofs.Ring

namespace StringChain

theorem Slot.spent_vacate {α : Type} {s : Slot α} {free : Option Nat}
    (h : s.isRetired = true → s.generation = lastGeneration)
    (retired : (s.vacate free).isRetired = true) :
    (s.vacate free).generation = lastGeneration := by
  obtain ⟨g, e⟩ := s
  cases e with
  | occupied x =>
    by_cases hg : g = lastGeneration
    · simp [vacate, hg]
    · simp [vacate, hg, isRetired] at retired
  | vacant next => simp [vacate, isRetired] at retired
  | retired => exact h rfl

namespace Chain

-- `l` is the order of the occupied slots and `f` the free stack from its top.
structure Intact (c : Chain) (l f : List Nat) : Prop where
  ring : c.Ring l
  nodup : l.Nodup
  live : ∀ i, i ∈ l ↔ ∃ v, c.valueAt? i = some v
  size : c.size = l.length
  stack : c.arena.Stacked f
  spent : ∀ i s, c.cell? i = some s → s.isRetired = true → s.generation = Slot.lastGeneration

variable {c d e : Chain} {l f before after : List Nat} {i : Nat}

theorem nextOf_of_slots {s : Slot Node}
    (slots : d.arena.slot? = Function.update c.arena.slot? i (some s))
    (head : d.headIndex = c.headIndex) {q u : Option Nat} (hq : q ≠ some i)
    (h : c.nextOf q = .ok u) : d.nextOf q = .ok u := by
  cases q with
  | none =>
    rw [← h]
    exact congrArg _ head
  | some j =>
    have hj : j ≠ i := fun e => hq (congrArg some e)
    rw [nextOf_some_eq_ok] at h ⊢
    rwa [Arena.content?_of_slots slots j, if_neg hj]

theorem prevOf_of_slots {s : Slot Node}
    (slots : d.arena.slot? = Function.update c.arena.slot? i (some s))
    (tail : d.tailIndex = c.tailIndex) {q u : Option Nat} (hq : q ≠ some i)
    (h : c.prevOf q = .ok u) : d.prevOf q = .ok u := by
  cases q with
  | none =>
    rw [← h]
    exact congrArg _ tail
  | some j =>
    have hj : j ≠ i := fun e => hq (congrArg some e)
    rw [prevOf_some_eq_ok] at h ⊢
    rwa [Arena.content?_of_slots slots j, if_neg hj]

theorem valueAt?_of_cells {s : Slot String} (h : d.cell? = Function.update c.cell? i (some s))
    (j : Nat) : d.valueAt? j = if j = i then s.content? else c.valueAt? j := by
  unfold valueAt?
  rw [h]
  by_cases hj : j = i
  · subst hj
    simp
  · simp [hj]

theorem spent_of_cells {s : Slot String} (h : d.cell? = Function.update c.cell? i (some s))
    (hs : s.isRetired = true → s.generation = Slot.lastGeneration)
    (hc : ∀ j s, c.cell? j = some s → s.isRetired = true → s.generation = Slot.lastGeneration) :
    ∀ j s, d.cell? j = some s → s.isRetired = true → s.generation = Slot.lastGeneration := by
  intro j t ht
  rw [h] at ht
  by_cases hj : j = i
  · subst hj
    obtain rfl : s = t := by simpa using ht
    exact hs
  · rw [Function.update_of_ne hj] at ht
    exact hc j t ht

namespace Intact

theorem live_of_mem (h : c.Intact l f) (hi : i ∈ l) : ∃ v, c.valueAt? i = some v :=
  (h.live i).mp hi

theorem live_head (h : c.Intact (before ++ after) f) :
    ∀ j ∈ after.head?, ∃ v, c.valueAt? j = some v := fun _ hj =>
  h.live_of_mem (List.mem_append_right before (List.mem_of_head? hj))

theorem live_last (h : c.Intact (before ++ after) f) :
    ∀ j ∈ before.getLast?, ∃ v, c.valueAt? j = some v := fun _ hj =>
  h.live_of_mem (List.mem_append_left after (List.mem_of_getLast? hj))

theorem upcoming_not_mem (h : c.Intact l f) : c.arena.upcoming ∉ l := by
  intro hi
  obtain ⟨v, hv⟩ := h.live_of_mem hi
  obtain ⟨n, hn, -⟩ := valueAt?_eq_some.mp hv
  rw [h.stack.content?_upcoming] at hn
  cases hn

theorem slot_of_mem (h : c.Intact l f) (hi : i ∈ l) :
    ∃ s n, c.arena.slot? i = some s ∧ s.content? = some n := by
  obtain ⟨v, hv⟩ := h.live_of_mem hi
  obtain ⟨n, hn, -⟩ := valueAt?_eq_some.mp hv
  obtain ⟨s, hs, hsn⟩ := Arena.content?_eq_some.mp hn
  exact ⟨s, n, hs, hsn⟩

theorem content?_eq {v : String} (h : c.Intact (before ++ i :: after) f)
    (hv : c.valueAt? i = some v) :
    c.arena.content? i = some ⟨v, before.getLast?, after.head?⟩ := by
  obtain ⟨n, hn, value⟩ := valueAt?_eq_some.mp hv
  obtain ⟨_, hn', next⟩ := nextOf_some_eq_ok.mp h.ring.nextOf_eq
  obtain ⟨_, hn'', prev⟩ := prevOf_some_eq_ok.mp h.ring.prevOf_eq
  cases hn.symm.trans hn'
  cases hn.symm.trans hn''
  rw [hn, ← value, ← next, ← prev]

theorem not_free (h : c.Intact l f) (hi : i ∈ l) : i ∉ f := by
  intro hf
  obtain ⟨s, n, hs, hn⟩ := h.slot_of_mem hi
  obtain ⟨next, hnext⟩ := (h.stack.vacant i).mp hf
  simp [Arena.vacantLink?, hs, Slot.vacantLink?_of_content? hn] at hnext

theorem insert {v : String} {s : Slot String} {f' : List Nat}
    (h : c.Intact (before ++ after) f) (cells : d.cell? = Function.update c.cell? i (some s))
    (filled : s.content? = some v) (new : i ∉ before ++ after)
    (ring : d.Ring (before ++ i :: after)) (size : d.size = c.size + 1)
    (stack : d.arena.Stacked f') : d.Intact (before ++ i :: after) f' where
  ring := ring
  nodup := List.nodup_middle.mpr (List.nodup_cons.mpr ⟨new, h.nodup⟩)
  live j := by
    rw [List.perm_middle.mem_iff, List.mem_cons, valueAt?_of_cells cells j]
    split
    · next hj => simp [hj, filled]
    · next hj => simp [hj, h.live j]
  size := by
    rw [size, h.size]
    simp only [List.length_append, List.length_cons]
    omega
  stack := stack
  spent := spent_of_cells cells (fun retired => by
    rw [Slot.isRetired_iff] at retired
    rw [Slot.content?_eq_some, retired] at filled
    cases filled) h.spent

theorem remove {s : Slot String} {f' : List Nat} (h : c.Intact (before ++ i :: after) f)
    (cells : d.cell? = Function.update c.cell? i (some s)) (emptied : s.content? = none)
    (spent : s.isRetired = true → s.generation = Slot.lastGeneration)
    (ring : d.Ring (before ++ after)) (size : d.size + 1 = c.size)
    (stack : d.arena.Stacked f') : d.Intact (before ++ after) f' where
  ring := ring
  nodup := (List.nodup_middle.mp h.nodup).of_cons
  live j := by
    obtain ⟨gone, -⟩ := List.nodup_cons.mp (List.nodup_middle.mp h.nodup)
    rw [valueAt?_of_cells cells j]
    split
    · next hj =>
      subst hj
      simp [emptied, gone]
    · next hj =>
      rw [← h.live j, List.perm_middle.mem_iff, List.mem_cons]
      simp [hj]
  size := by
    rw [h.size] at size
    simp only [List.length_append, List.length_cons] at size ⊢
    omega
  stack := stack
  spent := spent_of_cells cells spent h.spent

end Intact

theorem link_of_steps {place prev : Option Nat} {v : String} {b : Arena Node}
    (hprev : c.prevOf place = .ok prev) (hb : c.arena.occupy ⟨v, prev, place⟩ = .ok (b, i))
    (hd : (c.withArena b).setNext prev (some i) = .ok d) (he : d.setPrev place (some i) = .ok e) :
    c.link place v = .ok ({ e with size := e.size + 1 }, i) := by
  unfold withArena at hd
  simp [link, hprev, hb, hd, he, bind, Except.bind]

theorem join_inserted {s : Slot Node} {v : String} (h : c.Intact (before ++ after) f)
    (slots : d.arena.slot? = Function.update c.arena.slot? i (some s))
    (head : d.headIndex = c.headIndex) (tail : d.tailIndex = c.tailIndex)
    (filled : s.content? = some ⟨v, before.getLast?, after.head?⟩) (new : i ∉ before ++ after) :
    ∃ d' e, d.setNext before.getLast? (some i) = .ok d' ∧ d'.setPrev after.head? (some i) = .ok e ∧
      d.Relinked e ∧ e.Ring (before ++ i :: after) := by
  have last_ne : before.getLast? ≠ some i := fun e =>
    new (List.mem_append_left after (List.mem_of_getLast? e))
  have head_ne : after.head? ≠ some i := fun e =>
    new (List.mem_append_right before (List.mem_of_head? e))
  have values : ∀ j, some j ≠ some i → d.valueAt? j = c.valueAt? j := by
    intro j hj
    rw [valueAt?_of_cells (cell?_of_slots slots) j, if_neg fun e => hj (congrArg some e)]
  obtain ⟨d', e, hd, he, relinked, at_last, at_head, next_other, prev_other⟩ :=
    setNext_setPrev (c := d) (x := before.getLast?) (y := after.head?) (some i) (some i)
      (fun j hj => values j (hj ▸ last_ne) ▸ h.live_last j hj)
      (fun j hj => values j (hj ▸ head_ne) ▸ h.live_head j hj)
  have here : d.arena.content? i = some ⟨v, before.getLast?, after.head?⟩ := by
    rw [Arena.content?_of_slots slots i, if_pos rfl, filled]
  have left : e.Adjacent before.getLast? (some i) :=
    ⟨at_last, prev_other _ _ head_ne.symm (prevOf_some_eq_ok.mpr ⟨_, here, rfl⟩)⟩
  have right : e.Adjacent (some i) after.head? :=
    ⟨next_other _ _ last_ne.symm (nextOf_some_eq_ok.mpr ⟨_, here, rfl⟩), at_head⟩
  refine ⟨d', e, hd, he, relinked, h.ring.insert h.nodup new left right ?_ ?_⟩
  · exact fun q u hq hq' hu => next_other q u hq (nextOf_of_slots slots head hq' hu)
  · exact fun q u hq hq' hu => prev_other q u hq (prevOf_of_slots slots tail hq' hu)

theorem link_intact (h : c.Intact (before ++ after) f) (room : c.arena.hasRoom = true)
    (v : String) :
    ∃ d, c.link after.head? v = .ok (d, c.arena.upcoming) ∧
      d.Intact (before ++ c.arena.upcoming :: after) f.tail ∧
      c.Becomes d (Function.update c.cell? c.arena.upcoming
        (some ⟨c.upcomingGeneration, .occupied v⟩)) := by
  obtain ⟨-, cut⟩ := h.ring before after rfl
  obtain ⟨b, hb, slots, free, capacity⟩ :=
    Arena.occupy_upcoming h.stack room ⟨v, before.getLast?, after.head?⟩
  have new := h.upcoming_not_mem
  have popped : b.Stacked f.tail := h.stack.pop slots (Slot.vacantLink?_fill _ _) free
  obtain ⟨d, e, hd, he, relinked, ring⟩ := join_inserted (d := c.withArena b) h slots rfl rfl
    (Slot.content?_fill _ _) new
  have cells : e.cell? = Function.update c.cell? c.arena.upcoming
      (some ⟨c.upcomingGeneration, .occupied v⟩) := by
    rw [relinked.cells, cell?_of_slots (c := c) (d := c.withArena b) slots, Slot.plain_fill]
    unfold upcomingGeneration cell?
    cases c.arena.slot? c.arena.upcoming with
    | none => rfl
    | some s => simp [Slot.fill, Slot.generation_plain]
  refine ⟨{ e with size := e.size + 1 }, link_of_steps cut hb hd he, ?_, ?_⟩
  · exact h.insert cells rfl new ring (congrArg (· + 1) relinked.size)
      (popped.congr relinked.vacantLink? relinked.free)
  · exact ⟨relinked.id, relinked.policy, relinked.capacity.trans capacity, cells⟩

theorem unlink_of_steps {x : Vacated Node} {n : Nat} (hx : c.arena.vacate i = .ok x)
    (hd : (c.withArena x.arena).setNext x.content.prev x.content.next = .ok d)
    (he : d.setPrev x.content.next x.content.prev = .ok e) (size : e.size = n + 1) :
    c.unlink i = .ok ({ e with size := n }, x.content.value, x.retired) := by
  unfold withArena at hd
  simp [unlink, join, hx, hd, he, size, bind, Except.bind]

theorem join_removed {s : Slot Node} (h : c.Intact (before ++ i :: after) f)
    (slots : d.arena.slot? = Function.update c.arena.slot? i (some s))
    (head : d.headIndex = c.headIndex) (tail : d.tailIndex = c.tailIndex) :
    ∃ d' e, d.setNext before.getLast? after.head? = .ok d' ∧
      d'.setPrev after.head? before.getLast? = .ok e ∧
      d.Relinked e ∧ e.Ring (before ++ after) := by
  obtain ⟨gone, -⟩ := List.nodup_cons.mp (List.nodup_middle.mp h.nodup)
  have last_ne : before.getLast? ≠ some i := fun e =>
    gone (List.mem_append_left after (List.mem_of_getLast? e))
  have head_ne : after.head? ≠ some i := fun e =>
    gone (List.mem_append_right before (List.mem_of_head? e))
  have values : ∀ j, some j ≠ some i → d.valueAt? j = c.valueAt? j := by
    intro j hj
    rw [valueAt?_of_cells (cell?_of_slots slots) j, if_neg fun e => hj (congrArg some e)]
  have live_head : ∀ j ∈ after.head?, ∃ v, c.valueAt? j = some v := fun j hj =>
    h.live_of_mem (List.mem_append_right before (List.mem_cons_of_mem i (List.mem_of_head? hj)))
  obtain ⟨d', e, hd, he, relinked, at_last, at_head, next_other, prev_other⟩ :=
    setNext_setPrev (c := d) (x := before.getLast?) (y := after.head?) after.head?
      before.getLast? (fun j hj => values j (hj ▸ last_ne) ▸ h.live_last j hj)
      (fun j hj => values j (hj ▸ head_ne) ▸ live_head j hj)
  refine ⟨d', e, hd, he, relinked, h.ring.remove h.nodup ⟨at_last, at_head⟩ ?_ ?_⟩
  · exact fun q u hq hq' hu => next_other q u hq (nextOf_of_slots slots head hq' hu)
  · exact fun q u hq hq' hu => prev_other q u hq (prevOf_of_slots slots tail hq' hu)

theorem unlink_intact (h : c.Intact (before ++ i :: after) f) :
    ∃ d s v, c.cell? i = some s ∧ s.content? = some v ∧
      c.unlink i = .ok (d, v, (s.vacate none).isRetired) ∧
      d.Intact (before ++ after) (if (s.vacate none).isRetired then f else i :: f) ∧
      c.Becomes d (Function.update c.cell? i (some (s.vacate none))) := by
  have inside : i ∈ before ++ i :: after := by simp
  obtain ⟨v, hv⟩ := h.live_of_mem inside
  obtain ⟨s, hs, hn⟩ := Arena.content?_eq_some.mp (h.content?_eq hv)
  have vacated := Arena.vacate_of_slot? hs hn
  generalize ha : ({ c.arena.put i (s.vacate c.arena.free) with free := _ } : Arena Node) = a
    at vacated
  have slots : a.slot? = Function.update c.arena.slot? i (some (s.vacate c.arena.free)) := by
    subst ha
    exact Arena.slot?_put (Arena.lt_size_of_slot? hs) _
  have pushed : a.Stacked (if (s.vacate c.arena.free).isRetired then f else i :: f) := by
    refine h.stack.push slots (h.not_free inside) (Slot.vacantLink?_vacate _ _) ?_
    subst ha
    rfl
  obtain ⟨d, e, hd, he, relinked, ring⟩ := join_removed (d := c.withArena a) h slots rfl rfl
  have cells : e.cell? = Function.update c.cell? i (some (s.plain.vacate none)) := by
    rw [relinked.cells, cell?_of_slots (c := c) (d := c.withArena a) slots, Slot.plain_vacate]
  have cell : c.cell? i = some s.plain := by simp [cell?, hs]
  have size : e.size = (before ++ after).length + 1 := by
    have unchanged : e.size = c.size := relinked.size
    rw [unchanged, h.size]
    simp only [List.length_append, List.length_cons]
    omega
  rw [Slot.isRetired_vacate] at vacated pushed
  refine ⟨{ e with size := (before ++ after).length }, s.plain, v, cell, ?_,
    unlink_of_steps vacated hd he size, ?_, ?_⟩
  · rw [Slot.content?_plain, hn]
    rfl
  · refine h.remove cells (Slot.content?_vacate _ _) (Slot.spent_vacate (h.spent i _ cell)) ring ?_
      (pushed.congr relinked.vacantLink? relinked.free)
    exact size.symm.trans relinked.size
  · refine ⟨relinked.id, relinked.policy, ?_, cells⟩
    subst ha
    exact relinked.capacity

theorem clear_intact (h : c.Intact l f) :
    c.clear.Intact [] c.clear.arena.reusable ∧
      c.Becomes c.clear fun i => (c.cell? i).map (·.vacate none) := by
  have cells : c.clear.cell? = fun i => (c.cell? i).map (·.vacate none) := by
    funext i
    obtain ⟨free, hi⟩ := Arena.slot?_clear c.arena i
    have slot : c.clear.arena.slot? i = (c.arena.slot? i).map (·.vacate free) := hi
    simp only [cell?, slot, Option.map_map]
    congr 1
    funext s
    exact Slot.plain_vacate s free
  refine ⟨⟨?_, List.nodup_nil, fun i => ?_, rfl, Arena.stacked_clear c.arena, ?_⟩,
    rfl, rfl, rfl, cells⟩
  · intro before after e
    obtain ⟨rfl, rfl⟩ := List.append_eq_nil_iff.mp e
    exact ⟨rfl, rfl⟩
  · rw [valueAt?_eq]
    simp [clear, Arena.content?_clear]
  · intro i s hs retired
    rw [cells] at hs
    obtain ⟨t, ht, rfl⟩ := Option.map_eq_some_iff.mp hs
    exact Slot.spent_vacate (h.spent i t ht) retired

theorem Intact.congr (h : c.Intact l f) (contents : d.arena.content? = c.arena.content?)
    (links : d.arena.vacantLink? = c.arena.vacantLink?) (free : d.arena.free = c.arena.free)
    (head : d.headIndex = c.headIndex) (tail : d.tailIndex = c.tailIndex) (size : d.size = c.size)
    (spent : ∀ i s, d.cell? i = some s → s.isRetired = true → s.generation = Slot.lastGeneration) :
    d.Intact l f where
  ring := by
    refine h.ring.congr ?_ ?_
    · intro q u hu
      cases q with
      | none => exact (congrArg Except.ok head).trans hu
      | some i =>
        rw [nextOf_some_eq_ok] at hu ⊢
        rwa [contents]
    · intro q u hu
      cases q with
      | none => exact (congrArg Except.ok tail).trans hu
      | some i =>
        rw [prevOf_some_eq_ok] at hu ⊢
        rwa [contents]
  nodup := h.nodup
  live i := by
    rw [h.live i, valueAt?_eq, valueAt?_eq, contents]
  size := size.trans h.size
  stack := h.stack.congr links free
  spent := spent

theorem withCapacity_intact (h : c.Intact l f) (n : Nat) : (c.withCapacity n).Intact l f :=
  h.congr rfl rfl rfl rfl rfl rfl h.spent

theorem copy_intact (h : c.Intact l f) (id : ChainId) : (c.copy id).Intact l f :=
  h.congr rfl rfl rfl rfl rfl rfl h.spent

theorem empty_intact (id : ChainId) (policy : Policy) : (Chain.empty id policy).Intact [] [] where
  ring before after e := by
    obtain ⟨rfl, rfl⟩ := List.append_eq_nil_iff.mp e
    exact ⟨rfl, rfl⟩
  nodup := List.nodup_nil
  live i := by simp [valueAt?, cell?, Chain.empty, Arena.empty, Arena.slot?]
  size := rfl
  stack := .empty
  spent i s hs := by simp [cell?, Chain.empty, Arena.empty, Arena.slot?] at hs

theorem setGeneration_eq_ok {h h' : Handle} {g : UInt32} (eq : c.setGeneration h g = .ok (d, h')) :
    ∃ s n, c.arena.slot? h.index = some s ∧ s.content? = some n ∧
      c.withArena (c.arena.put h.index { s with generation := g }) = d := by
  cases hr : c.resolve h with
  | error r => simp [setGeneration, hr, bind, Except.bind] at eq
  | ok i =>
    obtain ⟨-, rfl, s, n, hs, -, hn⟩ := resolve_eq_ok.mp hr
    simp only [setGeneration, hr, hs, bind, Except.bind, Except.ok.injEq, Prod.mk.injEq] at eq
    exact ⟨s, n, hs, hn, eq.1⟩

theorem content?_setGeneration {h h' : Handle} {g : UInt32}
    (eq : c.setGeneration h g = .ok (d, h')) : d.arena.content? = c.arena.content? := by
  obtain ⟨s, n, hs, hn, rfl⟩ := setGeneration_eq_ok eq
  generalize h.index = i at hs
  funext j
  refine (Arena.content?_of_slots (Arena.slot?_put (Arena.lt_size_of_slot? hs) _) j).trans ?_
  split
  · next hj => simp [hj, Arena.content?, hs, Slot.content?]
  · rfl

theorem setGeneration_intact {h h' : Handle} {g : UInt32} (intact : c.Intact l f)
    (eq : c.setGeneration h g = .ok (d, h')) : d.Intact l f := by
  have contents := content?_setGeneration eq
  obtain ⟨s, n, hs, hn, rfl⟩ := setGeneration_eq_ok eq
  generalize h.index = i at hs contents
  have entry : s.entry = .occupied n := Slot.content?_eq_some.mp hn
  have slots : (c.arena.put i { s with generation := g }).slot? =
      Function.update c.arena.slot? i (some { s with generation := g }) :=
    Arena.slot?_put (Arena.lt_size_of_slot? hs) _
  have cells := cell?_of_slots (c := c) (d := c.withArena (c.arena.put i _)) slots
  refine intact.congr contents ?_ rfl rfl rfl rfl (spent_of_cells cells ?_ intact.spent)
  · funext j
    refine (Arena.vacantLink?_of_slots slots j).trans ?_
    split
    · next hj => simp [hj, Arena.vacantLink?, hs, Slot.vacantLink?, entry]
    · rfl
  · intro retired
    have plain : (⟨g, s.entry⟩ : Slot Node).plain = ⟨g, .occupied n.value⟩ := by
      simp [Slot.plain, entry]
    rw [plain] at retired
    cases retired

end Chain
end StringChain
