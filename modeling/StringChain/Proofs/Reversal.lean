import StringChain.Proofs.Policies

namespace StringChain

namespace Chain

variable {c d e : Chain} {l f before after : List Nat} {h : Handle} {v : String} {m : Memory}

theorem cell?_eq_vacant {i : Nat} {g : UInt32} :
    c.cell? i = some ⟨g, .vacant none⟩ ↔ ∃ next, c.arena.slot? i = some ⟨g, .vacant next⟩ := by
  unfold cell?
  rw [Option.map_eq_some_iff]
  constructor
  · rintro ⟨⟨g', e⟩, hs, plain⟩
    cases e with
    | occupied n => cases plain
    | vacant next =>
      cases plain
      exact ⟨next, hs⟩
    | retired => cases plain
  · rintro ⟨next, hs⟩
    exact ⟨_, hs, rfl⟩

def Unused (c : Chain) (h : Handle) : Prop :=
  (c.arena.size = h.index ∧ h.generation = 0) ∨
    ∃ next, c.arena.slot? h.index = some ⟨h.generation, .vacant next⟩

def Spent (c : Chain) (h : Handle) : Prop :=
  if h.generation = Slot.lastGeneration then
    c.arena.slot? h.index = some ⟨h.generation, .retired⟩
  else ∃ next, c.arena.slot? h.index = some ⟨h.generation + 1, .vacant next⟩

structure Restored (c d : Chain) (h : Handle) : Prop where
  id : d.id = c.id
  policy : d.policy = c.policy
  head : d.headIndex = c.headIndex
  tail : d.tailIndex = c.tailIndex
  shown : ∃ seq, c.Shows seq ∧ d.Shows seq
  others : ∀ i, i ≠ h.index → d.arena.slot? i = c.arena.slot? i
  unused : c.Unused h
  spent : d.Spent h
  free : ∃ f, c.arena.Stacked f ∧ d.arena.Stacked
    (if h.generation = Slot.lastGeneration then f.erase h.index
    else if c.arena.size = h.index then h.index :: f else f)

theorem spent_of_vacated
    (cell : d.cell? h.index = some ((⟨h.generation, .occupied v⟩ : Slot String).vacate none)) :
    d.Spent h := by
  unfold Spent
  split
  · next last =>
    refine cell?_eq_retired.mp ?_
    simpa [Slot.vacate, last] using cell
  · next more =>
    refine cell?_eq_vacant.mp ?_
    simpa [Slot.vacate, more] using cell

theorem Intact.unused_upcoming (intact : c.Intact l f) : c.Unused c.upcomingHandle := by
  rcases intact.upcoming_cases with ⟨-, -, top, zero⟩ | ⟨next, _, -, slot⟩
  · exact .inl ⟨top, zero⟩
  · exact .inr ⟨next, slot⟩

theorem Intact.shows_of_cells (intact : c.Intact l f) {f' : List Nat} (intact' : d.Intact l f')
    (id : d.id = c.id) (cells : ∀ i ∈ l, d.cell? i = c.cell? i) :
    ∃ seq, c.Shows seq ∧ d.Shows seq := by
  obtain ⟨seq, lists⟩ := intact.exists_listing
  have lists' : d.Lists l seq := lists.congr fun i hi => pair?_of_cell? id (cells i hi)
  exact ⟨seq, intact.shows lists, intact'.shows lists'⟩

theorem Intact.top_of_stack (intact : c.Intact l f) :
    ∃ p, f = p ++ f.tail ∧ ∀ i ∈ p, i = c.arena.upcoming := by
  rcases intact.upcoming_cases with ⟨rfl, -⟩ | ⟨_, rest, top, -⟩
  · exact ⟨[], rfl, fun i hi => (nomatch hi)⟩
  · exact ⟨[c.arena.upcoming], by rw [top]; rfl, fun i hi => List.mem_singleton.mp hi⟩

theorem Intact.stack_refilled (intact : c.Intact l f) :
    (if c.upcomingGeneration = Slot.lastGeneration then f.tail else c.arena.upcoming :: f.tail) =
      if c.upcomingGeneration = Slot.lastGeneration then f.erase c.arena.upcoming
      else if c.arena.size = c.arena.upcoming then c.arena.upcoming :: f else f := by
  rcases intact.upcoming_cases with ⟨rfl, -, new, zero⟩ | ⟨_, rest, top, slot⟩
  · have more : (0 : UInt32) ≠ Slot.lastGeneration := by decide
    rw [zero, if_neg more, if_neg more, if_pos new]
    rfl
  · have old : c.arena.size ≠ c.arena.upcoming := Nat.ne_of_gt (Arena.lt_size_of_slot? slot)
    rw [if_neg old, top, List.erase_cons_head]
    rfl

theorem Intact.restored (intact : c.Intact l f)
    (intact' : d.Intact l (if c.upcomingGeneration = Slot.lastGeneration then f.tail
      else c.arena.upcoming :: f.tail))
    (id : d.id = c.id) (policy : d.policy = c.policy)
    (cells : d.cell? = Function.update c.cell? c.arena.upcoming
      (some ((⟨c.upcomingGeneration, .occupied v⟩ : Slot String).vacate none))) :
    c.Restored d c.upcomingHandle := by
  have others : ∀ i, i ≠ c.arena.upcoming → d.cell? i = c.cell? i := fun i hi => by
    rw [cells, Function.update_of_ne hi]
  refine ⟨id, policy, ?_, ?_, ?_, ?_, intact.unused_upcoming, ?_, f, intact.stack, ?_⟩
  · rw [intact.ring.headIndex_eq, intact'.ring.headIndex_eq]
  · rw [intact.ring.tailIndex_eq, intact'.ring.tailIndex_eq]
  · refine intact.shows_of_cells intact' id fun i hi => others i ?_
    rintro rfl
    exact intact.upcoming_not_mem hi
  · intro i hi
    obtain ⟨p, top, hp⟩ := intact.top_of_stack
    obtain ⟨q, top', hq⟩ : ∃ q, (if c.upcomingGeneration = Slot.lastGeneration then f.tail
        else c.arena.upcoming :: f.tail) = q ++ f.tail ∧ ∀ i ∈ q, i = c.arena.upcoming := by
      split
      · exact ⟨[], rfl, fun i hi => (nomatch hi)⟩
      · exact ⟨[c.arena.upcoming], rfl, fun i hi => List.mem_singleton.mp hi⟩
    have before : c.Intact l (p ++ f.tail) := by rwa [← top]
    have after : d.Intact l (q ++ f.tail) := by rwa [← top']
    exact before.same_slot? after (fun inside => hi (hp i inside)) (fun inside => hi (hq i inside))
      (others i hi)
  · refine spent_of_vacated (h := c.upcomingHandle) (v := v) ?_
    rw [cells]
    exact Function.update_self _ _ _
  · exact intact.stack_refilled ▸ intact'.stack

theorem Intact.remove_inserted {n : Nat} (intact : c.Intact (before ++ after) f)
    (inserted : d.Intact (before ++ c.arena.upcoming :: after) f.tail)
    (becomes : (c.withCapacity n).Becomes d (Function.update c.cell? c.arena.upcoming
      (some ⟨c.upcomingGeneration, .occupied v⟩))) :
    ∃ e events, d.remove c.upcomingHandle = .ok ⟨.ok v, e, events⟩ ∧
      c.Restored e c.upcomingHandle := by
  have cell : d.cell? c.arena.upcoming = some ⟨c.upcomingGeneration, .occupied v⟩ := by
    rw [becomes.cells]
    exact Function.update_self _ _ _
  have resolved : d.resolve c.upcomingHandle = .ok c.arena.upcoming :=
    resolve_eq_ok_iff.mpr ⟨becomes.id.symm, rfl, v, cell⟩
  rcases remove_cases inserted c.upcomingHandle with
    ⟨r, unresolved, -⟩ | ⟨b, a, e, w, cut, -, cell', removed, intact', becomes'⟩
  · cases resolved.symm.trans unresolved
  · obtain ⟨rfl, tails⟩ := cut_unique (cut ▸ inserted.nodup) cut.symm rfl
    obtain ⟨-, rfl⟩ := List.cons.inj tails
    obtain rfl : v = w := by
      cases cell.symm.trans cell'
      rfl
    refine ⟨e, _, removed, intact.restored (v := v) intact' ?_ ?_ ?_⟩
    · exact becomes'.id.trans becomes.id
    · exact becomes'.policy.trans becomes.policy
    · rw [becomes'.cells, becomes.cells]
      exact Function.update_idem _ _ _

theorem reserve?_of_free {i : Nat} (free : c.arena.free = some i) (m : Memory) :
    c.arena.reserve? m = some (c.arena, m) := by
  simp [Arena.reserve?, Arena.hasRoom, free]

theorem insertBefore_of_free {target : Option Handle} {i : Nat} (intact : c.Intact l (i :: f))
    (ample : m.Ample) (accepted : c.accept target v = .ok after.head?) (cut : l = before ++ after) :
    ∃ o m', c.insertBefore target v m = .ok (o, m') ∧
      o.result = .ok ⟨c.id, i, c.upcomingGeneration⟩ ∧ o.chain.Intact (before ++ i :: after) f ∧
      c.Becomes o.chain (Function.update c.cell? i
        (some ⟨c.upcomingGeneration, .occupied v⟩)) := by
  obtain ⟨top, -⟩ := intact.stack.upcoming_vacant rfl
  have reserved := reserve?_of_free (c := c) intact.stack.free_eq
  obtain ⟨o, m', inserted, ends⟩ := insertBefore_ends intact target v m
  refine ⟨o, m', inserted, ?_⟩
  cases ends with
  | unaccepted rejected => cases accepted.symm.trans rejected
  | noNode _ refused => cases (reserved m).symm.trans refused
  | noValue _ reserved' refused =>
    cases (reserved m).symm.trans reserved'
    cases (ample _).symm.trans (Memory.hold?_eq_none refused)
  | @linked before' after' a _ _ d cut' accepted' reserved' _ intact' becomes =>
    cases (reserved m).symm.trans reserved'
    have heads := Except.ok.inj (accepted.symm.trans accepted')
    obtain ⟨rfl, rfl⟩ := cut_unique (cut ▸ intact.nodup) (cut'.symm.trans cut) heads.symm
    rw [top] at intact' becomes
    exact ⟨by rw [upcomingHandle, top], intact', becomes⟩

theorem Intact.next_placed (intact : c.Intact (before ++ h.index :: after) f)
    (resolved : c.resolve h = .ok h.index) (id : d.id = c.id)
    (others : ∀ i ∈ after, d.cell? i = c.cell? i) :
    ∃ n, c.next h = .ok n ∧ d.Placed n after.head? := by
  rw [next_of_nextOf resolved intact.ring.nextOf_eq]
  cases after with
  | nil => exact ⟨none, rfl, .inl ⟨rfl, rfl⟩⟩
  | cons i rest =>
    obtain ⟨w, live⟩ := intact.live_of_mem (i := i) (by simp)
    obtain ⟨g, cell⟩ := valueAt?_eq_some_iff.mp live
    have cell' : d.cell? i = some ⟨g, .occupied w⟩ := (others i List.mem_cons_self).trans cell
    refine ⟨some ⟨c.id, i, g⟩, ?_, .inr ⟨_, rfl, ?_, rfl⟩⟩
    · simp [handleAt?, handleAt_of_cell? cell, bind, Except.bind]
    · exact resolve_eq_ok_iff.mpr ⟨id.symm, rfl, w, cell'⟩

def Restamped (c d : Chain) (h : Handle) (g : UInt32) : Prop :=
  ∃ s, c.arena.slot? h.index = some s ∧
    d = { c with arena := c.arena.put h.index { s with generation := g } }

theorem Intact.restamped {g : UInt32} (intact : c.Intact l f) (live : c.resolve h = .ok h.index)
    (cell : c.cell? h.index = some ⟨h.generation, .occupied v⟩) (intact' : d.Intact l f)
    (becomes : c.Becomes d (Function.update c.cell? h.index (some ⟨g, .occupied v⟩))) :
    c.Restamped d h g := by
  obtain ⟨s, node, hs, -, content, rfl⟩ := cell?_eq_occupied.mp cell
  have restamps : c.setGeneration h g =
      .ok (c.withArena (c.arena.put h.index { s with generation := g }), ⟨c.id, h.index, g⟩) := by
    simp [setGeneration, live, hs, withArena, bind, Except.bind]
  have slots : (c.arena.put h.index { s with generation := g }).slot? =
      Function.update c.arena.slot? h.index (some { s with generation := g }) :=
    Arena.slot?_put (Arena.lt_size_of_slot? hs) _
  have cells := cell?_of_slots (c := c) (d := c.withArena (c.arena.put h.index _)) slots
  have plain : ({ s with generation := g } : Slot Node).plain = ⟨g, .occupied node.value⟩ := by
    simp [Slot.plain, Slot.content?_eq_some.mp content]
  refine ⟨s, hs, ?_⟩
  have same := (setGeneration_intact intact restamps).eq_withCapacity intact' becomes.id
    becomes.policy (by rw [becomes.cells, cells, plain])
  rw [same, becomes.capacity]
  rfl

theorem Intact.insert_removed {target : Option Handle}
    (intact : c.Intact (before ++ h.index :: after) f) (live : c.resolve h = .ok h.index)
    (cell : c.cell? h.index = some ⟨h.generation, .occupied v⟩)
    (more : h.generation ≠ Slot.lastGeneration)
    (removed : d.Intact (before ++ after) (h.index :: f))
    (becomes : c.Becomes d (Function.update c.cell? h.index
      (some ((⟨h.generation, .occupied v⟩ : Slot String).vacate none))))
    (accepted : d.accept target v = .ok after.head?) (ample : m.Ample) :
    ∃ o m', d.insertBefore target v m = .ok (o, m') ∧
      o.result = .ok { h with generation := h.generation + 1 } ∧
      c.Restamped o.chain h (h.generation + 1) := by
  obtain ⟨o, m', inserted, result, intact', becomes'⟩ :=
    insertBefore_of_free removed ample accepted rfl
  have cell' : d.cell? h.index = some ⟨h.generation + 1, .vacant none⟩ := by
    rw [becomes.cells, Function.update_self]
    simp [Slot.vacate, more]
  obtain ⟨top, -⟩ := removed.stack.upcoming_vacant rfl
  have generation : d.upcomingGeneration = h.generation + 1 := by
    simp [upcomingGeneration, top, cell']
  rw [generation] at result becomes'
  obtain ⟨own, -, -⟩ := resolve_eq_ok_iff.mp live
  refine ⟨o, m', inserted, ?_, intact.restamped live cell intact' ⟨?_, ?_, ?_, ?_⟩⟩
  · rw [result, becomes.id, ← own]
  · exact becomes'.id.trans becomes.id
  · exact becomes'.policy.trans becomes.policy
  · exact becomes'.capacity.trans becomes.capacity
  · rw [becomes'.cells, becomes.cells]
    exact Function.update_idem _ _ _

theorem Intact.undo_insertion (intact : c.Intact l f) (target : Option Handle) (value : String)
    (m : Memory) :
    ∃ o m', c.insertBefore target value m = .ok (o, m') ∧ ∀ h, o.result = .ok h →
      ∃ d events, o.chain.remove h = .ok ⟨.ok value, d, events⟩ ∧ c.Restored d h := by
  rcases insertBefore_cases intact target value m with
    ⟨_, _, m', eq, -⟩ | ⟨before, after, n, d, m', rfl, -, eq, intact', becomes⟩
  · exact ⟨_, m', eq, fun h done => by cases done⟩
  · refine ⟨_, m', eq, ?_⟩
    rintro _ ⟨⟩
    exact intact.remove_inserted intact' becomes

theorem Intact.undo_removal {p : Policy} (intact : c.Intact l f) (upholds : c.Upholds p)
    (has : c.has h = true) :
    ∃ n v d events, c.next h = .ok n ∧ c.get? h = some v ∧
      c.remove h = .ok ⟨.ok v, d, events⟩ ∧
      (h.generation ≠ Slot.lastGeneration → ∀ m : Memory, m.Ample →
        ∃ o m', d.insertBefore n v m = .ok (o, m') ∧
          o.result = .ok { h with generation := h.generation + 1 } ∧
          c.Restamped o.chain h (h.generation + 1)) := by
  obtain ⟨i, resolved⟩ := has_iff.mp has
  obtain ⟨own, rfl, _, -⟩ := resolve_eq_ok_iff.mp resolved
  rcases remove_cases intact h with
    ⟨_, unresolved, -⟩ | ⟨before, after, d, v, rfl, -, cell, removed, intact', becomes⟩
  · cases resolved.symm.trans unresolved
  obtain ⟨gone, -⟩ := List.nodup_cons.mp (List.nodup_middle.mp intact.nodup)
  obtain ⟨n, next, placed⟩ := intact.next_placed resolved becomes.id fun i hi => by
    have other : i ≠ h.index := fun e => gone (e ▸ List.mem_append_right before hi)
    rw [becomes.cells, Function.update_of_ne other]
  refine ⟨n, v, d, _, next, ?_, removed, fun more m ample => ?_⟩
  · exact get?_eq_some_iff.mpr (pair?_eq_some.mpr ⟨own, rfl, cell⟩)
  · have accepted := accept_of_placed placed v
    rw [becomes.policy, upholds.1, upholds.2 h.index v (valueAt?_eq_some_iff.mpr ⟨_, cell⟩)]
      at accepted
    rw [if_neg more] at intact'
    exact intact.insert_removed resolved cell more intact' becomes accepted ample

theorem insertion_and_removal_undo_each_other (id : ChainId) (policy : Policy)
    (actions : List Action) :
    ∃ c, (Chain.empty id policy).run actions = .ok c ∧
      (∀ target value m, ∃ o m', c.insertBefore target value m = .ok (o, m') ∧
        ∀ h, o.result = .ok h →
          ∃ d events, o.chain.remove h = .ok ⟨.ok value, d, events⟩ ∧ c.Restored d h) ∧
      ∀ h, c.has h = true → ∃ n v d events, c.next h = .ok n ∧ c.get? h = some v ∧
        c.remove h = .ok ⟨.ok v, d, events⟩ ∧
        (h.generation ≠ Slot.lastGeneration → ∀ m : Memory, m.Ample →
          ∃ o m', d.insertBefore n v m = .ok (o, m') ∧
            o.result = .ok { h with generation := h.generation + 1 } ∧
            c.Restamped o.chain h (h.generation + 1)) := by
  obtain ⟨c, l, f, eq, intact⟩ := run_intact (empty_intact id policy) actions
  exact ⟨c, eq, intact.undo_insertion, fun h => intact.undo_removal (run_upholds id policy eq)⟩

end Chain
end StringChain
