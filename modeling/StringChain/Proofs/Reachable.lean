import StringChain.Proofs.Refinement

namespace StringChain

inductive Action where
  | perform (call : Call) (m : Memory)
  | copy (id : ChainId)
  | setGeneration (handle : Handle) (generation : UInt32)

namespace Chain

def act (c : Chain) : Action → Checked Chain
  | .perform call m => do .ok (← c.perform call m).1.chain
  | .copy id => .ok (c.copy id)
  | .setGeneration handle generation =>
    match c.setGeneration handle generation with
    | .ok (d, _) => .ok d
    | .error _ => .ok c

def run (c : Chain) : List Action → Checked Chain
  | [] => .ok c
  | action :: rest => do (← c.act action).run rest

def Reachable (c : Chain) : Prop :=
  ∃ id policy actions, (Chain.empty id policy).run actions = .ok c

theorem act_intact {c : Chain} {l f : List Nat} (intact : c.Intact l f) (action : Action) :
    ∃ d l' f', c.act action = .ok d ∧ d.Intact l' f' := by
  cases action with
  | perform call m =>
    obtain ⟨o, m', l', f', eq, intact'⟩ := perform_intact intact call m
    exact ⟨o.chain, l', f', by simp [act, eq, bind, Except.bind], intact'⟩
  | copy id => exact ⟨c.copy id, l, f, rfl, copy_intact intact id⟩
  | setGeneration handle generation =>
    cases hg : c.setGeneration handle generation with
    | error r => exact ⟨c, l, f, by simp [act, hg], intact⟩
    | ok restamped =>
      obtain ⟨d, h⟩ := restamped
      exact ⟨d, l, f, by simp [act, hg], setGeneration_intact intact hg⟩

theorem run_intact {c : Chain} {l f : List Nat} (intact : c.Intact l f) (actions : List Action) :
    ∃ d l' f', c.run actions = .ok d ∧ d.Intact l' f' := by
  induction actions generalizing c l f with
  | nil => exact ⟨c, l, f, rfl, intact⟩
  | cons action rest ih =>
    obtain ⟨d, l₁, f₁, eq, intact₁⟩ := act_intact intact action
    obtain ⟨e, l₂, f₂, eq', intact₂⟩ := ih intact₁
    exact ⟨e, l₂, f₂, by simp [run, eq, eq', bind, Except.bind], intact₂⟩

theorem run_holds (id : ChainId) (policy : Policy) (actions : List Action) :
    ∃ c seq, (Chain.empty id policy).run actions = .ok c ∧ c.Holds seq := by
  obtain ⟨c, l, f, eq, intact⟩ := run_intact (empty_intact id policy) actions
  obtain ⟨seq, holds⟩ := intact.holds
  exact ⟨c, seq, eq, holds⟩

theorem Reachable.intact {c : Chain} (h : c.Reachable) : ∃ l f, c.Intact l f := by
  obtain ⟨id, policy, actions, eq⟩ := h
  obtain ⟨d, l, f, eq', intact⟩ := run_intact (empty_intact id policy) actions
  obtain rfl : c = d := Except.ok.inj (eq.symm.trans eq')
  exact ⟨l, f, intact⟩

theorem Reachable.holds {c : Chain} (h : c.Reachable) : ∃ seq, c.Holds seq := by
  obtain ⟨l, f, intact⟩ := h.intact
  exact intact.holds

namespace Intact

variable {c : Chain} {l f : List Nat}

theorem mem_iff_occupied (intact : c.Intact l f) (i : Nat) :
    i ∈ l ↔ ∃ s n, c.arena.slot? i = some s ∧ s.entry = .occupied n := by
  rw [intact.live i]
  simp only [valueAt?_eq_some, Arena.content?_eq_some, Slot.content?_eq_some]
  constructor
  · rintro ⟨v, n, ⟨s, hs, hn⟩, -⟩
    exact ⟨s, n, hs, hn⟩
  · rintro ⟨s, n, hs, hn⟩
    exact ⟨n.value, n, ⟨s, hs, hn⟩, rfl⟩

theorem mem_iff_vacant (intact : c.Intact l f) (i : Nat) :
    i ∈ f ↔ ∃ s next, c.arena.slot? i = some s ∧ s.entry = .vacant next := by
  rw [intact.stack.vacant i]
  simp only [Arena.vacantLink?, Option.bind_eq_some_iff, Slot.vacantLink?_eq_some]
  exact exists_comm

theorem retired_spent (intact : c.Intact l f) {i : Nat} {s : Slot Node}
    (hs : c.arena.slot? i = some s) (retired : s.entry = .retired) :
    s.generation = Slot.lastGeneration ∧ i ∉ l ∧ i ∉ f := by
  refine ⟨?_, ?_, ?_⟩
  · have cell : c.cell? i = some s.plain := by simp [cell?, hs]
    rw [← Slot.generation_plain]
    refine intact.spent i s.plain cell ?_
    rw [Slot.isRetired_plain, Slot.isRetired_iff, retired]
  · intro hi
    obtain ⟨t, n, ht, hn⟩ := (intact.mem_iff_occupied i).mp hi
    obtain rfl : s = t := Option.some.inj (hs.symm.trans ht)
    cases retired.symm.trans hn
  · intro hi
    obtain ⟨t, next, ht, hn⟩ := (intact.mem_iff_vacant i).mp hi
    obtain rfl : s = t := Option.some.inj (hs.symm.trans ht)
    cases retired.symm.trans hn

theorem headIndex_eq_none (intact : c.Intact l f) : c.headIndex = none ↔ c.size = 0 := by
  rw [intact.ring.headIndex_eq, intact.size, List.head?_eq_none_iff, List.length_eq_zero_iff]

theorem tailIndex_eq_none (intact : c.Intact l f) : c.tailIndex = none ↔ c.size = 0 := by
  rw [intact.ring.tailIndex_eq, intact.size, List.getLast?_eq_none_iff, List.length_eq_zero_iff]

end Intact

structure Threaded (c : Chain) (l f : List Nat) : Prop where
  forward : Visits c.nextAt? c.headIndex l
  nodup : l.Nodup
  last : l.getLast? = c.tailIndex
  backward : Visits c.prevAt? c.tailIndex l.reverse
  occupied : ∀ i, i ∈ l ↔ ∃ s n, c.arena.slot? i = some s ∧ s.entry = .occupied n
  size : l.length = c.size
  head_none : c.headIndex = none ↔ c.size = 0
  tail_none : c.tailIndex = none ↔ c.size = 0
  free : Visits c.arena.vacantLink? c.arena.free f
  free_nodup : f.Nodup
  vacant : ∀ i, i ∈ f ↔ ∃ s next, c.arena.slot? i = some s ∧ s.entry = .vacant next
  retired : ∀ i s, c.arena.slot? i = some s → s.entry = .retired →
    s.generation = Slot.lastGeneration ∧ i ∉ l ∧ i ∉ f

theorem Intact.threaded {c : Chain} {l f : List Nat} (intact : c.Intact l f) :
    c.Threaded l f where
  forward := intact.ring.visits_forward
  nodup := intact.nodup
  last := intact.ring.tailIndex_eq.symm
  backward := intact.ring.visits_backward
  occupied := intact.mem_iff_occupied
  size := intact.size.symm
  head_none := intact.headIndex_eq_none
  tail_none := intact.tailIndex_eq_none
  free := intact.stack.visits
  free_nodup := intact.stack.nodup
  vacant := intact.mem_iff_vacant
  retired _ _ := intact.retired_spent

theorem run_threads_every_slot (id : ChainId) (policy : Policy) (actions : List Action) :
    ∃ c l f, (Chain.empty id policy).run actions = .ok c ∧ c.Threaded l f := by
  obtain ⟨c, l, f, eq, intact⟩ := run_intact (empty_intact id policy) actions
  exact ⟨c, l, f, eq, intact.threaded⟩

end Chain
end StringChain
