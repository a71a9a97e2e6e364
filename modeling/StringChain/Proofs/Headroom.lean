import StringChain.Proofs.Grounds

namespace StringChain

namespace Arena

variable {α : Type} {a b : Arena α} {f : List Nat} {m m' : Memory}

theorem capacity_le_of_reserve? (fits : a.size ≤ a.capacity)
    (reserved : a.reserve? m = some (b, m')) :
    b.capacity ≤ max a.capacity (max 4 (2 * a.size)) := by
  by_cases full : a.Full
  · rw [reserve?_of_full fits full] at reserved
    obtain ⟨m₁, -, e⟩ := Option.map_eq_some_iff.mp reserved
    cases e
    have used : a.size = a.capacity := full.2
    unfold grownCapacity
    dsimp only
    omega
  · rw [reserve?_of_not_full fits full] at reserved
    cases reserved
    exact Nat.le_max_left _ _

def Roomy (a : Arena α) : Prop :=
  (a.free ≠ none ∨ a.size < a.capacity) ∧
    ∀ x, ∃ b i, a.occupy x = .ok (b, i) ∧ b.capacity = a.capacity

theorem Stacked.roomy (stacked : a.Stacked f) (room : a.hasRoom = true) : a.Roomy := by
  refine ⟨?_, fun x => ?_⟩
  · simpa [hasRoom, size, Option.isSome_iff_ne_none] using room
  · obtain ⟨b, eq, -, -, capacity⟩ := occupy_upcoming stacked room x
    exact ⟨b, _, eq, capacity⟩

end Arena

namespace Chain

variable {β : Type} {c d : Chain} {l f : List Nat} {call : Call} {target : Option Handle}
  {value : String} {m m' : Memory} {n : Nat}

def Tight (c : Chain) : Prop := c.Fits ∧ c.arena.capacity ≤ max 4 (2 * c.arena.size)

theorem Tight.of_same (tight : c.Tight) (size : d.arena.size = c.arena.size)
    (capacity : d.arena.capacity = c.arena.capacity) : d.Tight := by
  unfold Tight Fits
  rw [size, capacity]
  exact tight

theorem kept_tight : Kept Tight where
  insert := by
    intro c l f target value m o m' intact tight eq
    refine ⟨kept_fits.insert intact tight.1 eq, ?_⟩
    obtain ⟨fits, bound⟩ := tight
    obtain ⟨_, _, eq', ends⟩ := insertBefore_ends intact target value m
    cases eq.symm.trans eq'
    cases ends with
    | unaccepted _ => exact bound
    | noNode _ _ => exact bound
    | noValue _ reserved _ =>
      exact (Arena.capacity_le_of_reserve? fits reserved).trans (Nat.max_le.mpr ⟨bound, le_rfl⟩)
    | @linked _ _ a _ _ d _ _ reserved _ _ becomes =>
      have grown := Arena.capacity_le_of_reserve? fits reserved
      have capacity : d.arena.capacity = a.capacity := becomes.capacity
      have size : d.arena.size = max c.arena.size (c.arena.upcoming + 1) :=
        size_of_update (c := c.withCapacity a.capacity) becomes.cells
      have bounded : d.arena.capacity ≤ max 4 (2 * d.arena.size) := by omega
      exact bounded
  remove := by
    intro c l f h o intact tight eq
    rcases remove_cases intact h with ⟨r, -, eq'⟩ | ⟨_, _, d, v, -, -, cell, eq', -, becomes⟩
    · cases eq.symm.trans eq'
      exact tight
    · cases eq.symm.trans eq'
      refine tight.of_same ?_ becomes.capacity
      rw [size_of_update becomes.cells, Nat.max_eq_left (lt_size_of_cell? cell)]
  clear := by
    intro c l f _ tight
    exact tight.of_same (Arena.size_clear c.arena) rfl

theorem setGeneration_tight {h h' : Handle} {g : UInt32}
    (eq : c.setGeneration h g = .ok (d, h')) (tight : c.Tight) : d.Tight := by
  obtain ⟨s, node, -, -, rfl⟩ := setGeneration_eq_ok eq
  exact tight.of_same (Arena.size_put c.arena h.index { s with generation := g }) rfl

theorem copy_tight (c : Chain) (id : ChainId) : (c.copy id).Tight := by
  have capacity : (c.copy id).arena.capacity = (c.copy id).arena.size := rfl
  refine ⟨Nat.le_of_eq capacity.symm, ?_⟩
  omega

theorem run_tight (id : ChainId) (policy : Policy) {actions : List Action}
    (eq : (Chain.empty id policy).run actions = .ok c) : c.Tight :=
  kept_tight.run (fun {c} id _ => copy_tight c id) setGeneration_tight (empty_intact id policy)
    ⟨Nat.le_refl 0, Nat.zero_le _⟩ eq

theorem Intact.roomy (intact : c.Intact l f) {a : Arena Node}
    (reserved : c.arena.reserve? m = some (a, m')) : a.Roomy := by
  obtain ⟨grown, room⟩ := reserve?_withCapacity reserved
  have stacked : { c with arena := a }.arena.Stacked f :=
    grown ▸ (withCapacity_intact intact a.capacity).stack
  exact stacked.roomy room

theorem resolve_declines {h : Handle} {r : Refusal} (unresolved : c.resolve h = .error r) :
    r.isAllocationFailure = false := by
  rcases resolve_cases c h with ⟨-, eq⟩ | ⟨-, -, eq⟩ | ⟨-, -, eq⟩ <;>
    cases unresolved.symm.trans eq <;> rfl

theorem accept_declines {r : Refusal} (rejected : c.accept target value = .error r) :
    r.isAllocationFailure = false := by
  have placed_declines : ∀ place, c.Placed target place → r.isAllocationFailure = false := by
    intro place placed
    rw [accept_of_placed placed] at rejected
    split at rejected
    · cases rejected
      rfl
    · cases rejected
  cases target with
  | none => exact placed_declines none (.inl ⟨rfl, rfl⟩)
  | some h =>
    cases resolved : c.resolve h with
    | error e =>
      cases rejected.symm.trans (accept_some_of_error resolved value)
      exact resolve_declines resolved
    | ok i =>
      obtain ⟨-, rfl, -⟩ := resolve_eq_ok_iff.mp resolved
      exact placed_declines _ (.inr ⟨h, rfl, resolved, rfl⟩)

theorem remove_declines (intact : c.Intact l f) (h : Handle) :
    ∃ o, c.remove h = .ok o ∧ o.chain.arena.capacity = c.arena.capacity ∧
      ∀ r, o.result = .error r → r.isAllocationFailure = false := by
  rcases remove_cases intact h with ⟨r, unresolved, eq⟩ | ⟨_, _, d, v, -, -, -, eq, -, becomes⟩
  · refine ⟨_, eq, rfl, fun r' failed => ?_⟩
    cases failed
    exact resolve_declines unresolved
  · refine ⟨_, eq, becomes.capacity, fun r' failed => ?_⟩
    cases failed

structure Spares (c : Chain) (o : Outcome β) (m m' : Memory) : Prop where
  granted : m'.granted ≤ m.granted + 1
  capacity : o.chain.arena.capacity = c.arena.capacity
  noNode : o.result ≠ .error .nodeAllocation
  enough : m.grants m.granted = true → ∀ r, o.result = .error r → r.isAllocationFailure = false
  unchanged : ∀ r, o.result = .error r → o.chain = c

theorem spares_of_declined {r : Refusal} (declined : r.isAllocationFailure = false)
    (events : List Event) (m : Memory) :
    c.Spares (⟨.error r, c, events⟩ : Outcome β) m m where
  granted := Nat.le_succ _
  capacity := rfl
  noNode failed := by
    cases failed
    cases declined
  enough _ r' failed := by
    cases failed
    exact declined
  unchanged _ _ := rfl

theorem Spares.map {γ : Type} {o : Outcome β} (spares : c.Spares o m m') (g : β → γ) :
    c.Spares (o.map g) m m' where
  granted := spares.granted
  capacity := spares.capacity
  noNode failed := spares.noNode (Outcome.error_of_map failed)
  enough granted r failed := spares.enough granted r (Outcome.error_of_map failed)
  unchanged r failed := spares.unchanged r (Outcome.error_of_map failed)

theorem insertBefore_spares (intact : c.Intact l f) (fits : c.Fits) (room : ¬ c.arena.Full)
    (target : Option Handle) (value : String) (m : Memory) :
    ∃ o m', c.insertBefore target value m = .ok (o, m') ∧ c.Spares o m m' := by
  obtain ⟨o, m', eq, ends⟩ := insertBefore_ends intact target value m
  refine ⟨o, m', eq, ?_⟩
  have unneeded := Arena.reserve?_of_not_full fits room m
  cases ends with
  | unaccepted rejected => exact spares_of_declined (accept_declines rejected) _ m
  | noNode _ reserved => cases unneeded.symm.trans reserved
  | noValue _ reserved held =>
    cases unneeded.symm.trans reserved
    have refused : m.grants m.granted = false := Memory.hold?_eq_none held
    refine ⟨Nat.le_succ _, rfl, by simp [rejectInsert], fun granted => ?_, fun _ _ => rfl⟩
    cases granted.symm.trans refused
  | linked _ _ reserved held _ becomes =>
    cases unneeded.symm.trans reserved
    obtain ⟨-, counted⟩ := Memory.hold?_eq_some held
    refine ⟨?_, becomes.capacity, by simp, fun _ r failed => ?_, fun r failed => ?_⟩
    · rw [counted]
      split <;> omega
    · cases failed
    · cases failed

theorem perform_spares (intact : c.Intact l f) (fits : c.Fits) (room : ¬ c.arena.Full)
    (inserts : call.inserts = true) (m : Memory) :
    ∃ o m', c.perform call m = .ok (o, m') ∧ c.Spares o m m' := by
  cases intact.shape call with
  | @inserts _ target value _ form =>
    obtain ⟨o, m', eq, spares⟩ := insertBefore_spares intact fits room target value m
    have performed := form c.arena.capacity m
    exact ⟨_, m', performed.trans (congrArg perform.issued eq), spares.map _⟩
  | misreads unreadable =>
    exact ⟨_, m, perform_misread unreadable m, spares_of_declined rfl _ m⟩
  | removes _ discards _ _ => cases (Call.discards?_of_inserts inserts).symm.trans discards
  | appends => cases inserts
  | ignores => cases inserts
  | clears => cases inserts

structure Settled (c : Chain) : Prop where
  spares : ∀ call m, call.inserts = true →
    ∃ o m', c.perform call m = .ok (o, m') ∧ c.Spares o m m'
  stays : ∀ insertions, (∀ e ∈ insertions, e.1.inserts = true) →
    ∃ turns d, c.trace insertions = .ok (turns, d) ∧
      ((∀ turn ∈ turns, ∃ r, turn.result = .error r) → d = c)

theorem settled_of_room (intact : c.Intact l f) (fits : c.Fits) (room : ¬ c.arena.Full) :
    c.Settled := by
  have spares : ∀ call m, call.inserts = true →
      ∃ o m', c.perform call m = .ok (o, m') ∧ c.Spares o m m' :=
    fun call m inserts => perform_spares intact fits room inserts m
  refine ⟨spares, fun insertions insert => ?_⟩
  induction insertions with
  | nil => exact ⟨[], c, rfl, fun _ => rfl⟩
  | cons entry rest ih =>
    obtain ⟨call, m⟩ := entry
    obtain ⟨first, others⟩ := List.forall_mem_cons.mp insert
    obtain ⟨o, m', eq, spare⟩ := spares call m first
    cases result : o.result with
    | error r =>
      obtain ⟨turns, d, eq', stays⟩ := ih others
      rw [← spare.unchanged r result] at eq'
      refine ⟨_, d, trace_cons eq eq', fun failed => ?_⟩
      exact stays (List.forall_mem_cons.mp failed).2
    | ok reply =>
      obtain ⟨_, _, _, f₁, performed, effect⟩ := perform_effect intact call m
      cases eq.symm.trans performed
      obtain ⟨turns, d, _, _, eq', -⟩ := trace_course (effect.intact intact) rest
      refine ⟨_, d, trace_cons eq eq', fun failed => ?_⟩
      obtain ⟨r, failed⟩ := (List.forall_mem_cons.mp failed).1
      cases result.symm.trans failed

theorem insertBefore_makes_room (intact : c.Intact l f) (fits : c.Fits) {o : Outcome Handle}
    (eq : c.insertBefore target value m = .ok (o, m'))
    (failed : o.result = .error (.valueAllocation n)) : ¬ o.chain.arena.Full := by
  have fits' : o.chain.Fits := kept_fits.insert intact fits eq
  rw [← Arena.hasRoom_eq_false_iff fits', Bool.not_eq_false]
  obtain ⟨_, _, eq', ends⟩ := insertBefore_ends intact target value m
  cases eq.symm.trans eq'
  cases ends with
  | unaccepted rejected =>
    cases failed
    cases accept_declines rejected
  | noNode _ _ => cases failed
  | noValue _ reserved _ =>
    obtain ⟨grown, room⟩ := reserve?_withCapacity reserved
    exact grown ▸ room
  | linked _ _ _ _ _ _ => cases failed

theorem extend_makes_room (intact : c.Intact l f) (fits : c.Fits) {values : List String}
    {o : Outcome Unit} (eq : c.extend values m = .ok (o, m'))
    (failed : o.result = .error (.valueAllocation n)) : ¬ o.chain.arena.Full := by
  induction values generalizing c l f m o with
  | nil =>
    cases eq
    cases failed
  | cons value rest ih =>
    obtain ⟨first, m₁, l₁, f₁, inserted, effect⟩ :=
      insertBefore_effect intact (.pushBack value) rfl none m
    cases result : first.result with
    | error r =>
      cases eq.symm.trans (extend_of_error inserted result)
      cases failed
      exact insertBefore_makes_room intact fits inserted result
    | ok k =>
      have intact₁ := effect.intact intact
      obtain ⟨others, m₂, _, _, extended, -⟩ := extend_effect intact₁ rest m₁
      cases eq.symm.trans (extend_of_ok inserted result extended)
      have room : ¬ others.chain.arena.Full :=
        ih intact₁ (kept_fits.insert intact fits inserted) extended failed
      exact room

theorem perform_makes_room (intact : c.Intact l f) (fits : c.Fits) {o : Outcome Reply}
    (eq : c.perform call m = .ok (o, m'))
    (failed : o.result = .error (.valueAllocation n)) : ¬ o.chain.arena.Full := by
  cases intact.shape call with
  | inserts _ _ form =>
    obtain ⟨first, inserted, rfl⟩ := issued_eq_ok ((form c.arena.capacity m).symm.trans eq)
    exact insertBefore_makes_room intact fits inserted (Outcome.error_of_map failed)
  | @removes _ h _ _ _ form =>
    obtain ⟨first, removed, e⟩ := ok_of_map_eq_ok ((form c.arena.capacity m).symm.trans eq)
    cases e
    obtain ⟨_, removed', -, declines⟩ := remove_declines intact h
    cases removed.symm.trans removed'
    cases declines _ (Outcome.error_of_map failed)
  | appends =>
    obtain ⟨⟨first, m₁⟩, extended, eq⟩ := ok_of_bind_eq_ok eq
    cases eq
    exact extend_makes_room intact fits extended (Outcome.error_of_map failed)
  | ignores =>
    cases eq
    cases failed
  | misreads unreadable =>
    cases eq.symm.trans (perform_misread unreadable m)
    cases failed
  | clears =>
    cases eq
    cases failed

theorem perform_keeps_capacity (intact : c.Intact l f)
    (frees : call = .clear ∨ (∃ target, call = .delete target) ∨ ∃ h, call = .remove h)
    (m : Memory) :
    ∃ o, c.perform call m = .ok (o, m) ∧ o.chain.arena.capacity = c.arena.capacity := by
  have discarded : ∀ h, call.discards? = some h →
      ∃ o, c.perform call m = .ok (o, m) ∧ o.chain.arena.capacity = c.arena.capacity := by
    intro h discards
    obtain ⟨reply, -, form⟩ := intact.perform_discard discards
    obtain ⟨o, removed, capacity, -⟩ := remove_declines intact h
    refine ⟨o.map reply, ?_, capacity⟩
    rw [form, removed]
    rfl
  rcases frees with rfl | ⟨target, rfl⟩ | ⟨h, rfl⟩
  · exact ⟨_, rfl, rfl⟩
  · cases target with
    | none => exact ⟨_, rfl, rfl⟩
    | some h => exact discarded h rfl
  · exact discarded h rfl

structure Provides (c : Chain) : Prop where
  fits : c.arena.size ≤ c.arena.capacity
  bounded : c.arena.capacity ≤ max 4 (2 * c.arena.size)
  roomy : ∀ target value m place a m', c.accept target value = .ok place →
    c.arena.reserve? m = some (a, m') → a.Roomy
  frees : ∀ call m, (call = .clear ∨ (∃ target, call = .delete target) ∨ ∃ h, call = .remove h) →
    ∃ o, c.perform call m = .ok (o, m) ∧ o.chain.arena.capacity = c.arena.capacity
  settles : ∀ call m o m' n, c.perform call m = .ok (o, m') →
    o.result = .error (.valueAllocation n) → o.chain.Settled

theorem reservations_suffice (id : ChainId) (policy : Policy) (actions : List Action) :
    ∃ c, (Chain.empty id policy).run actions = .ok c ∧ c.Provides := by
  obtain ⟨c, l, f, ran, intact⟩ := run_intact (empty_intact id policy) actions
  obtain ⟨fits, bounded⟩ := run_tight id policy ran
  refine ⟨c, ran, fits, bounded, fun _ _ _ _ _ _ _ reserved => intact.roomy reserved,
    fun call m frees => perform_keeps_capacity intact frees m, ?_⟩
  intro call m o m' n eq failed
  obtain ⟨_, _, _, _, eq', effect⟩ := perform_effect intact call m
  cases eq.symm.trans eq'
  exact settled_of_room (effect.intact intact) (kept_fits.perform intact fits eq)
    (perform_makes_room intact fits eq failed)

end Chain
end StringChain
