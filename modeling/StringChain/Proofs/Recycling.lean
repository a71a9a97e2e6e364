import StringChain.Proofs.Storage

namespace StringChain

def Slot.survives {α : Type} (s : Slot α) : Bool :=
  match s.entry with
  | .occupied _ => s.generation != lastGeneration
  | .vacant _ => true
  | .retired => false

theorem Slot.isRetired_vacate_eq {α : Type} (s : Slot α) (free : Option Nat) :
    (s.vacate free).isRetired = !s.survives := by
  obtain ⟨g, e⟩ := s
  cases e with
  | occupied x => by_cases last : g = lastGeneration <;> simp [vacate, last, isRetired, survives]
  | vacant next => rfl
  | retired => rfl

theorem Arena.reusable_clear {α : Type} (a : Arena α) :
    a.clear.reusable = a.positions Slot.survives := by
  rw [reusable, positions, size_clear]
  apply List.filter_congr
  intro i _
  obtain ⟨free, slot⟩ := a.slot?_clear i
  rw [slot]
  cases a.slot? i <;> simp [Slot.isRetired_vacate_eq]

def Turn.issued? (turn : Turn) : Option Nat :=
  match turn.result with
  | .ok (.handle h) => some h.index
  | _ => none

def issued (turns : List Turn) : List Nat := turns.filterMap Turn.issued?

theorem issued_cons_error (c d : Chain) (call : Call) (r : Refusal) (turns : List Turn) :
    issued (⟨c, call, .error r, d⟩ :: turns) = issued turns := rfl

theorem issued_cons_handle (c d : Chain) (call : Call) (h : Handle) (turns : List Turn) :
    issued (⟨c, call, .ok (.handle h), d⟩ :: turns) = h.index :: issued turns := rfl

namespace Chain

def Frees (c : Chain) (f : List Nat) : Prop := Visits c.arena.vacantLink? c.arena.free f

variable {c d : Chain} {l f l' f' : List Nat} {call : Call} {h : Handle}

theorem Intact.upcoming_eq (intact : c.Intact l f) :
    c.arena.upcoming = f.head?.getD c.arena.size := by
  rw [Arena.upcoming, intact.stack.free_eq]

theorem Intact.supply_prefix (intact : c.Intact l f) {s : Slot String}
    (cells : d.cell? = Function.update c.cell? c.arena.upcoming (some s)) (n : Nat) :
    c.arena.upcoming :: (f.tail ++ List.range' d.arena.size n) <+:
      f ++ List.range' c.arena.size (n + 1) := by
  rw [size_of_update cells]
  rcases intact.upcoming_cases with ⟨rfl, -, top, -⟩ | ⟨_, rest, rfl, slot⟩
  · rw [← top, Nat.max_eq_right (Nat.le_succ _), List.range'_succ]
    exact List.prefix_refl _
  · have inside : c.arena.upcoming < c.arena.size := Arena.lt_size_of_slot? slot
    rw [Nat.max_eq_left inside, List.range'_1_concat, ← List.append_assoc]
    exact List.prefix_append _ _

namespace Effect

variable {result : Except Refusal Reply} {reply : Reply}

theorem of_inserts (effect : Effect c l f call result d l' f') (inserts : call.inserts = true) :
    (∃ r n, result = .error r ∧ d = c.withCapacity n ∧ f' = f) ∨
      ∃ s, result = .ok (.handle c.upcomingHandle) ∧ f' = f.tail ∧
        d.cell? = Function.update c.cell? c.arena.upcoming (some s) := by
  cases effect with
  | refuse n => exact .inl ⟨_, n, rfl, rfl, rfl⟩
  | fill _ _ becomes => exact .inr ⟨_, rfl, rfl, becomes.cells⟩
  | vacate discards _ _ _ _ _ => cases (Call.discards?_of_inserts inserts).symm.trans discards
  | pass => cases inserts
  | clear _ _ => cases inserts
  | extendDone => cases inserts
  | extendNext _ _ _ => cases inserts

theorem of_handle (effect : Effect c l f call (.ok (.handle h)) d l' f') :
    h = c.upcomingHandle ∧ f' = f.tail ∧ l'.length = l.length + 1 := by
  cases effect with
  | fill _ _ _ =>
    refine ⟨rfl, rfl, ?_⟩
    simp only [List.length_append, List.length_cons]
    omega
  | vacate _ silent _ _ _ _ => exact absurd rfl (silent h)
  | extendNext _ silent _ => exact absurd rfl (silent h)

theorem of_discards (effect : Effect c l f call (.ok reply) d l' f')
    (discards : call.discards? = some h) :
    f' = if h.generation = Slot.lastGeneration then f else h.index :: f := by
  cases effect with
  | vacate discards' _ _ _ _ _ =>
    cases discards.symm.trans discards'
    rfl
  | fill inserts _ _ => cases (Call.discards?_of_value? inserts).symm.trans discards
  | pass => cases discards
  | clear _ _ => cases discards
  | extendDone => cases discards
  | extendNext _ _ _ => cases discards

theorem of_error {r : Refusal} (effect : Effect c l f call (.error r) d l' f')
    (single : ∀ values, call ≠ .extend values) : f' = f := by
  cases effect with
  | refuse n => rfl
  | extendNext _ _ _ => exact absurd rfl (single _)

theorem of_extend {values : List String} (effect : Effect c l f (.extend values) result d l' f') :
    f' = f.drop (l'.length - l.length) := by
  induction values generalizing c l f with
  | nil =>
    cases effect with
    | refuse n => simp
    | extendDone => simp
    | fill inserts _ _ => cases inserts
    | vacate discards _ _ _ _ _ => cases discards
  | cons value rest ih =>
    cases effect with
    | refuse n => simp
    | fill inserts _ _ => cases inserts
    | vacate discards _ _ _ _ _ => cases discards
    | extendNext first _ others =>
      obtain ⟨-, rfl, one⟩ := first.of_handle
      have longer := others.length_le rfl (by simp)
      rw [ih others, List.drop_tail, one]
      congr 1
      omega

end Effect

structure Restacks (c : Chain) (f : List Nat) (call : Call) (o : Outcome Reply) : Prop where
  issued : ∀ h, o.result = .ok (.handle h) →
    h.index = f.head?.getD c.arena.size ∧ o.chain.Frees f.tail
  discarded : ∀ h reply, call.discards? = some h → o.result = .ok reply →
    o.chain.Frees (if h.generation = Slot.lastGeneration then f else h.index :: f)
  cleared : call = .clear → o.chain.Frees (c.arena.positions Slot.survives)
  extended : ∀ values, call = .extend values →
    o.chain.Frees (f.drop (o.chain.size - c.size))
  refused : ∀ r, o.result = .error r → (∀ values, call ≠ .extend values) → o.chain.Frees f

theorem Intact.frees_clear (intact : c.Intact l f) :
    c.clear.Frees (c.arena.positions Slot.survives) := by
  rw [← Arena.reusable_clear]
  exact (clear_intact intact).1.stack.visits

theorem Intact.restacks (intact : c.Intact l f) (call : Call) (m : Memory) :
    ∃ o m', c.perform call m = .ok (o, m') ∧ c.Restacks f call o := by
  obtain ⟨⟨result, d, events⟩, m', l', f', eq, effect⟩ := perform_effect intact call m
  have intact' := effect.intact intact
  have frees : d.Frees f' := intact'.stack.visits
  refine ⟨_, m', eq, ?_, ?_, ?_, ?_, ?_⟩
  · rintro h ⟨⟩
    obtain ⟨rfl, rfl, -⟩ := effect.of_handle
    exact ⟨intact.upcoming_eq, frees⟩
  · rintro h reply discards ⟨⟩
    exact effect.of_discards discards ▸ frees
  · rintro rfl
    cases eq
    exact intact.frees_clear
  · rintro values rfl
    rw [intact.size, intact'.size, ← effect.of_extend]
    exact frees
  · rintro r ⟨⟩ single
    exact effect.of_error single ▸ frees

theorem has_iff_cell : c.has h = true ↔
    h.chain = c.id ∧ ∃ v, c.cell? h.index = some ⟨h.generation, .occupied v⟩ := by
  simp [has_iff, resolve_eq_ok_iff]

theorem eq_of_has {k : Handle} (known : c.has h = true) (known' : c.has k = true)
    (same : h.index = k.index) : h = k := by
  obtain ⟨own, v, cell⟩ := has_iff_cell.mp known
  obtain ⟨own', w, cell'⟩ := has_iff_cell.mp known'
  rw [same, cell'] at cell
  obtain ⟨_, i, g⟩ := h
  obtain ⟨_, j, g'⟩ := k
  obtain rfl : g' = g := congrArg Slot.generation (Option.some.inj cell)
  obtain rfl : i = j := same
  rw [Handle.mk.injEq]
  exact ⟨own.trans own'.symm, rfl, rfl⟩

theorem Intact.discard (intact : c.Intact l f) (discards : call.discards? = some h)
    (live : c.has h = true) (m : Memory) :
    ∃ o reply l', c.perform call m = .ok (o, m) ∧ o.result = .ok reply ∧
      o.chain.Intact l' (if h.generation = Slot.lastGeneration then f else h.index :: f) ∧
      ∀ k, k ≠ h → c.has k = true → o.chain.has k = true := by
  obtain ⟨reply, -, form⟩ := intact.perform_discard discards
  obtain ⟨i, resolved⟩ := has_iff.mp live
  rcases remove_cases intact h with
    ⟨r, unresolved, -⟩ | ⟨before, after, d, v, -, own, cell, eq, intact', becomes⟩
  · cases resolved.symm.trans unresolved
  refine ⟨_, reply v, _, (form m).trans (by rw [eq]; rfl), rfl, intact', fun k other known => ?_⟩
  obtain ⟨own', w, cell'⟩ := has_iff_cell.mp known
  have apart : k.index ≠ h.index := fun same => other (eq_of_has known live same)
  refine has_iff_cell.mpr ⟨own'.trans becomes.id.symm, w, ?_⟩
  exact (congrFun becomes.cells k.index).trans ((Function.update_of_ne apart _ _).trans cell')

-- The handles still to come stay live, as each names a slot of its own.
theorem Intact.deletes (intact : c.Intact l f) {hs : List Handle} (distinct : hs.Nodup)
    (live : ∀ h ∈ hs, c.has h = true ∧ h.generation ≠ Slot.lastGeneration)
    {deletions : List (Call × Memory)} (discard : deletions.map (·.1.discards?) = hs.map some) :
    ∃ turns d l', c.trace deletions = .ok (turns, d) ∧
      (∀ turn ∈ turns, ∃ reply, turn.result = .ok reply) ∧
      d.Intact l' ((hs.map Handle.index).reverse ++ f) := by
  induction hs generalizing c l f deletions with
  | nil =>
    obtain rfl := List.map_eq_nil_iff.mp discard
    exact ⟨[], c, l, rfl, by simp, intact⟩
  | cons h hs ih =>
    obtain ⟨⟨call, m⟩, rest, rfl, first, others⟩ := List.map_eq_cons_iff.mp discard
    obtain ⟨fresh, distinct'⟩ := List.nodup_cons.mp distinct
    obtain ⟨known, unspent⟩ := live h List.mem_cons_self
    obtain ⟨o, reply, l₁, eq, done, intact₁, stays⟩ := intact.discard first known m
    rw [if_neg unspent] at intact₁
    have live' : ∀ k ∈ hs, o.chain.has k = true ∧ k.generation ≠ Slot.lastGeneration := by
      intro k inside
      obtain ⟨known', unspent'⟩ := live k (List.mem_cons_of_mem h inside)
      exact ⟨stays k (fun e => fresh (e ▸ inside)) known', unspent'⟩
    obtain ⟨turns, d, l₂, eq', done', intact₂⟩ := ih intact₁ distinct' live' others
    refine ⟨_, d, l₂, trace_cons eq eq', ?_, ?_⟩
    · exact List.forall_mem_cons.mpr ⟨⟨reply, done⟩, done'⟩
    · simpa using intact₂

-- How many new slots are offered is left open, for the calls after a success need one fewer.
theorem Intact.inserts (intact : c.Intact l f) {insertions : List (Call × Memory)}
    (insert : ∀ e ∈ insertions, e.1.inserts = true) :
    ∃ turns d, c.trace insertions = .ok (turns, d) ∧
      ∀ n, (issued turns).length ≤ n → issued turns <+: f ++ List.range' c.arena.size n := by
  induction insertions generalizing c l f with
  | nil => exact ⟨[], c, rfl, fun n _ => List.nil_prefix⟩
  | cons entry rest ih =>
    obtain ⟨call, m⟩ := entry
    obtain ⟨first, others⟩ := List.forall_mem_cons.mp insert
    obtain ⟨⟨result, d, events⟩, m', l₁, f₁, eq, effect⟩ := perform_effect intact call m
    obtain ⟨turns, e, eq', drawn⟩ := ih (effect.intact intact) others
    refine ⟨_, e, trace_cons eq eq', ?_⟩
    rcases effect.of_inserts first with ⟨r, k, rfl, rfl, rfl⟩ | ⟨s, rfl, rfl, cells⟩
    · rw [issued_cons_error]
      exact drawn
    · rw [issued_cons_handle]
      intro n enough
      cases n with
      | zero => cases enough
      | succ n =>
        have short := Nat.le_of_succ_le_succ enough
        exact ((List.prefix_cons_inj _).mpr (drawn n short)).trans (intact.supply_prefix cells n)

def Draws (c : Chain) (f : List Nat) (insertions : List (Call × Memory)) : Prop :=
  ∃ turns d, c.trace insertions = .ok (turns, d) ∧
    issued turns <+: f ++ List.range' c.arena.size (issued turns).length

theorem Intact.draws (intact : c.Intact l f) {insertions : List (Call × Memory)}
    (insert : ∀ e ∈ insertions, e.1.inserts = true) : c.Draws f insertions := by
  obtain ⟨turns, d, eq, drawn⟩ := intact.inserts insert
  exact ⟨turns, d, eq, drawn _ (Nat.le_refl _)⟩

def Reverses (c : Chain) (f : List Nat) (hs : List Handle)
    (deletions insertions : List (Call × Memory)) : Prop :=
  ∃ turns d turns' e, c.trace deletions = .ok (turns, d) ∧
    (∀ turn ∈ turns, ∃ reply, turn.result = .ok reply) ∧
    d.Frees ((hs.map Handle.index).reverse ++ f) ∧ d.trace insertions = .ok (turns', e) ∧
    ((issued turns').length = hs.length → issued turns' = (hs.map Handle.index).reverse)

structure Recycles (c : Chain) (f : List Nat) : Prop where
  frees : c.Frees f
  restacks : ∀ call m, ∃ o m', c.perform call m = .ok (o, m') ∧ c.Restacks f call o
  draws : ∀ insertions, (∀ e ∈ insertions, e.1.inserts = true) → c.Draws f insertions
  reverses : ∀ (hs : List Handle) (deletions insertions : List (Call × Memory)), hs.Nodup →
    (∀ h ∈ hs, c.has h = true ∧ h.generation ≠ Slot.lastGeneration) →
    deletions.map (·.1.discards?) = hs.map some → (∀ e ∈ insertions, e.1.inserts = true) →
    c.Reverses f hs deletions insertions
  refills : ∀ insertions, (∀ e ∈ insertions, e.1.inserts = true) →
    c.clear.Draws (c.arena.positions Slot.survives) insertions

theorem Intact.recycles (intact : c.Intact l f) : c.Recycles f where
  frees := intact.stack.visits
  restacks := intact.restacks
  draws _ := intact.draws
  reverses hs deletions insertions distinct live discard insert := by
    obtain ⟨turns, d, l', eq, done, intact'⟩ := intact.deletes distinct live discard
    obtain ⟨turns', e, eq', drawn⟩ := intact'.draws insert
    refine ⟨turns, d, turns', e, eq, done, intact'.stack.visits, eq', fun all => ?_⟩
    have same : (issued turns').length = (hs.map Handle.index).reverse.length := by simp [all]
    rw [List.append_assoc] at drawn
    exact (List.prefix_of_prefix_length_le drawn (List.prefix_append _ _) same.le).eq_of_length same
  refills _ insert := by
    rw [← Arena.reusable_clear]
    exact (clear_intact intact).1.draws insert

theorem free_slots_form_a_stack (id : ChainId) (policy : Policy) (actions : List Action) :
    ∃ c f, (Chain.empty id policy).run actions = .ok c ∧ c.Recycles f := by
  obtain ⟨c, l, f, eq, intact⟩ := run_intact (empty_intact id policy) actions
  exact ⟨c, f, eq, intact.recycles⟩

end Chain
end StringChain
