import StringChain.Proofs.Grounds

namespace StringChain

namespace Chain

variable {c d e : Chain} {l f l' f' : List Nat} {i j : Nat}

def retiredAt (c : Chain) (i : Nat) : Bool := (c.arena.slot? i).any Slot.isRetired

theorem retiredAt_eq (c : Chain) (i : Nat) : c.retiredAt i = (c.cell? i).any Slot.isRetired := by
  unfold retiredAt cell?
  cases c.arena.slot? i with
  | none => rfl
  | some s => exact (Slot.isRetired_plain s).symm

theorem retiredAt_of_cells {s : Slot String}
    (cells : d.cell? = Function.update c.cell? j (some s)) (i : Nat) :
    d.retiredAt i = if i = j then s.isRetired else c.retiredAt i := by
  rw [retiredAt_eq, retiredAt_eq, cells]
  by_cases same : i = j
  · subst same
    simp
  · simp [same]

theorem Intact.cell_of_retiredAt (intact : c.Intact l f) (retired : c.retiredAt i = true) :
    c.cell? i = some ⟨Slot.lastGeneration, .retired⟩ := by
  obtain ⟨s, hs, spent⟩ : ∃ s, c.arena.slot? i = some s ∧ s.isRetired = true := by
    simpa [retiredAt, Option.any_eq_true] using retired
  rw [intact.slot_spent hs spent] at hs
  exact cell?_eq_retired.mpr hs

theorem Intact.retiredAt_upcoming (intact : c.Intact l f) :
    c.retiredAt c.arena.upcoming = false := by
  rw [retiredAt_eq]
  rcases intact.upcoming_cell with ⟨absent, -⟩ | vacant
  · rw [absent]
    rfl
  · rw [vacant]
    rfl

end Chain

def Turn.due (turn : Turn) : List Event :=
  match turn.result with
  | .error refusal =>
    if turn.call.value?.isSome then [.insertRejected refusal]
    else if turn.call.discards?.isSome then [.deleteRejected refusal] else []
  | .ok (.handle h) => [.inserted h.index turn.after.size]
  | .ok _ =>
    match turn.call.discards? with
    | some h => (if turn.after.retiredAt h.index then [.retired h.index] else []) ++
        [.deleted h.index turn.after.size]
    | none => []

def Turn.Retires (turn : Turn) (i : Nat) : Prop :=
  turn.call.discards?.isSome ∧ turn.before.retiredAt i = false ∧ turn.after.retiredAt i = true

namespace Turn

variable {before after : Chain} {call : Call} {r : Refusal}

theorem due_of_value? {v : String} (inserts : call.value? = some v) :
    due ⟨before, call, .error r, after⟩ = [.insertRejected r] := by
  simp [due, inserts]

theorem due_of_discards? {h : Handle} (discards : call.discards? = some h) :
    due ⟨before, call, .error r, after⟩ = [.deleteRejected r] := by
  simp [due, discards, Call.value?_of_discards? discards]

theorem due_of_removed {h : Handle} {reply : Reply} (discards : call.discards? = some h)
    (silent : ∀ k, reply ≠ .handle k) :
    due ⟨before, call, .ok reply, after⟩ =
      (if after.retiredAt h.index then [.retired h.index] else []) ++
        [.deleted h.index after.size] := by
  cases reply with
  | handle k => exact absurd rfl (silent k)
  | value v => simp [due, discards]
  | done => simp [due, discards]

theorem due_of_kept {reply : Reply} (discards : call.discards? = none)
    (silent : ∀ k, reply ≠ .handle k) : due ⟨before, call, .ok reply, after⟩ = [] := by
  cases reply with
  | handle k => exact absurd rfl (silent k)
  | value v => simp [due, discards]
  | done => simp [due, discards]

theorem due_of_misread (inserts : call.value? = none) (discards : call.discards? = none) :
    due ⟨before, call, .error r, after⟩ = [] := by
  simp [due, inserts, discards]

theorem rejected_of_due {event : Event} (told : event ∈ due ⟨before, call, .error r, after⟩) :
    event = .insertRejected r ∨ event = .deleteRejected r := by
  cases inserts : call.value? with
  | some v =>
    rw [due_of_value? inserts] at told
    exact .inl (List.mem_singleton.mp told)
  | none =>
    cases discards : call.discards? with
    | some h =>
      rw [due_of_discards? discards] at told
      exact .inr (List.mem_singleton.mp told)
    | none =>
      rw [due_of_misread inserts discards] at told
      cases told

end Turn

namespace Chain

variable {c d e : Chain} {l f l' f' : List Nat} {call : Call} {result : Except Refusal Reply}
  {m m' : Memory}

theorem insertBefore_due (intact : c.Intact l f) {target : Option Handle} {v : String}
    {o : Outcome Handle} (inserts : call.value? = some v)
    (eq : c.insertBefore target v m = .ok (o, m')) :
    o.events = Turn.due ⟨c, call, o.result.map .handle, o.chain⟩ := by
  rcases insertBefore_cases intact target v m with
    ⟨r, n, _, eq', -⟩ | ⟨_, _, _, d, _, -, -, eq', -⟩
  · cases eq.symm.trans eq'
    exact (Turn.due_of_value? inserts).symm
  · cases eq.symm.trans eq'
    rfl

theorem retiredAt_of_vacated {h : Handle} {v : String}
    (becomes : c.Becomes d (Function.update c.cell? h.index
      (some ((⟨h.generation, .occupied v⟩ : Slot String).vacate none)))) :
    d.retiredAt h.index = decide (h.generation = Slot.lastGeneration) := by
  rw [retiredAt_of_cells becomes.cells, if_pos rfl]
  by_cases last : h.generation = Slot.lastGeneration <;> simp [Slot.vacate, last, Slot.isRetired]

theorem remove_due (intact : c.Intact l f) {h : Handle} {o : Outcome String}
    {reply : String → Reply} (discards : call.discards? = some h)
    (silent : ∀ v k, reply v ≠ .handle k) (eq : c.remove h = .ok o) :
    o.events = Turn.due ⟨c, call, o.result.map reply, o.chain⟩ := by
  rcases remove_cases intact h with ⟨r, -, eq'⟩ | ⟨_, _, d, v, -, -, -, eq', -, becomes⟩
  · cases eq.symm.trans eq'
    exact (Turn.due_of_discards? discards).symm
  · cases eq.symm.trans eq'
    have due : Turn.due ⟨c, call, .ok (reply v), d⟩ = _ :=
      Turn.due_of_removed discards (silent v)
    rw [retiredAt_of_vacated becomes] at due
    refine Eq.trans ?_ due.symm
    by_cases last : h.generation = Slot.lastGeneration <;> simp [last]

theorem perform_due (intact : c.Intact l f) (single : call.single = true) {o : Outcome Reply}
    (eq : c.perform call m = .ok (o, m')) :
    o.events = Turn.due ⟨c, call, o.result, o.chain⟩ := by
  cases intact.shape call with
  | inserts target inserts form =>
    obtain ⟨first, inserted, rfl⟩ := issued_eq_ok ((form c.arena.capacity m).symm.trans eq)
    exact insertBefore_due intact inserts inserted
  | removes reply discards silent form =>
    obtain ⟨first, removed, e⟩ := ok_of_map_eq_ok ((form c.arena.capacity m).symm.trans eq)
    cases e
    exact remove_due intact discards silent removed
  | appends => cases single
  | ignores =>
    cases eq
    rfl
  | @misreads target bytes unreadable =>
    cases eq.symm.trans (perform_misread unreadable m)
    have silent : Call.value? (.insertBytes target bytes) = none := unreadable
    exact (Turn.due_of_misread silent rfl).symm
  | clears =>
    cases eq
    rfl

def stops {α : Type} : Except Refusal α → List Event
  | .error r => [.insertRejected r]
  | .ok _ => []

inductive Pushes : Chain → List Nat → List Nat → List Event → Except Refusal Unit → Chain →
    List Nat → List Nat → Prop where
  | done {c : Chain} {l f : List Nat} : Pushes c l f [] (.ok ()) c l f
  | stopped {c : Chain} {l f : List Nat} (n : Nat) (r : Refusal) :
      Pushes c l f [.insertRejected r] (.error r) (c.withCapacity n) l f
  | next {c d e : Chain} {l l₁ l₂ f f₁ f₂ : List Nat} {v : String} {h : Handle}
      {events : List Event} {result : Except Refusal Unit} :
      Effect c l f (.pushBack v) (.ok (.handle h)) d l₁ f₁ →
      Pushes d l₁ f₁ events result e l₂ f₂ →
      Pushes c l f (.inserted h.index d.size :: events) result e l₂ f₂

theorem extend_pushes (intact : c.Intact l f) (values : List String) (m : Memory) :
    ∃ o m' l' f', c.extend values m = .ok (o, m') ∧
      Pushes c l f o.events o.result o.chain l' f' := by
  induction values generalizing c l f m with
  | nil => exact ⟨_, m, l, f, rfl, .done⟩
  | cons value rest ih =>
    obtain ⟨⟨result, d, events⟩, m₁, l₁, f₁, eq, effect⟩ :=
      insertBefore_effect intact (.pushBack value) rfl none m
    obtain rfl : events = Turn.due ⟨c, .pushBack value, result.map .handle, d⟩ :=
      insertBefore_due intact rfl eq
    cases result with
    | error r =>
      refine ⟨_, m₁, l₁, f₁, extend_of_error eq rfl, ?_⟩
      cases effect with
      | refuse n => exact .stopped n r
    | ok h =>
      obtain ⟨others, m₂, l₂, f₂, eq', pushes⟩ := ih (effect.intact intact) m₁
      exact ⟨_, m₂, l₂, f₂, extend_of_ok eq rfl eq', .next effect pushes⟩

theorem Pushes.intact {events : List Event} {result : Except Refusal Unit}
    (pushes : Pushes c l f events result d l' f') (intact : c.Intact l f) : d.Intact l' f' := by
  induction pushes with
  | done => exact intact
  | stopped n r => exact withCapacity_intact intact n
  | next effect _ ih => exact ih (effect.intact intact)

inductive Tale (c : Chain) (l f : List Nat) : Call → Except Refusal Reply → Chain → List Nat →
    List Nat → List Event → Prop where
  | single {call : Call} {result : Except Refusal Reply} {d : Chain} {l' f' : List Nat} :
      call.single = true → Effect c l f call result d l' f' →
      Tale c l f call result d l' f' (Turn.due ⟨c, call, result, d⟩)
  | extend {values : List String} {events : List Event} {result : Except Refusal Unit} {d : Chain}
      {l' f' : List Nat} : Pushes c l f events result d l' f' →
      Tale c l f (.extend values) (result.map fun _ => .done) d l' f' events

theorem perform_tale (intact : c.Intact l f) (call : Call) (m : Memory) :
    ∃ o m' l' f', c.perform call m = .ok (o, m') ∧
      Tale c l f call o.result o.chain l' f' o.events := by
  by_cases single : call.single = true
  · obtain ⟨o, m', l', f', eq, effect⟩ := perform_effect intact call m
    refine ⟨o, m', l', f', eq, ?_⟩
    rw [perform_due intact single eq]
    exact .single single effect
  · cases call with
    | extend values =>
      obtain ⟨o, m', l', f', eq, pushes⟩ := extend_pushes intact values m
      exact ⟨o.map fun _ => .done, m', l', f', by simp [perform, eq, bind, Except.bind],
        .extend pushes⟩
    | _ => exact absurd rfl single

theorem Tale.intact {events : List Event} (tale : Tale c l f call result d l' f' events)
    (intact : c.Intact l f) : d.Intact l' f' := by
  cases tale with
  | single _ effect => exact effect.intact intact
  | extend pushes => exact pushes.intact intact

structure Seals (c : Chain) (events : List Event) (d : Chain) : Prop where
  kept : ∀ i, c.retiredAt i = true → d.retiredAt i = true
  fresh : ∀ i n, .inserted i n ∈ events → c.retiredAt i = false
  sealed : ∀ earlier i later, events = earlier ++ .retired i :: later →
    (∃ n others, later = .deleted i n :: others) ∧ (∀ n, .inserted i n ∉ later) ∧
      d.retiredAt i = true

theorem Seals.of_plain {events : List Event}
    (kept : ∀ i, c.retiredAt i = true → d.retiredAt i = true)
    (quiet : ∀ i, .retired i ∉ events ∧ ∀ n, .inserted i n ∉ events) : Seals c events d where
  kept := kept
  fresh i n told := absurd told ((quiet i).2 n)
  sealed earlier i later e := absurd (e ▸ by simp) (quiet i).1

theorem Seals.trans {first others : List Event} (seals : Seals c first d)
    (seals' : Seals d others e) : Seals c (first ++ others) e where
  kept i retired := seals'.kept i (seals.kept i retired)
  fresh i n told := by
    rcases List.mem_append.mp told with told | told
    · exact seals.fresh i n told
    · refine Bool.eq_false_iff.mpr fun retired => ?_
      exact Bool.eq_false_iff.mp (seals'.fresh i n told) (seals.kept i retired)
  sealed earlier i later split := by
    rcases List.append_eq_append_iff.mp split with ⟨mid, -, split'⟩ | ⟨mid, split', rest⟩
    · exact seals'.sealed mid i later split'
    · cases mid with
      | nil => exact seals'.sealed [] i later rest.symm
      | cons event mid =>
        obtain ⟨rfl, rfl⟩ := List.cons.inj rest
        obtain ⟨⟨n, told, rfl⟩, never, retired⟩ := seals.sealed earlier i mid split'
        refine ⟨⟨n, told ++ others, rfl⟩, fun k inserted => ?_, seals'.kept i retired⟩
        rcases List.mem_append.mp inserted with inserted | inserted
        · exact never k inserted
        · exact Bool.eq_false_iff.mp (seals'.fresh i k inserted) retired

theorem Effect.kept_retired (effect : Effect c l f call result d l' f') (intact : c.Intact l f)
    (i : Nat) (retired : c.retiredAt i = true) : d.retiredAt i = true := by
  obtain ⟨cell, -⟩ := effect.keeps_retired intact (intact.cell_of_retiredAt retired)
  rw [retiredAt_eq, cell]
  rfl

theorem Effect.seals_of_handle {h : Handle}
    (effect : Effect c l f call (.ok (.handle h)) d l' f') (single : call.single = true)
    (intact : c.Intact l f) (n : Nat) : Seals c [.inserted h.index n] d where
  kept := effect.kept_retired intact
  fresh i k told := by
    cases effect with
    | fill _ _ _ =>
      cases List.mem_singleton.mp told
      exact intact.retiredAt_upcoming
    | vacate _ silent _ _ _ _ => exact absurd rfl (silent h)
    | extendNext _ _ _ => cases single
  sealed earlier i later split := by
    have told : Event.retired i ∈ [Event.inserted h.index n] := split ▸ by simp
    cases List.mem_singleton.mp told

theorem seals_of_removed (kept : ∀ i, c.retiredAt i = true → d.retiredAt i = true) (j n : Nat) :
    Seals c ((if d.retiredAt j then [.retired j] else []) ++ [.deleted j n]) d := by
  by_cases retired : d.retiredAt j = true
  · rw [if_pos retired]
    refine ⟨kept, by simp, fun earlier i later split => ?_⟩
    rcases earlier with _ | ⟨first, _ | ⟨second, earlier⟩⟩
    · cases split
      exact ⟨⟨n, [], rfl⟩, by simp, retired⟩
    · cases split
    · simp at split
  · rw [if_neg retired]
    exact .of_plain kept (by simp)

theorem Effect.seals (effect : Effect c l f call result d l' f') (single : call.single = true)
    (intact : c.Intact l f) : Seals c (Turn.due ⟨c, call, result, d⟩) d := by
  have kept := effect.kept_retired intact
  cases result with
  | error r =>
    refine .of_plain kept fun i => ⟨fun told => ?_, fun n told => ?_⟩
    all_goals
      rcases Turn.rejected_of_due told with e | e
      all_goals cases e
  | ok reply =>
    by_cases issues : ∃ h, reply = .handle h
    · obtain ⟨h, rfl⟩ := issues
      exact effect.seals_of_handle single intact d.size
    · have silent : ∀ h, reply ≠ .handle h := fun h e => issues ⟨h, e⟩
      cases discards : call.discards? with
      | some h =>
        rw [Turn.due_of_removed discards silent]
        exact seals_of_removed kept h.index d.size
      | none =>
        rw [Turn.due_of_kept discards silent]
        exact .of_plain kept (by simp)

theorem Pushes.seals {events : List Event} {result : Except Refusal Unit}
    (pushes : Pushes c l f events result d l' f') (intact : c.Intact l f) : Seals c events d := by
  induction pushes with
  | done => exact .of_plain (fun _ retired => retired) (by simp)
  | stopped n r => exact .of_plain (fun _ retired => retired) (by simp)
  | @next c d e l l₁ l₂ f f₁ f₂ v h events result effect _ ih =>
    exact (effect.seals_of_handle rfl intact d.size).trans (ih (effect.intact intact))

theorem Tale.seals {events : List Event} (tale : Tale c l f call result d l' f' events)
    (intact : c.Intact l f) : Seals c events d := by
  cases tale with
  | single single effect => exact effect.seals single intact
  | extend pushes => exact pushes.seals intact

theorem Effect.retired_iff (effect : Effect c l f call result d l' f') (i : Nat) :
    .retired i ∈ Turn.due ⟨c, call, result, d⟩ ↔ Turn.Retires ⟨c, call, result, d⟩ i := by
  cases effect with
  | @refuse _ _ _ _ r n =>
    refine iff_of_false (fun told => ?_) fun ⟨_, before, after⟩ =>
      Bool.eq_false_iff.mp before after
    rcases Turn.rejected_of_due told with e | e
    all_goals cases e
  | pass => simp [Turn.due, Turn.Retires, Call.discards?]
  | fill inserts _ _ => simp [Turn.due, Turn.Retires, Call.discards?_of_value? inserts]
  | @vacate _ _ _ _ _ _ reply h v discards silent own cell _ becomes =>
    have before : c.retiredAt h.index = false := by
      rw [retiredAt_eq, cell]
      rfl
    rw [Turn.due_of_removed discards silent]
    constructor
    · intro told
      have retired : d.retiredAt h.index = true ∧ i = h.index := by
        by_cases retired : d.retiredAt h.index = true
        · exact ⟨retired, by simpa [retired] using told⟩
        · simp [retired] at told
      obtain ⟨retired, rfl⟩ := retired
      exact ⟨by simp [discards], before, retired⟩
    · rintro ⟨-, unused, retired⟩
      have same : i = h.index := by
        by_contra other
        have kept : d.retiredAt i = c.retiredAt i := by
          rw [retiredAt_of_cells becomes.cells, if_neg other]
        exact Bool.eq_false_iff.mp unused (kept ▸ retired)
      subst same
      have told : d.retiredAt h.index = true := retired
      simp [told]
  | clear _ _ => simp [Turn.due, Turn.Retires, Call.discards?]
  | extendDone => simp [Turn.due, Turn.Retires, Call.discards?]
  | extendNext _ silent _ =>
    have due (values : List String) : Turn.due ⟨c, .extend values, result, d⟩ = [] := by
      cases result with
      | error r => exact Turn.due_of_misread rfl rfl
      | ok reply => exact Turn.due_of_kept rfl fun k e => silent k (congrArg _ e)
    rw [due]
    simp [Turn.Retires, Call.discards?]

theorem Pushes.events_eq {events : List Event} {result : Except Refusal Unit}
    (pushes : Pushes c l f events result d l' f') :
    ∃ inserted, (∀ event ∈ inserted, ∃ i n, event = .inserted i n) ∧
      events = inserted ++ stops result := by
  induction pushes with
  | done => exact ⟨[], by simp, rfl⟩
  | stopped n r => exact ⟨[], by simp, rfl⟩
  | next _ _ ih =>
    obtain ⟨inserted, only, rfl⟩ := ih
    exact ⟨_ :: inserted, List.forall_mem_cons.mpr ⟨⟨_, _, rfl⟩, only⟩, rfl⟩

end Chain
end StringChain
