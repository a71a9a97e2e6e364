import StringChain.Proofs.Lifetime

namespace StringChain

namespace Call

def discards? : Call → Option Handle
  | insertBefore _ _ => none
  | insertBytes _ _ => none
  | pushBack _ => none
  | pushFront _ => none
  | extend _ => none
  | delete target => target
  | remove h => some h
  | clear => none

def inserts : Call → Bool
  | insertBefore _ _ => true
  | insertBytes _ _ => true
  | pushBack _ => true
  | pushFront _ => true
  | extend _ => false
  | delete _ => false
  | remove _ => false
  | clear => false

variable {call : Call}

theorem discards?_of_value? {v : String} (inserts : call.value? = some v) :
    call.discards? = none := by
  cases call with
  | remove h => cases inserts
  | delete target => cases inserts
  | _ => rfl

theorem discards?_of_inserts (inserts : call.inserts = true) : call.discards? = none := by
  cases call with
  | remove h => cases inserts
  | delete target => cases inserts
  | _ => rfl

theorem value?_of_discards? {h : Handle} (discards : call.discards? = some h) :
    call.value? = none := by
  cases inserts : call.value? with
  | none => rfl
  | some v => cases (discards?_of_value? inserts).symm.trans discards

end Call

namespace Chain

inductive Effect : Chain → List Nat → List Nat → Call → Except Refusal Reply →
    Chain → List Nat → List Nat → Prop where
  | refuse {c : Chain} {l f : List Nat} {call : Call} {r : Refusal} (n : Nat) :
      Effect c l f call (.error r) (c.withCapacity n) l f
  | pass {c : Chain} {l f : List Nat} : Effect c l f (.delete none) (.ok .done) c l f
  | fill {c d : Chain} {before after f : List Nat} {call : Call} {v : String} {n : Nat} :
      call.value? = some v → d.Intact (before ++ c.arena.upcoming :: after) f.tail →
      (c.withCapacity n).Becomes d (Function.update c.cell? c.arena.upcoming
        (some ⟨c.upcomingGeneration, .occupied v⟩)) →
      Effect c (before ++ after) f call (.ok (.handle c.upcomingHandle)) d
        (before ++ c.arena.upcoming :: after) f.tail
  | vacate {c d : Chain} {before after f : List Nat} {call : Call} {reply : Reply} {h : Handle}
      {v : String} :
      call.discards? = some h → (∀ k, reply ≠ .handle k) → h.chain = c.id →
      c.cell? h.index = some ⟨h.generation, .occupied v⟩ →
      d.Intact (before ++ after) (if h.generation = Slot.lastGeneration then f else h.index :: f) →
      c.Becomes d (Function.update c.cell? h.index
        (some ((⟨h.generation, .occupied v⟩ : Slot String).vacate none))) →
      Effect c (before ++ h.index :: after) f call (.ok reply) d (before ++ after)
        (if h.generation = Slot.lastGeneration then f else h.index :: f)
  | clear {c d : Chain} {l f f' : List Nat} :
      d.Intact [] f' → c.Becomes d (fun i => (c.cell? i).map (·.vacate none)) →
      Effect c l f .clear (.ok .done) d [] f'
  | extendDone {c : Chain} {l f : List Nat} : Effect c l f (.extend []) (.ok .done) c l f
  | extendNext {c d e : Chain} {l l₁ l₂ f f₁ f₂ : List Nat} {v : String} {rest : List String}
      {h : Handle} {result : Except Refusal Reply} :
      Effect c l f (.pushBack v) (.ok (.handle h)) d l₁ f₁ →
      (∀ k, result ≠ .ok (.handle k)) → Effect d l₁ f₁ (.extend rest) result e l₂ f₂ →
      Effect c l f (.extend (v :: rest)) result e l₂ f₂

variable {c d : Chain} {l f l' f' : List Nat}

theorem insertBefore_effect (intact : c.Intact l f) (call : Call) {value : String}
    (inserts : call.value? = some value) (target : Option Handle) (m : Memory) :
    ∃ o m' l' f', c.insertBefore target value m = .ok (o, m') ∧
      Effect c l f call (o.result.map .handle) o.chain l' f' := by
  rcases insertBefore_cases intact target value m with
    ⟨r, n, m', eq, -⟩ | ⟨before, after, n, d, m', rfl, -, eq, intact', becomes⟩
  · exact ⟨_, m', l, f, eq, .refuse n⟩
  · exact ⟨_, m', _, _, eq, .fill inserts intact' becomes⟩

theorem remove_effect (intact : c.Intact l f) (call : Call) {h : Handle}
    (discards : call.discards? = some h) {g : String → Reply} (value : ∀ v k, g v ≠ .handle k) :
    ∃ o l' f', c.remove h = .ok o ∧ Effect c l f call (o.result.map g) o.chain l' f' := by
  rcases remove_cases intact h with
    ⟨r, -, eq⟩ | ⟨before, after, d, v, rfl, own, cell, eq, intact', becomes⟩
  · exact ⟨_, l, f, eq, .refuse c.arena.capacity⟩
  · exact ⟨_, _, _, eq, .vacate discards (value v) own cell intact' becomes⟩

theorem Effect.intact {call : Call} {result : Except Refusal Reply}
    (effect : Effect c l f call result d l' f') (intact : c.Intact l f) : d.Intact l' f' := by
  induction effect with
  | refuse n => exact withCapacity_intact intact n
  | pass => exact intact
  | fill _ intact' _ => exact intact'
  | vacate _ _ _ _ intact' _ => exact intact'
  | clear intact' _ => exact intact'
  | extendDone => exact intact
  | extendNext _ _ _ ih ih' => exact ih' (ih intact)

theorem extend_effect (intact : c.Intact l f) (values : List String) (m : Memory) :
    ∃ o m' l' f', c.extend values m = .ok (o, m') ∧
      Effect c l f (.extend values) (o.result.map fun _ => .done) o.chain l' f' := by
  induction values generalizing c l f m with
  | nil => exact ⟨_, m, l, f, rfl, .extendDone⟩
  | cons value rest ih =>
    obtain ⟨⟨result, d, events⟩, m₁, l₁, f₁, eq, effect⟩ :=
      insertBefore_effect intact (.pushBack value) rfl none m
    cases result with
    | error r =>
      refine ⟨_, m₁, l₁, f₁, extend_of_error eq rfl, ?_⟩
      cases effect with
      | refuse n => exact .refuse n
    | ok k =>
      obtain ⟨others, m₂, l₂, f₂, eq', effect'⟩ := ih (effect.intact intact) m₁
      refine ⟨_, m₂, l₂, f₂, extend_of_ok eq rfl eq', .extendNext effect ?_ effect'⟩
      intro k
      cases others.result <;> simp [Except.map]

-- What a call comes to, whatever the capacity and the memory.
inductive Shape (c : Chain) : Call → Prop where
  | inserts {call : Call} (target : Option Handle) {value : String} :
      call.value? = some value →
      (∀ n m, (c.withCapacity n).perform call m =
        perform.issued ((c.withCapacity n).insertBefore target value m)) → Shape c call
  | removes {call : Call} {h : Handle} (reply : String → Reply) :
      call.discards? = some h → (∀ v k, reply v ≠ .handle k) →
      (∀ n m, (c.withCapacity n).perform call m =
        ((c.withCapacity n).remove h).map fun o => (o.map reply, m)) → Shape c call
  | appends {values : List String} : Shape c (.extend values)
  | ignores : Shape c (.delete none)
  | misreads {target : Option Handle} {bytes : ByteArray} :
      String.fromUTF8? (Text.untilNul bytes) = none → Shape c (.insertBytes target bytes)
  | clears : Shape c .clear

theorem Intact.shape (intact : c.Intact l f) (call : Call) : c.Shape call := by
  cases call with
  | insertBefore target value => exact .inserts target rfl fun _ _ => rfl
  | insertBytes target bytes =>
    cases hb : String.fromUTF8? (Text.untilNul bytes) with
    | none => exact .misreads hb
    | some value => exact .inserts target hb fun n m => by rw [perform, insertBytes_of_some hb]
  | pushBack value => exact .inserts none rfl fun _ _ => rfl
  | pushFront value =>
    obtain ⟨target, head, -⟩ := accept_head intact
    refine .inserts target rfl fun n m => ?_
    have same : (c.withCapacity n).handleAt? (c.withCapacity n).headIndex = .ok target := head
    simp [perform, pushFront, same, bind, Except.bind]
  | extend values => exact .appends
  | delete target =>
    cases target with
    | none => exact .ignores
    | some h =>
      refine .removes (fun _ => .done) rfl (by simp) fun n m => ?_
      cases hr : (c.withCapacity n).remove h with
      | error e => simp [perform, delete, hr, bind, Except.bind, Except.map]
      | ok o =>
        cases ho : o.result <;>
          simp [perform, delete, hr, ho, Outcome.map, bind, Except.bind, Except.map]
  | remove h =>
    refine .removes .value rfl (by simp) fun n m => ?_
    cases hr : (c.withCapacity n).remove h <;> simp [perform, hr, bind, Except.bind, Except.map]
  | clear => exact .clears

theorem Intact.perform_discard (intact : c.Intact l f) {call : Call} {h : Handle}
    (discards : call.discards? = some h) :
    ∃ reply : String → Reply, (∀ v k, reply v ≠ .handle k) ∧
      ∀ m, c.perform call m = (c.remove h).map fun o => (o.map reply, m) := by
  cases intact.shape call with
  | inserts _ inserts _ => cases (Call.discards?_of_value? inserts).symm.trans discards
  | removes reply discards' silent form =>
    cases discards.symm.trans discards'
    exact ⟨reply, silent, form c.arena.capacity⟩
  | appends => cases discards
  | ignores => cases discards
  | misreads _ => cases discards
  | clears => cases discards

theorem perform_effect (intact : c.Intact l f) (call : Call) (m : Memory) :
    ∃ o m' l' f', c.perform call m = .ok (o, m') ∧ Effect c l f call o.result o.chain l' f' := by
  cases intact.shape call with
  | inserts target inserts form =>
    obtain ⟨o, m', l', f', eq, effect⟩ := insertBefore_effect intact call inserts target m
    have performed := form c.arena.capacity m
    exact ⟨o.map .handle, m', l', f', performed.trans (congrArg perform.issued eq), effect⟩
  | removes reply discards silent form =>
    obtain ⟨o, l', f', eq, effect⟩ := remove_effect intact call discards silent
    have performed := form c.arena.capacity m
    exact ⟨o.map reply, m, l', f', performed.trans (congrArg (Except.map _) eq), effect⟩
  | @appends values =>
    obtain ⟨o, m', l', f', eq, effect⟩ := extend_effect intact values m
    exact ⟨o.map fun _ => .done, m', l', f', by simp [perform, eq, bind, Except.bind], effect⟩
  | ignores => exact ⟨_, m, l, f, rfl, .pass⟩
  | misreads unreadable =>
    exact ⟨_, m, l, f, perform_misread unreadable m, .refuse c.arena.capacity⟩
  | clears =>
    obtain ⟨intact', becomes⟩ := clear_intact intact
    exact ⟨_, m, [], _, rfl, .clear intact' becomes⟩

theorem cell?_eq_none {i : Nat} : c.cell? i = none ↔ c.arena.size ≤ i := by
  simp [cell?, Arena.slot?, Arena.size]

theorem update_eq_none {cells : Nat → Option (Slot String)} {s : Slot String} {i j : Nat}
    (absent : Function.update cells j (some s) i = none) : cells i = none := by
  by_cases hi : i = j
  · subst hi
    simp at absent
  · rwa [Function.update_of_ne hi] at absent

namespace Effect

variable {call : Call} {result : Except Refusal Reply}

theorem keeps_cells (effect : Effect c l f call result d l' f') {i : Nat}
    (absent : d.cell? i = none) : c.cell? i = none := by
  induction effect with
  | refuse n => exact absent
  | pass => exact absent
  | fill _ _ becomes => exact update_eq_none (becomes.cells ▸ absent)
  | vacate _ _ _ _ _ becomes => exact update_eq_none (becomes.cells ▸ absent)
  | clear _ becomes => exact Option.map_eq_none_iff.mp (becomes.cells ▸ absent)
  | extendDone => exact absent
  | extendNext _ _ _ ih ih' => exact ih (ih' absent)

theorem id_eq (effect : Effect c l f call result d l' f') : d.id = c.id := by
  induction effect with
  | refuse n => rfl
  | pass => rfl
  | fill _ _ becomes => exact becomes.id
  | vacate _ _ _ _ _ becomes => exact becomes.id
  | clear _ becomes => exact becomes.id
  | extendDone => rfl
  | extendNext _ _ _ ih ih' => exact ih'.trans ih

theorem keeps_slots (effect : Effect c l f call result d l' f') {i : Nat} {s : Slot Node}
    (hs : c.arena.slot? i = some s) : ∃ t, d.arena.slot? i = some t := by
  rw [← Option.ne_none_iff_exists']
  intro absent
  have gone := effect.keeps_cells (Option.map_eq_none_iff.mpr absent)
  rw [cell?, hs] at gone
  cases gone

theorem size_le (effect : Effect c l f call result d l' f') : c.arena.size ≤ d.arena.size :=
  cell?_eq_none.mp (effect.keeps_cells (cell?_eq_none.mpr (Nat.le_refl _)))

end Effect
end Chain

structure Turn where
  before : Chain
  call : Call
  result : Except Refusal Reply
  after : Chain

namespace Chain

def trace (c : Chain) : List (Call × Memory) → Checked (List Turn × Chain)
  | [] => .ok ([], c)
  | (call, m) :: rest => do
    let (o, _) ← c.perform call m
    let (turns, d) ← o.chain.trace rest
    .ok (⟨c, call, o.result, o.chain⟩ :: turns, d)

inductive Course : Chain → List Nat → List Nat → List Turn → Chain → List Nat → List Nat →
    Prop where
  | done {c : Chain} {l f : List Nat} : c.Intact l f → Course c l f [] c l f
  | step {c d e : Chain} {l l₁ l₂ f f₁ f₂ : List Nat} {call : Call}
      {result : Except Refusal Reply} {turns : List Turn} :
      c.Intact l f → Effect c l f call result d l₁ f₁ → Course d l₁ f₁ turns e l₂ f₂ →
      Course c l f (⟨c, call, result, d⟩ :: turns) e l₂ f₂

variable {c d : Chain} {l f l' f' : List Nat}

theorem trace_cons {call : Call} {m m' : Memory} {o : Outcome Reply} {rest : List (Call × Memory)}
    {turns : List Turn} (eq : c.perform call m = .ok (o, m'))
    (eq' : o.chain.trace rest = .ok (turns, d)) :
    c.trace ((call, m) :: rest) = .ok (⟨c, call, o.result, o.chain⟩ :: turns, d) := by
  simp [trace, eq, eq', bind, Except.bind]

theorem trace_course (intact : c.Intact l f) (calls : List (Call × Memory)) :
    ∃ turns d l' f', c.trace calls = .ok (turns, d) ∧ Course c l f turns d l' f' := by
  induction calls generalizing c l f with
  | nil => exact ⟨[], c, l, f, rfl, .done intact⟩
  | cons entry rest ih =>
    obtain ⟨call, m⟩ := entry
    obtain ⟨o, m', l₁, f₁, eq, effect⟩ := perform_effect intact call m
    obtain ⟨turns, d, l₂, f₂, eq', course⟩ := ih (effect.intact intact)
    exact ⟨_, d, l₂, f₂, trace_cons eq eq', .step intact effect course⟩

theorem Course.intact_last {turns : List Turn} (course : Course c l f turns d l' f') :
    d.Intact l' f' := by
  induction course with
  | done intact => exact intact
  | step _ _ _ ih => exact ih

end Chain
end StringChain
