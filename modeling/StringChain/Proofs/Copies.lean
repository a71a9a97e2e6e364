import StringChain.Proofs.Lifetime
import StringChain.Proofs.Renaming

namespace StringChain

structure Operation.Suits (op : Operation) (id : ChainId) : Prop where
  named : ∀ h ∈ op.named, h.chain ≠ id
  ample : ∀ call m, op = .perform call m → m.Ample

namespace Outcome

variable {α β γ : Type}

def twin (o : Outcome α) (id : ChainId) (n : Nat) : Outcome α :=
  { o with chain := o.chain.twin id n }

theorem map_map (p : α → β) (q : β → γ) (o : Outcome α) :
    (o.map p).map q = o.map fun x => q (p x) := by
  obtain ⟨result, chain, events⟩ := o
  cases result <;> rfl

theorem twin_map (p : α → β) (o : Outcome α) (id : ChainId) (n : Nat) :
    (o.map p).twin id n = (o.twin id n).map p := rfl

end Outcome

namespace Chain

variable {c d : Chain} {l f l' f' : List Nat} {id : ChainId} {m m' : Memory}

theorem twin_intact (intact : c.Intact l f) (id : ChainId) (n : Nat) : (c.twin id n).Intact l f :=
  withCapacity_intact (copy_intact intact id) n

-- The order, the free stack and the cells fix a chain up to its identity and its room to spare.
theorem Intact.twin_of_becomes {c' d' : Chain} {cells : Nat → Option (Slot String)}
    (intact : d.Intact l f) (intact' : d'.Intact l f) (becomes : c.Becomes d cells)
    (becomes' : c'.Becomes d' cells) (policy : c'.policy = c.policy) :
    ∃ n, d' = d.twin c'.id n := by
  have kept : d'.policy = d.policy := by rw [becomes'.policy, policy, becomes.policy]
  have cells : d'.cell? = d.cell? := becomes'.cells.trans becomes.cells.symm
  exact ⟨d'.arena.capacity,
    (copy_intact intact c'.id).eq_withCapacity intact' becomes'.id kept cells⟩

theorem twin_accept {n : Nat} {target : Option Handle} (fits : ∀ h ∈ target, h.chain ≠ id)
    (value : String) :
    (c.twin id n).accept (target.map (Handle.moved c.id id)) value = c.accept target value := by
  cases target with
  | none => rfl
  | some h =>
    simp only [Option.map_some, accept, twin_resolve (fits h rfl)]
    rfl

theorem insertBefore_twin (intact : c.Intact l f) (id : ChainId) (target : Option Handle)
    (fits : ∀ h ∈ target, h.chain ≠ id) (value : String) (ample : m.Ample) (ample' : m'.Ample)
    (n : Nat) :
    ∃ o m₁ m₂ n', c.insertBefore target value m = .ok (o, m₁) ∧
      (c.twin id n).insertBefore (target.map (Handle.moved c.id id)) value m' =
        .ok ((o.twin id n').map (Handle.moved c.id id), m₂) ∧ m₁.Ample ∧ m₂.Ample := by
  have accepts := twin_accept (c := c) (n := n) fits value
  cases accepted : c.accept target value with
  | error r =>
    exact ⟨_, m, m', n, insertBefore_of_reject accepted m,
      insertBefore_of_reject (accepts.trans accepted) m', ample, ample'⟩
  | ok place =>
    obtain ⟨before, after, _, d, m₁, rfl, rfl, ample₁, eq, intact₁, becomes⟩ :=
      insertBefore_of_ample intact ample accepted
    obtain ⟨before', after', _, d', m₂, cut, place, ample₂, eq', intact₂, becomes'⟩ :=
      insertBefore_of_ample (twin_intact intact id n) ample' (accepts.trans accepted)
    obtain ⟨rfl, rfl⟩ := cut_unique (cut ▸ intact.nodup) cut place
    obtain ⟨n', rfl⟩ : ∃ n', d' = d.twin id n' :=
      intact₁.twin_of_becomes intact₂ becomes becomes' rfl
    have handle : c.upcomingHandle.moved c.id id = (c.twin id n).upcomingHandle := if_pos rfl
    refine ⟨_, m₁, m₂, n', eq, eq'.trans ?_, ample₁, ample₂⟩
    rw [← handle]
    rfl

theorem remove_twin (intact : c.Intact l f) {h : Handle} (fits : h.chain ≠ id) (n : Nat) :
    ∃ o n', c.remove h = .ok o ∧
      (c.twin id n).remove (h.moved c.id id) = .ok (o.twin id n') := by
  have resolves := twin_resolve (c := c) (n := n) fits
  rcases remove_cases intact h with
    ⟨r, unresolved, eq⟩ | ⟨before, after, d, v, rfl, own, cell, eq, intact', becomes⟩
  · refine ⟨_, n, eq, ?_⟩
    rw [unresolved] at resolves
    simp only [remove, resolves]
    rfl
  · have moved : h.moved c.id id = ⟨id, h.index, h.generation⟩ := if_pos own
    have resolved : c.resolve h = .ok h.index := resolve_eq_ok_iff.mpr ⟨own, rfl, v, cell⟩
    rw [moved] at resolves ⊢
    rcases remove_cases (twin_intact intact id n) ⟨id, h.index, h.generation⟩ with
      ⟨_, unresolved, -⟩ | ⟨before', after', d', w, cut, -, cell', eq', intact₂, becomes'⟩
    · cases (resolves.trans resolved).symm.trans unresolved
    · obtain ⟨rfl, tails⟩ := cut_unique (cut ▸ intact.nodup) cut rfl
      cases tails
      obtain rfl : v = w := by
        cases cell.symm.trans cell'
        rfl
      obtain ⟨n', rfl⟩ : ∃ n', d' = d.twin id n' :=
        intact'.twin_of_becomes intact₂ becomes becomes' rfl
      exact ⟨_, n', eq, eq'⟩

theorem extend_twin (intact : c.Intact l f) (id : ChainId) (values : List String) (ample : m.Ample)
    (ample' : m'.Ample) (n : Nat) :
    ∃ o m₁ m₂ n', c.extend values m = .ok (o, m₁) ∧
      (c.twin id n).extend values m' = .ok (o.twin id n', m₂) := by
  induction values generalizing c l f m m' n with
  | nil => exact ⟨_, m, m', n, rfl, rfl⟩
  | cons value rest ih =>
    obtain ⟨first, m₁, m₂, n₁, eq, eq', ample₁, ample₂⟩ :=
      insertBefore_twin intact id none (by simp) value ample ample' n
    cases result : first.result with
    | error r =>
      exact ⟨_, m₁, m₂, n₁, extend_of_error eq result,
        extend_of_error eq' (by simp [Outcome.map, Outcome.twin, result, Except.map])⟩
    | ok k =>
      obtain ⟨_, _, l₁, f₁, again, effect⟩ :=
        insertBefore_effect intact (.pushBack value) rfl none m
      cases eq.symm.trans again
      obtain ⟨others, m₃, m₄, n₂, eq₁, eq₂⟩ := ih (effect.intact intact) ample₁ ample₂ n₁
      exact ⟨_, m₃, m₄, n₂, extend_of_ok eq result eq₁,
        extend_of_ok eq' (by simp [Outcome.map, Outcome.twin, result, Except.map]; rfl) eq₂⟩

theorem own_of_handleAt? {i? : Option Nat} {target : Option Handle}
    (eq : c.handleAt? i? = .ok target) : ∀ h ∈ target, h.chain = c.id := by
  cases i? with
  | none =>
    cases eq
    simp
  | some i =>
    obtain ⟨h, found, eq⟩ := ok_of_bind_eq_ok eq
    cases eq
    obtain ⟨s, -, own⟩ := ok_of_bind_eq_ok found
    cases own
    simp

theorem pushFront_twin (intact : c.Intact l f) (fresh : id ≠ c.id) (value : String)
    (ample : m.Ample) (n : Nat) :
    ∃ o m₁ m₂ n', c.pushFront value m = .ok (o, m₁) ∧
      (c.twin id n).pushFront value m =
        .ok ((o.twin id n').map (Handle.moved c.id id), m₂) := by
  obtain ⟨target, head, -⟩ := accept_head intact
  have head' : (c.twin id n).handleAt? (c.twin id n).headIndex =
      .ok (target.map (Handle.moved c.id id)) := by
    rw [twin_headIndex, twin_handleAt?, head]
    rfl
  have fits : ∀ h ∈ target, h.chain ≠ id := fun h inside e =>
    fresh (e.symm.trans (own_of_handleAt? head h inside))
  obtain ⟨o, m₁, m₂, n', eq, eq', -⟩ := insertBefore_twin intact id target fits value ample ample n
  refine ⟨o, m₁, m₂, n', ?_, ?_⟩
  · simp [pushFront, head, eq, bind, Except.bind]
  · simp [pushFront, head', eq', bind, Except.bind]

theorem issued_twin {answer answer' : Checked (Outcome Handle × Memory)} {o : Outcome Handle}
    {n : Nat} (eq : answer = .ok (o, m))
    (eq' : answer' = .ok ((o.twin id n).map (Handle.moved c.id id), m')) :
    perform.issued answer = .ok (o.map .handle, m) ∧
      perform.issued answer' =
        .ok (((o.map .handle).twin id n).map (Reply.rename (Handle.moved c.id id)), m') := by
  subst eq eq'
  refine ⟨rfl, ?_⟩
  simp only [perform.issued, bind, Except.bind, Outcome.twin_map, Outcome.map_map, Reply.rename]

theorem perform_twin (intact : c.Intact l f) (fresh : id ≠ c.id) {call : Call}
    (fits : ∀ h ∈ call.named, h.chain ≠ id) (ample : m.Ample) (n : Nat) :
    ∃ o m₁ m₂ n', c.perform call m = .ok (o, m₁) ∧
      (c.twin id n).perform (call.rename (Handle.moved c.id id)) m =
        .ok ((o.twin id n').map (Reply.rename (Handle.moved c.id id)), m₂) := by
  cases call with
  | insertBefore target value =>
    have named : ∀ h ∈ target, h.chain ≠ id := fun h inside => fits h (Option.mem_toList.mpr inside)
    obtain ⟨o, m₁, m₂, n', eq, eq', -⟩ :=
      insertBefore_twin intact id target named value ample ample n
    exact ⟨_, m₁, m₂, n', issued_twin eq eq'⟩
  | insertBytes target bytes =>
    have named : ∀ h ∈ target, h.chain ≠ id := fun h inside => fits h (Option.mem_toList.mpr inside)
    cases hb : String.fromUTF8? (Text.untilNul bytes) with
    | none =>
      exact ⟨_, m, m, n, issued_twin (insertBytes_of_none hb target m)
        (insertBytes_of_none hb (target.map (Handle.moved c.id id)) m)⟩
    | some value =>
      obtain ⟨o, m₁, m₂, n', eq, eq', -⟩ :=
        insertBefore_twin intact id target named value ample ample n
      exact ⟨_, m₁, m₂, n', issued_twin ((insertBytes_of_some hb target m).trans eq)
        ((insertBytes_of_some hb (target.map (Handle.moved c.id id)) m).trans eq')⟩
  | pushBack value =>
    obtain ⟨o, m₁, m₂, n', eq, eq', -⟩ :=
      insertBefore_twin intact id none (by simp) value ample ample n
    exact ⟨_, m₁, m₂, n', issued_twin eq eq'⟩
  | pushFront value =>
    obtain ⟨o, m₁, m₂, n', eq, eq'⟩ := pushFront_twin intact fresh value ample n
    exact ⟨_, m₁, m₂, n', issued_twin eq eq'⟩
  | extend values =>
    obtain ⟨o, m₁, m₂, n', eq, eq'⟩ := extend_twin intact id values ample ample n
    refine ⟨o.map fun _ => .done, m₁, m₂, n', by simp [perform, eq, bind, Except.bind], ?_⟩
    simp only [Call.rename, perform, eq', bind, Except.bind, Outcome.twin_map, Outcome.map_map,
      Reply.rename]
  | delete target =>
    cases target with
    | none => exact ⟨_, m, m, n, rfl, rfl⟩
    | some h =>
      obtain ⟨o, n', eq, eq'⟩ := remove_twin intact (fits h List.mem_cons_self) n
      refine ⟨o.map fun _ => .done, m, m, n', ?_, ?_⟩
      · simp only [perform, delete, eq, bind, Except.bind, Outcome.map_map]
      · simp only [Call.rename, Option.map_some, perform, delete, eq', bind, Except.bind,
          Outcome.twin_map, Outcome.map_map, Reply.rename]
  | remove h =>
    obtain ⟨o, n', eq, eq'⟩ := remove_twin intact (fits h List.mem_cons_self) n
    refine ⟨o.map .value, m, m, n', by simp [perform, eq, bind, Except.bind], ?_⟩
    simp only [Call.rename, perform, eq', bind, Except.bind, Outcome.twin_map, Outcome.map_map,
      Reply.rename]
  | clear => exact ⟨_, m, m, n, rfl, rfl⟩

theorem operate_twin (intact : c.Intact l f) (fresh : id ≠ c.id) {op : Operation}
    (suits : op.Suits id) (n : Nat) :
    ∃ report d l' f' n', c.operate op = .ok (report, d) ∧ d.Intact l' f' ∧ d.id = c.id ∧
      (c.twin id n).operate (op.rename (Handle.moved c.id id)) =
        .ok (report.rename (Handle.moved c.id id), d.twin id n') := by
  obtain ⟨report, d, l', f', eq, intact', advances⟩ := operate_advances intact op
  refine ⟨report, d, l', f', ?_⟩
  rcases op.performs_or_reads with ⟨call, m, rfl⟩ | reads
  · obtain ⟨o, m₁, m₂, n', eq₁, eq₂⟩ :=
      perform_twin intact fresh suits.named (suits.ample call m rfl) n
    have answered : c.operate (.perform call m) = .ok (.reply o.result o.events, o.chain) := by
      simp [operate, eq₁, bind, Except.bind]
    cases eq.symm.trans answered
    refine ⟨n', eq, intact', advances.id, ?_⟩
    simp only [Operation.rename, operate, eq₂, bind, Except.bind]
    rfl
  · obtain ⟨_, answered⟩ := intact.reading reads
    cases eq.symm.trans answered
    refine ⟨n, eq, intact', rfl, ?_⟩
    rw [twin_reading fresh reads suits.named, eq]
    rfl

def operateAll (c : Chain) : List Operation → Checked (List Report × Chain)
  | [] => .ok ([], c)
  | op :: rest => do
    let (report, d) ← c.operate op
    let (reports, e) ← d.operateAll rest
    .ok (report :: reports, e)

theorem operateAll_twin (intact : c.Intact l f) (fresh : id ≠ c.id) (ops : List Operation)
    (suits : ∀ op ∈ ops, op.Suits id) (n : Nat) :
    ∃ reports d n', c.operateAll ops = .ok (reports, d) ∧
      (c.twin id n).operateAll (ops.map (·.rename (Handle.moved c.id id))) =
        .ok (reports.map (·.rename (Handle.moved c.id id)), d.twin id n') := by
  induction ops generalizing c l f n with
  | nil => exact ⟨[], c, n, rfl, rfl⟩
  | cons op rest ih =>
    obtain ⟨first, others⟩ := List.forall_mem_cons.mp suits
    obtain ⟨report, d, l₁, f₁, n₁, eq, intact₁, same, eq'⟩ := operate_twin intact fresh first n
    obtain ⟨reports, e, n₂, eq₁, eq₂⟩ := ih intact₁ (same ▸ fresh) others n₁
    rw [same] at eq₂
    refine ⟨report :: reports, e, n₂, by simp [operateAll, eq, eq₁, bind, Except.bind], ?_⟩
    simp [operateAll, eq', eq₂, bind, Except.bind]

end Chain

def only {α : Type} (name : String) (entries : List (String × α)) : List α :=
  (entries.filter fun entry => entry.1 = name).map Prod.snd

theorem only_cons_same {α : Type} (name : String) (x : α) (rest : List (String × α)) :
    only name ((name, x) :: rest) = x :: only name rest := by
  simp [only]

theorem only_cons_other {α : Type} {name other : String} (differ : name ≠ other) (x : α)
    (rest : List (String × α)) : only other ((name, x) :: rest) = only other rest := by
  simp [only, differ]

namespace Workspace

def operateAll (w : Workspace) : List (String × Operation) →
    Checked (List (String × Report) × Workspace)
  | [] => .ok ([], w)
  | (name, op) :: rest =>
    match w.chain? name with
    | some c => do
      let (report, d) ← c.operate op
      let (answers, w') ← (w.put name d).operateAll rest
      .ok ((name, report) :: answers, w')
    | none => w.operateAll rest

theorem Held.put {w : Workspace} (held : w.Held) {d : Chain} {l f : List Nat}
    (intact : d.Intact l f) (name : String) : (w.put name d).Held := by
  intro other e found
  rw [chain?_put] at found
  split at found
  · cases found
    obtain ⟨seq, lists⟩ := intact.exists_listing
    exact ⟨seq, l, f, intact, lists⟩
  · exact held other e found

theorem operateAll_only {w : Workspace} (held : w.Held) (requests : List (String × Operation)) :
    ∃ answers w', w.operateAll requests = .ok (answers, w') ∧
      ∀ name c, w.chain? name = some c →
        ∃ d, c.operateAll (only name requests) = .ok (only name answers, d) ∧
          w'.chain? name = some d ∧ d.id = c.id := by
  induction requests generalizing w with
  | nil => exact ⟨[], w, rfl, fun name c found => ⟨c, rfl, found, rfl⟩⟩
  | cons request rest ih =>
    obtain ⟨name, op⟩ := request
    cases found : w.chain? name with
    | none =>
      obtain ⟨answers, w', eq, alone⟩ := ih held
      refine ⟨answers, w', by simp [operateAll, found, eq], ?_⟩
      intro other c present
      have differ : name ≠ other := by
        rintro rfl
        cases found.symm.trans present
      rw [only_cons_other differ]
      exact alone other c present
    | some c =>
      obtain ⟨seq, l, f, intact, -⟩ := held name c found
      obtain ⟨report, d, l', f', eq, intact', advances⟩ := Chain.operate_advances intact op
      obtain ⟨answers, w', eq', alone⟩ := ih (held.put intact' name)
      refine ⟨(name, report) :: answers, w',
        by simp [operateAll, found, eq, eq', bind, Except.bind], ?_⟩
      intro other c' present
      by_cases same : name = other
      · subst same
        obtain rfl : c = c' := Option.some.inj (found.symm.trans present)
        obtain ⟨e, run, last, own⟩ := alone name d (chain?_put_same w name d)
        refine ⟨e, ?_, last, own.trans advances.id⟩
        simp [only_cons_same, Chain.operateAll, eq, run, bind, Except.bind]
      · have untouched := (chain?_put_other (w := w) (Ne.symm same) d).trans present
        rw [only_cons_other same, only_cons_other same]
        exact alone other c' untouched

end Workspace

namespace Chain

structure Mirrored (c : Chain) (id : ChainId) : Prop where
  alike : ∀ ops, (∀ op ∈ ops, op.Suits id) → ∃ reports d n,
    c.operateAll ops = .ok (reports, d) ∧
    (c.copy id).operateAll (ops.map (·.rename (Handle.moved c.id id))) =
      .ok (reports.map (·.rename (Handle.moved c.id id)), d.twin id n)
  apart : ∀ (w : Workspace) (original copied : String), w.Held → w.chain? original = some c →
    w.chain? copied = some (c.copy id) → ∀ requests, ∃ answers w' d e,
      w.operateAll requests = .ok (answers, w') ∧
      c.operateAll (only original requests) = .ok (only original answers, d) ∧
      w'.chain? original = some d ∧
      (c.copy id).operateAll (only copied requests) = .ok (only copied answers, e) ∧
      w'.chain? copied = some e ∧
      (∀ h, h.chain = c.id → e.Refuses h .foreignNode) ∧
      ∀ h, h.chain = id → d.Refuses h .foreignNode

theorem copies_mirror_their_original {c : Chain} {id : ChainId} (reachable : c.Reachable)
    (fresh : id ≠ c.id) : c.Mirrored id where
  alike ops suits := by
    obtain ⟨l, f, intact⟩ := reachable.intact
    obtain ⟨reports, d, n, eq, eq'⟩ := operateAll_twin intact fresh ops suits c.arena.size
    exact ⟨reports, d, n, eq, eq'⟩
  apart w original copied held first second requests := by
    obtain ⟨answers, w', eq, alone⟩ := Workspace.operateAll_only held requests
    obtain ⟨d, run, last, own⟩ := alone original c first
    obtain ⟨e, run', last', own'⟩ := alone copied (c.copy id) second
    refine ⟨answers, w', d, e, eq, run, last, run', last', ?_, ?_⟩
    · intro h theirs
      refine refuses_of_resolve (resolve_of_foreign ?_)
      rw [theirs, own']
      exact fresh.symm
    · intro h theirs
      refine refuses_of_resolve (resolve_of_foreign ?_)
      rw [theirs, own]
      exact fresh

theorem copies_mirror_their_original_of_emptied :
    Reachable ⟨1, .bounded, ⟨#[⟨1, .vacant none⟩], some 0, 4⟩, none, none, 0⟩ ∧ (2 : ChainId) ≠ 1 ∧
    Mirrored ⟨1, .bounded, ⟨#[⟨1, .vacant none⟩], some 0, 4⟩, none, none, 0⟩ 2 := by
  have accepted : (Chain.empty 1 .bounded).accept none "a" = .ok none :=
    accept_eq_ok.mpr ⟨by decide +kernel, .inl ⟨rfl, rfl⟩⟩
  have reachable :
      Reachable ⟨1, .bounded, ⟨#[⟨1, .vacant none⟩], some 0, 4⟩, none, none, 0⟩ := by
    refine ⟨1, .bounded, [.perform (.pushBack "a") .unlimited,
      .perform (.remove ⟨1, 0, 0⟩) .unlimited], ?_⟩
    simp only [run, act, perform, pushBack, insertBefore, accepted]
    rfl
  have fresh : (2 : ChainId) ≠ 1 := by decide
  exact ⟨reachable, fresh, copies_mirror_their_original reachable fresh⟩

end Chain
end StringChain
