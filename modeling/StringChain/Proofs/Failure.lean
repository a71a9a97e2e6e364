import StringChain.Proofs.Effects
import StringChain.Proofs.Extensional
import StringChain.Proofs.Reachable

namespace StringChain

def Call.single : Call → Bool
  | insertBefore _ _ => true
  | insertBytes _ _ => true
  | pushBack _ => true
  | pushFront _ => true
  | extend _ => false
  | delete _ => true
  | remove _ => true
  | clear => true

namespace Chain

variable {c d : Chain} {l f : List Nat} {seq : Listing}

theorem insertBefore_failed (intact : c.Intact l f) {target : Option Handle} {value : String}
    {m m' : Memory} {o : Outcome Handle} {r : Refusal}
    (eq : c.insertBefore target value m = .ok (o, m')) (failed : o.result = .error r) :
    ∃ n, o.chain = c.withCapacity n ∧
      (n = c.arena.capacity ∨ ∃ bytes, r = .valueAllocation bytes) := by
  rcases insertBefore_cases intact target value m with
    ⟨_, n, _, eq', kept, -⟩ | ⟨_, _, _, _, _, -, -, eq', -⟩
  · cases eq.symm.trans eq'
    cases failed
    exact ⟨n, rfl, kept.imp_right fun value => ⟨_, value⟩⟩
  · cases eq.symm.trans eq'
    cases failed

theorem remove_failed (intact : c.Intact l f) {h : Handle} {o : Outcome String} {r : Refusal}
    (eq : c.remove h = .ok o) (failed : o.result = .error r) : o.chain = c := by
  rcases remove_cases intact h with ⟨_, -, eq'⟩ | ⟨_, _, _, _, -, -, -, eq', -⟩
  · cases eq.symm.trans eq'
    rfl
  · cases eq.symm.trans eq'
    cases failed

theorem insertBefore_unlimited (intact : c.Intact l f) {target : Option Handle} {value : String}
    {m m' : Memory} {o : Outcome Handle} {k : Handle}
    (eq : c.insertBefore target value m = .ok (o, m')) (done : o.result = .ok k) (n : Nat) :
    ∃ o₁ m₁ n₁, (c.withCapacity n).insertBefore target value .unlimited = .ok (o₁, m₁) ∧
      o₁.result = .ok k ∧ o₁.chain = o.chain.withCapacity n₁ := by
  rcases insertBefore_cases intact target value m with
    ⟨_, _, _, eq', -⟩ | ⟨before, after, _, d, _, rfl, accepted, eq', intact', becomes⟩
  · cases eq.symm.trans eq'
    cases done
  · cases eq.symm.trans eq'
    cases done
    have again : (c.withCapacity n).accept target value = .ok after.head? := accepted
    obtain ⟨before', after', _, d', m₁, cut, place, -, eq₁, intact₁, becomes₁⟩ :=
      insertBefore_of_ample (withCapacity_intact intact n) (m := .unlimited) (fun _ => rfl) again
    obtain ⟨rfl, rfl⟩ := cut_unique (cut ▸ intact.nodup) cut place
    exact ⟨_, m₁, d'.arena.capacity, eq₁, rfl,
      intact'.eq_of_becomes intact₁ becomes becomes₁ rfl rfl⟩

theorem remove_withCapacity (intact : c.Intact l f) {h : Handle} {o : Outcome String} {v : String}
    (eq : c.remove h = .ok o) (done : o.result = .ok v) (n : Nat) :
    ∃ o₁ n₁, (c.withCapacity n).remove h = .ok o₁ ∧ o₁.result = .ok v ∧
      o₁.chain = o.chain.withCapacity n₁ := by
  rcases remove_cases intact h with
    ⟨_, -, eq'⟩ | ⟨before, after, d, w, rfl, own, cell, eq', intact', becomes⟩
  · cases eq.symm.trans eq'
    cases done
  · cases eq.symm.trans eq'
    cases done
    have resolved : (c.withCapacity n).resolve h = .ok h.index :=
      resolve_eq_ok_iff.mpr ⟨own, rfl, v, cell⟩
    rcases remove_cases (withCapacity_intact intact n) h with
      ⟨_, unresolved, -⟩ | ⟨before', after', d', w, cut, -, cell', eq₁, intact₁, becomes₁⟩
    · cases resolved.symm.trans unresolved
    · obtain ⟨rfl, tails⟩ := cut_unique (cut ▸ intact.nodup) cut rfl
      cases tails
      obtain rfl : v = w := by
        cases cell.symm.trans cell'
        rfl
      exact ⟨_, d'.arena.capacity, eq₁, rfl,
        intact'.eq_of_becomes intact₁ becomes becomes₁ rfl rfl⟩

theorem perform_failed (intact : c.Intact l f) {call : Call} (single : call.single = true)
    {m m' : Memory} {o : Outcome Reply} {r : Refusal} (eq : c.perform call m = .ok (o, m'))
    (failed : o.result = .error r) :
    ∃ n, o.chain = c.withCapacity n ∧
      (n = c.arena.capacity ∨ ∃ bytes, r = .valueAllocation bytes) := by
  cases intact.shape call with
  | inserts target _ form =>
    obtain ⟨first, inserted, rfl⟩ := issued_eq_ok ((form c.arena.capacity m).symm.trans eq)
    exact insertBefore_failed intact inserted (Outcome.error_of_map failed)
  | removes _ _ _ form =>
    obtain ⟨first, removed, e⟩ := ok_of_map_eq_ok ((form c.arena.capacity m).symm.trans eq)
    cases e
    exact ⟨c.arena.capacity, remove_failed intact removed (Outcome.error_of_map failed), .inl rfl⟩
  | appends => cases single
  | ignores =>
    cases eq
    cases failed
  | misreads unreadable =>
    cases eq.symm.trans (perform_misread unreadable m)
    exact ⟨c.arena.capacity, rfl, .inl rfl⟩
  | clears =>
    cases eq
    cases failed

theorem perform_unlimited (intact : c.Intact l f) {call : Call} (single : call.single = true)
    {m m' : Memory} {o : Outcome Reply} {reply : Reply} (eq : c.perform call m = .ok (o, m'))
    (done : o.result = .ok reply) (n : Nat) :
    ∃ o₁ m₁ n₁, (c.withCapacity n).perform call .unlimited = .ok (o₁, m₁) ∧
      o₁.result = .ok reply ∧ o₁.chain = o.chain.withCapacity n₁ := by
  cases intact.shape call with
  | inserts target _ form =>
    obtain ⟨first, inserted, rfl⟩ := issued_eq_ok ((form c.arena.capacity m).symm.trans eq)
    obtain ⟨k, hk, rfl⟩ := Outcome.ok_of_map done
    obtain ⟨o₁, m₁, n₁, eq₁, result, chain⟩ := insertBefore_unlimited intact inserted hk n
    refine ⟨o₁.map .handle, m₁, n₁, (form n .unlimited).trans ?_, ?_, chain⟩
    · rw [eq₁]
      rfl
    · simp [Outcome.map, result, Except.map]
  | removes answer _ _ form =>
    obtain ⟨first, removed, e⟩ := ok_of_map_eq_ok ((form c.arena.capacity m).symm.trans eq)
    cases e
    obtain ⟨v, hv, rfl⟩ := Outcome.ok_of_map done
    obtain ⟨o₁, n₁, eq₁, result, chain⟩ := remove_withCapacity intact removed hv n
    refine ⟨o₁.map answer, .unlimited, n₁, (form n .unlimited).trans ?_, ?_, chain⟩
    · rw [eq₁]
      rfl
    · simp [Outcome.map, result, Except.map]
  | appends => cases single
  | ignores =>
    cases eq
    exact ⟨_, _, n, rfl, done, rfl⟩
  | misreads unreadable =>
    cases eq.symm.trans (perform_misread unreadable m)
    cases done
  | clears =>
    cases eq
    exact ⟨_, _, n, rfl, done, rfl⟩

namespace Shows

theorem same_has (hc : c.Shows seq) (hd : d.Shows seq) (h : Handle) : d.has h = c.has h :=
  Bool.eq_iff_iff.mpr ((hd.has h).trans (hc.has h).symm)

theorem same_get? (hc : c.Shows seq) (hd : d.Shows seq) (h : Handle) : d.get? h = c.get? h :=
  Option.ext fun v => (hd.get h v).trans (hc.get h v).symm

theorem same_neighbours (hc : c.Shows seq) (hd : d.Shows seq) (h : Handle) :
    ∃ x y, c.next h = .ok x ∧ d.next h = .ok x ∧ c.prev h = .ok y ∧ d.prev h = .ok y := by
  by_cases present : h ∈ seq.map Prod.fst
  · obtain ⟨⟨k, v⟩, inside, rfl⟩ := List.mem_map.mp present
    obtain ⟨before, after, cut⟩ := List.append_of_mem inside
    obtain ⟨next, prev⟩ := hc.neighbours before k v after cut
    obtain ⟨next', prev'⟩ := hd.neighbours before k v after cut
    exact ⟨_, _, next, next', prev, prev'⟩
  · obtain ⟨next, prev⟩ := hc.absent h present
    obtain ⟨next', prev'⟩ := hd.absent h present
    exact ⟨none, none, next, next', prev, prev'⟩

theorem ask (hc : c.Shows seq) (hd : d.Shows seq) (query : Query) :
    ∃ finding, c.ask query = .ok finding ∧ d.ask query = .ok finding := by
  cases query with
  | head => exact ⟨_, by rw [Chain.ask, hc.head]; rfl, by rw [Chain.ask, hd.head]; rfl⟩
  | tail => exact ⟨_, by rw [Chain.ask, hc.tail]; rfl, by rw [Chain.ask, hd.tail]; rfl⟩
  | has h => exact ⟨_, rfl, by rw [Chain.ask, hc.same_has hd h]⟩
  | get h => exact ⟨_, rfl, by rw [Chain.ask, hc.same_get? hd h]⟩
  | next h =>
    obtain ⟨x, _, eq, eq', -⟩ := hc.same_neighbours hd h
    exact ⟨_, by rw [Chain.ask, eq]; rfl, by rw [Chain.ask, eq']; rfl⟩
  | prev h =>
    obtain ⟨_, y, -, -, eq, eq'⟩ := hc.same_neighbours hd h
    exact ⟨_, by rw [Chain.ask, eq]; rfl, by rw [Chain.ask, eq']; rfl⟩
  | find value =>
    refine ⟨_, by rw [Chain.ask, find, hc.findFrom_eq]; rfl, ?_⟩
    rw [Chain.ask, find, hd.findFrom_eq]
    rfl
  | rfind value =>
    refine ⟨_, by rw [Chain.ask, rfind, hc.findFrom_eq]; rfl, ?_⟩
    rw [Chain.ask, rfind, hd.findFrom_eq]
    rfl
  | contains value =>
    refine ⟨_, by rw [Chain.ask, hc.contains_eq]; rfl, ?_⟩
    rw [Chain.ask, hd.contains_eq]
    rfl
  | size => exact ⟨_, rfl, by rw [Chain.ask, hc.size, hd.size]⟩
  | isEmpty => exact ⟨_, rfl, by rw [Chain.ask, hc.isEmpty, hd.isEmpty]⟩
  | handles => exact ⟨_, by rw [Chain.ask, hc.handles]; rfl, by rw [Chain.ask, hd.handles]; rfl⟩
  | values => exact ⟨_, by rw [Chain.ask, hc.values]; rfl, by rw [Chain.ask, hd.values]; rfl⟩

end Shows
end Chain

inductive Request where
  | perform (call : Call) (m : Memory)
  | ask (query : Query)

inductive Response where
  | reply (result : Except Refusal Reply)
  | finding (finding : Finding)

def Request.single : Request → Bool
  | perform call _ => call.single
  | ask _ => true

def Request.granted : Request → Request
  | perform call _ => .perform call .unlimited
  | ask query => .ask query

def Response.failed : Response → Bool
  | reply (.error _) => true
  | reply (.ok _) => false
  | finding _ => false

namespace Chain

def serve (c : Chain) : Request → Checked (Response × Chain)
  | .perform call m => do
    let (o, _) ← c.perform call m
    .ok (.reply o.result, o.chain)
  | .ask query => do .ok (.finding (← c.ask query), c)

def serveAll (c : Chain) : List Request → Checked (List Response × Chain)
  | [] => .ok ([], c)
  | request :: rest => do
    let (answer, d) ← c.serve request
    let (answers, e) ← d.serveAll rest
    .ok (answer :: answers, e)

def withoutFailed (requests : List Request) (answers : List Response) : List Request :=
  ((requests.zip answers).filter fun entry => !entry.2.failed).map fun entry => entry.1.granted

variable {c d : Chain} {l f : List Nat}

theorem serve_cases (intact : c.Intact l f) {request : Request} (single : request.single = true) :
    ∃ answer d l' f', c.serve request = .ok (answer, d) ∧ d.Intact l' f' ∧
      if answer.failed then ∃ n, d = c.withCapacity n
      else ∀ n, ∃ n',
        (c.withCapacity n).serve request.granted = .ok (answer, d.withCapacity n') := by
  cases request with
  | perform call m =>
    obtain ⟨o, m', l', f', eq, intact'⟩ := perform_intact intact call m
    refine ⟨.reply o.result, o.chain, l', f', by simp [serve, eq, bind, Except.bind], intact', ?_⟩
    cases result : o.result with
    | error r =>
      obtain ⟨n, chain, -⟩ := perform_failed intact single eq result
      exact ⟨n, chain⟩
    | ok reply =>
      intro n
      obtain ⟨o₁, m₁, n₁, eq₁, result₁, chain₁⟩ := perform_unlimited intact single eq result n
      exact ⟨n₁, by simp [serve, Request.granted, eq₁, result₁, chain₁, bind, Except.bind]⟩
  | ask query =>
    obtain ⟨seq, lists⟩ := intact.exists_listing
    have shows : ∀ n, (c.withCapacity n).Shows seq := fun n =>
      (Holds.withCapacity ⟨l, f, intact, lists⟩ n).shows
    obtain ⟨finding, eq, -⟩ := (intact.shows lists).ask (intact.shows lists) query
    refine ⟨.finding finding, c, l, f, by simp [serve, eq, bind, Except.bind], intact, ?_⟩
    intro n
    obtain ⟨finding', eq', eq₁⟩ := (intact.shows lists).ask (shows n) query
    cases eq.symm.trans eq'
    exact ⟨n, by simp [serve, Request.granted, eq₁, bind, Except.bind]⟩

theorem serveAll_withoutFailed (intact : c.Intact l f) (requests : List Request)
    (single : ∀ request ∈ requests, request.single = true) :
    ∃ answers d, c.serveAll requests = .ok (answers, d) ∧ ∀ n, ∃ n',
      (c.withCapacity n).serveAll (withoutFailed requests answers) =
        .ok (answers.filter fun answer => !answer.failed, d.withCapacity n') := by
  induction requests generalizing c l f with
  | nil => exact ⟨[], c, rfl, fun n => ⟨n, rfl⟩⟩
  | cons request rest ih =>
    obtain ⟨first, others⟩ := List.forall_mem_cons.mp single
    obtain ⟨answer, d, l', f', eq, intact', after⟩ := serve_cases intact first
    obtain ⟨answers, e, eq', erased⟩ := ih intact' others
    refine ⟨answer :: answers, e, by simp [serveAll, eq, eq', bind, Except.bind], ?_⟩
    intro n
    cases failed : answer.failed with
    | true =>
      simp only [failed, if_true] at after
      obtain ⟨k, rfl⟩ := after
      obtain ⟨n', erased⟩ := erased n
      have unserved : (c.withCapacity n).serveAll (withoutFailed rest answers) =
        .ok (answers.filter fun answer => !answer.failed, e.withCapacity n') := erased
      refine ⟨n', ?_⟩
      simpa [withoutFailed, failed] using unserved
    | false =>
      simp only [failed, Bool.false_eq_true, if_false] at after
      obtain ⟨k, served⟩ := after n
      obtain ⟨n', erased⟩ := erased k
      refine ⟨n', ?_⟩
      unfold withoutFailed at erased ⊢
      simp [failed, serveAll, served, erased, bind, Except.bind]

structure FailsQuietly (c : Chain) : Prop where
  failed : ∀ call m, call.single = true → ∃ o m', c.perform call m = .ok (o, m') ∧
    ∀ r, o.result = .error r →
      ∃ n, o.chain = c.withCapacity n ∧
        (n = c.arena.capacity ∨ ∃ bytes, r = .valueAllocation bytes)
  erased : ∀ requests, (∀ request ∈ requests, request.single = true) →
    ∃ answers d n, c.serveAll requests = .ok (answers, d) ∧
      c.serveAll (withoutFailed requests answers) =
        .ok (answers.filter fun answer => !answer.failed, d.withCapacity n)

theorem failed_calls_leave_no_trace (reachable : c.Reachable) : c.FailsQuietly where
  failed call m single := by
    obtain ⟨l, f, intact⟩ := reachable.intact
    obtain ⟨o, m', _, _, eq, -⟩ := perform_intact intact call m
    exact ⟨o, m', eq, fun r failed => perform_failed intact single eq failed⟩
  erased requests single := by
    obtain ⟨l, f, intact⟩ := reachable.intact
    obtain ⟨answers, d, eq, erased⟩ := serveAll_withoutFailed intact requests single
    obtain ⟨n, eq'⟩ := erased c.arena.capacity
    exact ⟨answers, d, n, eq, eq'⟩

theorem failed_calls_leave_no_trace_of_single :
    Reachable ⟨1, .bounded, ⟨#[⟨0, .occupied ⟨"a", none, none⟩⟩], none, 4⟩, some 0, some 0, 1⟩ ∧
    FailsQuietly
      ⟨1, .bounded, ⟨#[⟨0, .occupied ⟨"a", none, none⟩⟩], none, 4⟩, some 0, some 0, 1⟩ := by
  have accepted : (Chain.empty 1 .bounded).accept none "a" = .ok none :=
    accept_eq_ok.mpr ⟨by decide +kernel, .inl ⟨rfl, rfl⟩⟩
  have reachable : Reachable
      ⟨1, .bounded, ⟨#[⟨0, .occupied ⟨"a", none, none⟩⟩], none, 4⟩, some 0, some 0, 1⟩ := by
    refine ⟨1, .bounded, [.perform (.pushBack "a") .unlimited], ?_⟩
    simp only [run, act, perform, pushBack, insertBefore, accepted]
    rfl
  exact ⟨reachable, failed_calls_leave_no_trace reachable⟩

end Chain
end StringChain
