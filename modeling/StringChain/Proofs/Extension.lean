import StringChain.Proofs.Policies

namespace StringChain

namespace Policy

def Forbids (p : Policy) (value : String) : Prop :=
  0 ∈ value.toByteArray.data ∨ ∃ limit, p.maxValueLength = some limit ∧ limit < value.utf8ByteSize

theorem objection?_eq_none_iff_not_forbids {p : Policy} {value : String} :
    p.objection? value = none ↔ ¬ p.Forbids value := by
  rw [objection?_eq_none_iff_allows]
  constructor
  · rintro allows (zero | ⟨limit, limited, long⟩)
    · obtain ⟨i, found⟩ := Array.getElem?_of_mem zero
      exact allows.clean i found
    · exact absurd (allows.short limit limited) (Nat.not_le_of_lt long)
  · intro clear
    refine ⟨fun i zero => ?_, value.isValidUTF8, fun limit limited => ?_⟩
    · exact clear (.inl (Array.mem_of_getElem? zero))
    · exact Nat.not_lt.mp fun long => clear (.inr ⟨limit, limited, long⟩)

end Policy

theorem Memory.Ample.allocate? {m : Memory} (ample : m.Ample) :
    m.allocate? = some { m with granted := m.granted + 1 } :=
  if_pos (ample m.granted)

theorem Memory.Ample.hold? {m : Memory} (ample : m.Ample) (bytes : Nat) :
    ∃ m', m.hold? bytes = some m' := by
  unfold Memory.hold?
  split
  · exact ⟨m, rfl⟩
  · exact ⟨_, ample.allocate?⟩

theorem Arena.reserve?_of_ample {α : Type} (a : Arena α) :
    ∃ b, ∀ m : Memory, m.Ample → ∃ m', a.reserve? m = some (b, m') ∧ m'.Ample := by
  cases room : a.hasRoom with
  | true => exact ⟨a, fun m ample => ⟨m, by simp [reserve?, room], ample⟩⟩
  | false =>
    refine ⟨{ a with capacity := grownCapacity a.capacity a.slots.size }, fun m ample => ?_⟩
    exact ⟨{ m with granted := m.granted + 1 }, by simp [reserve?, room, ample.allocate?], ample⟩

namespace Chain

variable {c d : Chain} {l f : List Nat} {seq : Listing} {m m' : Memory} {value : String}

theorem insertBefore_of_amples (ample : m.Ample) (ample' : m'.Ample) {target : Option Handle}
    {o : Outcome Handle} {m₁ : Memory} (eq : c.insertBefore target value m = .ok (o, m₁)) :
    ∃ m₁', c.insertBefore target value m' = .ok (o, m₁') := by
  unfold insertBefore at eq ⊢
  cases accepted : c.accept target value with
  | error r =>
    simp only [accepted, Except.ok.injEq, Prod.mk.injEq] at eq
    exact ⟨m', by rw [← eq.1]⟩
  | ok place =>
    obtain ⟨a, reserves⟩ := c.arena.reserve?_of_ample
    obtain ⟨n, reserved, left⟩ := reserves m ample
    obtain ⟨n', reserved', left'⟩ := reserves m' ample'
    obtain ⟨k, held⟩ := left.hold? value.utf8ByteSize
    obtain ⟨k', held'⟩ := left'.hold? value.utf8ByteSize
    simp only [accepted, reserved, held] at eq
    simp only [reserved', held']
    obtain ⟨⟨e, index⟩, linked, eq⟩ := ok_of_bind_eq_ok eq
    obtain ⟨handle, named, eq⟩ := ok_of_bind_eq_ok eq
    cases eq
    exact ⟨k', by simp [linked, named, bind, Except.bind]⟩

theorem extend_cons_eq_ok {rest : List String} {o : Outcome Unit}
    (eq : c.extend (value :: rest) m = .ok (o, m')) :
    ∃ first m₁, c.insertBefore none value m = .ok (first, m₁) ∧
      ((∃ r, first.result = .error r ∧ o = ⟨.error r, first.chain, first.events⟩ ∧ m' = m₁) ∨
        ∃ h others, first.result = .ok h ∧ first.chain.extend rest m₁ = .ok (others, m') ∧
          o = { others with events := first.events ++ others.events }) := by
  obtain ⟨⟨first, m₁⟩, pushed, eq⟩ := ok_of_bind_eq_ok eq
  refine ⟨first, m₁, pushed, ?_⟩
  cases result : first.result with
  | error r =>
    simp only [result, Except.ok.injEq, Prod.mk.injEq] at eq
    exact .inl ⟨r, rfl, eq.1.symm, eq.2.symm⟩
  | ok h =>
    simp only [result] at eq
    obtain ⟨⟨others, m₂⟩, extended, eq⟩ := ok_of_bind_eq_ok eq
    cases eq
    exact .inr ⟨h, others, rfl, extended, rfl⟩

theorem ample_of_insertBefore (ample : m.Ample) {target : Option Handle} {o : Outcome Handle}
    (eq : c.insertBefore target value m = .ok (o, m')) : m'.Ample :=
  fun request => (insertBefore_eq_ok eq).1 ▸ ample request

theorem extend_of_amples (ample : m.Ample) (ample' : m'.Ample) {values : List String}
    {o : Outcome Unit} {m₁ : Memory} (eq : c.extend values m = .ok (o, m₁)) :
    ∃ m₁', c.extend values m' = .ok (o, m₁') := by
  induction values generalizing c m m' o with
  | nil =>
    cases eq
    exact ⟨m', rfl⟩
  | cons value rest ih =>
    obtain ⟨first, n, pushed, ending⟩ := extend_cons_eq_ok eq
    obtain ⟨n', pushed'⟩ := insertBefore_of_amples ample ample' pushed
    rcases ending with ⟨r, failed, rfl, -⟩ | ⟨h, others, done, extended, rfl⟩
    · exact ⟨n', extend_of_error pushed' failed⟩
    · obtain ⟨k', extended'⟩ :=
        ih (ample_of_insertBefore ample pushed) (ample_of_insertBefore ample' pushed') extended
      exact ⟨k', extend_of_ok pushed' done extended'⟩

theorem ample_of_extend (ample : m.Ample) {values : List String} {o : Outcome Unit}
    (eq : c.extend values m = .ok (o, m')) : m'.Ample := by
  induction values generalizing c m o with
  | nil =>
    cases eq
    exact ample
  | cons value rest ih =>
    obtain ⟨first, n, pushed, ending⟩ := extend_cons_eq_ok eq
    have left := ample_of_insertBefore ample pushed
    rcases ending with ⟨_, -, -, rfl⟩ | ⟨_, _, -, extended, -⟩
    · exact left
    · exact ih left extended

theorem extend_append_of_error {xs : List String} {o : Outcome Unit} {r : Refusal}
    (eq : c.extend xs m = .ok (o, m')) (failed : o.result = .error r) (ys : List String) :
    c.extend (xs ++ ys) m = .ok (o, m') := by
  induction xs generalizing c m o with
  | nil =>
    cases eq
    cases failed
  | cons value rest ih =>
    obtain ⟨first, n, pushed, ⟨_, refused, rfl, rfl⟩ | ⟨_, others, done, extended, rfl⟩⟩ :=
      extend_cons_eq_ok eq
    · exact extend_of_error pushed refused
    · exact extend_of_ok pushed done (ih extended failed)

theorem extend_append_of_ok {xs ys : List String} {o others : Outcome Unit} {m₁ : Memory}
    (eq : c.extend xs m = .ok (o, m₁)) (done : o.result = .ok ())
    (eq' : o.chain.extend ys m₁ = .ok (others, m')) :
    c.extend (xs ++ ys) m = .ok ({ others with events := o.events ++ others.events }, m') := by
  induction xs generalizing c m o with
  | nil =>
    cases eq
    exact eq'
  | cons value rest ih =>
    obtain ⟨first, n, pushed, ⟨_, refused, rfl, rfl⟩ | ⟨_, middle, pushed', extended, rfl⟩⟩ :=
      extend_cons_eq_ok eq
    · cases done
    · rw [List.append_assoc]
      exact extend_of_ok pushed pushed' (ih extended done eq')

inductive Appends : Chain → Memory → List String → Chain → Memory → Prop where
  | done {c : Chain} {m : Memory} : Appends c m [] c m
  | step {c d : Chain} {m m₁ m₂ : Memory} {value : String} {rest : List String}
      {first : Outcome Handle} {h : Handle} :
      c.pushBack value m = .ok (first, m₁) → first.result = .ok h →
      Appends first.chain m₁ rest d m₂ → Appends c m (value :: rest) d m₂

theorem pushBack_of_refused {first : Outcome Handle} {r : Refusal} (intact : c.Intact l f)
    (ample : m.Ample) (eq : c.pushBack value m = .ok (first, m'))
    (failed : first.result = .error r) : c.policy.Forbids value := by
  by_contra allowed
  have accepted : c.accept none value = .ok none :=
    accept_eq_ok.mpr ⟨Policy.objection?_eq_none_iff_not_forbids.mpr allowed, .inl ⟨rfl, rfl⟩⟩
  obtain ⟨_, _, _, _, _, -, -, -, eq', -⟩ := insertBefore_of_ample intact ample accepted
  cases eq.symm.trans eq'
  cases failed

theorem pushBack_of_ok {first : Outcome Handle} {h : Handle}
    (eq : c.pushBack value m = .ok (first, m')) (done : first.result = .ok h) :
    ¬ c.policy.Forbids value := by
  cases accepted : c.accept none value with
  | error r =>
    cases eq.symm.trans (insertBefore_of_reject accepted m)
    cases done
  | ok place => exact Policy.objection?_eq_none_iff_not_forbids.mp (accept_eq_ok.mp accepted).1

structure Extended (c : Chain) (seq : Listing) (values : List String) (m : Memory) (k : Nat)
    (o : Outcome Unit) (m' : Memory) : Prop where
  shown : ∃ added, o.chain.Shows (seq ++ added) ∧ added.map Prod.snd = values.take k
  ending : ∃ d m₁, c.Appends m (values.take k) d m₁ ∧
    ((k = values.length ∧ o.result = .ok () ∧ o.chain = d ∧ m' = m₁) ∨
      ∃ value refused r, values[k]? = some value ∧ d.pushBack value m₁ = .ok (refused, m') ∧
        refused.result = .error r ∧ o.result = .error r ∧ o.chain = refused.chain)
  unlimited : m.Ample → (∀ value ∈ values.take k, ¬ c.policy.Forbids value) ∧
    ∀ value, values[k]? = some value → c.policy.Forbids value

theorem Holds.extended_none (holds : c.Holds seq) (m : Memory) :
    c.Extended seq [] m 0 ⟨.ok (), c, []⟩ m where
  shown := ⟨[], by simpa using holds.shows, rfl⟩
  ending := ⟨c, m, .done, .inl ⟨rfl, rfl, rfl, rfl⟩⟩
  unlimited _ := by simp

theorem Holds.extended_refused {rest : List String} {first : Outcome Handle} {r : Refusal}
    {m₁ : Memory} (holds : c.Holds seq) (pushed : c.pushBack value m = .ok (first, m₁))
    (failed : first.result = .error r) (holds₁ : first.chain.Holds seq) :
    c.Extended seq (value :: rest) m 0 ⟨.error r, first.chain, first.events⟩ m₁ where
  shown := ⟨[], by simpa using holds₁.shows, rfl⟩
  ending := ⟨c, m, .done, .inr ⟨value, first, r, rfl, pushed, failed, rfl, rfl⟩⟩
  unlimited ample := by
    obtain ⟨l, f, intact, -⟩ := holds
    refine ⟨by simp, ?_⟩
    rintro _ ⟨⟩
    exact pushBack_of_refused intact ample pushed failed

theorem Extended.step {rest : List String} {first : Outcome Handle} {h : Handle} {m₁ : Memory}
    {k : Nat} {others : Outcome Unit} (pushed : c.pushBack value m = .ok (first, m₁))
    (done : first.result = .ok h) (policy : first.chain.policy = c.policy)
    (extended : first.chain.Extended (seq ++ [(h, value)]) rest m₁ k others m') :
    c.Extended seq (value :: rest) m (k + 1)
      { others with events := first.events ++ others.events } m' where
  shown := by
    obtain ⟨added, shows, values⟩ := extended.shown
    refine ⟨(h, value) :: added, by simpa using shows, ?_⟩
    rw [List.map_cons, values, List.take_succ_cons]
  ending := by
    obtain ⟨d, n, appends, ending⟩ := extended.ending
    refine ⟨d, n, .step pushed done appends, ?_⟩
    simpa using ending
  unlimited ample := by
    obtain ⟨allowed, forbidden⟩ := extended.unlimited (ample_of_insertBefore ample pushed)
    rw [policy] at allowed forbidden
    refine ⟨?_, forbidden⟩
    rw [List.take_succ_cons]
    exact List.forall_mem_cons.mpr ⟨pushBack_of_ok pushed done, allowed⟩

theorem Holds.extended (holds : c.Holds seq) (values : List String) (m : Memory) :
    ∃ k o m', c.extend values m = .ok (o, m') ∧ c.Extended seq values m k o m' := by
  induction values generalizing c seq m with
  | nil => exact ⟨0, _, m, rfl, holds.extended_none m⟩
  | cons value rest ih =>
    obtain ⟨first, m₁, seq₁, pushed, step, holds₁, evolves⟩ := insertBefore_step holds none value m
    cases result : first.result with
    | error r =>
      rw [result] at step
      cases step with
      | insertRefused =>
        exact ⟨0, _, m₁, extend_of_error pushed result,
          holds.extended_refused pushed result holds₁⟩
    | ok h =>
      rw [result] at step
      cases step with
      | append =>
        obtain ⟨k, others, m₂, eq, extended⟩ := ih holds₁ m₁
        exact ⟨k + 1, _, m₂, extend_of_ok pushed result eq,
          extended.step pushed result evolves.policy⟩

def Splits (c : Chain) (xs ys : List String) : Prop :=
  ∀ m m₁ m₂ : Memory, m.Ample → m₁.Ample → m₂.Ample →
    ∃ o o₁ m' m₁', c.extend (xs ++ ys) m = .ok (o, m') ∧ c.extend xs m₁ = .ok (o₁, m₁') ∧
      ((∃ r, o₁.result = .error r ∧ o = o₁) ∨
        ∃ o₂ m₂', o₁.result = .ok () ∧ o₁.chain.extend ys m₂ = .ok (o₂, m₂') ∧
          o = { o₂ with events := o₁.events ++ o₂.events })

theorem Holds.splits (holds : c.Holds seq) (xs ys : List String) : c.Splits xs ys := by
  intro m m₁ m₂ ample ample₁ ample₂
  obtain ⟨o₁, m₁', _, eq₁, -, holds₁, -⟩ := extend_step holds xs m₁
  cases result : o₁.result with
  | error r =>
    obtain ⟨m', eq⟩ := extend_of_amples ample₁ ample (extend_append_of_error eq₁ result ys)
    exact ⟨o₁, o₁, m', m₁', eq, eq₁, .inl ⟨r, result, rfl⟩⟩
  | ok done =>
    obtain ⟨o₂, m₂', _, eq₂, -⟩ := extend_step holds₁ ys m₂
    obtain ⟨n, eq₂'⟩ := extend_of_amples ample₂ (ample_of_extend ample₁ eq₁) eq₂
    obtain ⟨m', eq⟩ := extend_of_amples ample₁ ample (extend_append_of_ok eq₁ result eq₂')
    exact ⟨_, o₁, m', m₁', eq, eq₁, .inr ⟨o₂, m₂', result, eq₂, rfl⟩⟩

theorem extensions_take_what_they_can (id : ChainId) (policy : Policy) (actions : List Action) :
    ∃ c seq, (Chain.empty id policy).run actions = .ok c ∧ c.Shows seq ∧
      (∀ values m, ∃ k o m', c.extend values m = .ok (o, m') ∧
        c.Extended seq values m k o m') ∧
      ∀ xs ys, c.Splits xs ys := by
  obtain ⟨c, l, f, eq, intact⟩ := run_intact (empty_intact id policy) actions
  obtain ⟨seq, holds⟩ := intact.holds
  exact ⟨c, seq, eq, holds.shows, holds.extended, holds.splits⟩

end Chain
end StringChain
