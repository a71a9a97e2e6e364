import StringChain.Proofs.Listing
import StringChain.Proofs.Rank

namespace StringChain

inductive Listing.Step : Listing → Call → Except Refusal Reply → Listing → Prop where
  | append {seq : Listing} {v : String} {h : Handle} :
      Step seq (.insertBefore none v) (.ok (.handle h)) (seq ++ [(h, v)])
  | insert {before after : Listing} {t h : Handle} {w v : String} :
      Step (before ++ (t, w) :: after) (.insertBefore (some t) v) (.ok (.handle h))
        (before ++ (h, v) :: (t, w) :: after)
  | insertRefused {seq : Listing} {target : Option Handle} {v : String} {r : Refusal} :
      Step seq (.insertBefore target v) (.error r) seq
  | bytes {seq seq' : Listing} {target : Option Handle} {bytes : ByteArray} {v : String}
      {result : Except Refusal Reply} :
      String.fromUTF8? (Text.untilNul bytes) = some v →
      Step seq (.insertBefore target v) result seq' →
      Step seq (.insertBytes target bytes) result seq'
  | bytesRefused {seq : Listing} {target : Option Handle} {bytes : ByteArray} {r : Refusal} :
      String.fromUTF8? (Text.untilNul bytes) = none →
      Step seq (.insertBytes target bytes) (.error r) seq
  | pushBack {seq seq' : Listing} {v : String} {result : Except Refusal Reply} :
      Step seq (.insertBefore none v) result seq' → Step seq (.pushBack v) result seq'
  | pushFront {seq : Listing} {v : String} {h : Handle} :
      Step seq (.pushFront v) (.ok (.handle h)) ((h, v) :: seq)
  | pushFrontRefused {seq : Listing} {v : String} {r : Refusal} :
      Step seq (.pushFront v) (.error r) seq
  | extendDone {seq : Listing} : Step seq (.extend []) (.ok .done) seq
  | extendNext {seq seq₁ seq₂ : Listing} {v : String} {rest : List String} {h : Handle}
      {result : Except Refusal Reply} :
      Step seq (.pushBack v) (.ok (.handle h)) seq₁ → Step seq₁ (.extend rest) result seq₂ →
      Step seq (.extend (v :: rest)) result seq₂
  | extendStopped {seq : Listing} {v : String} {rest : List String} {r : Refusal} :
      Step seq (.pushBack v) (.error r) seq → Step seq (.extend (v :: rest)) (.error r) seq
  | remove {before after : Listing} {h : Handle} {v : String} :
      Step (before ++ (h, v) :: after) (.remove h) (.ok (.value v)) (before ++ after)
  | removeRefused {seq : Listing} {h : Handle} {r : Refusal} :
      h ∉ seq.map Prod.fst → Step seq (.remove h) (.error r) seq
  | delete {before after : Listing} {h : Handle} {v : String} :
      Step (before ++ (h, v) :: after) (.delete (some h)) (.ok .done) (before ++ after)
  | deleteRefused {seq : Listing} {h : Handle} {r : Refusal} :
      h ∉ seq.map Prod.fst → Step seq (.delete (some h)) (.error r) seq
  | deleteNone {seq : Listing} : Step seq (.delete none) (.ok .done) seq
  | clear {seq : Listing} : Step seq .clear (.ok .done) []

def Call.elementary : Call → Bool
  | insertBefore _ _ => true
  | insertBytes _ _ => false
  | pushBack _ => true
  | pushFront _ => true
  | extend _ => false
  | delete _ => true
  | remove _ => true
  | clear => true

namespace Chain

def Holds (c : Chain) (seq : Listing) : Prop := ∃ l f, c.Intact l f ∧ c.Lists l seq

variable {c d : Chain} {l f : List Nat} {seq : Listing}

theorem pair?_of_cell? {i : Nat} (id : d.id = c.id) (cell : d.cell? i = c.cell? i) :
    d.pair? i = c.pair? i := by
  unfold pair?
  rw [cell, id]

theorem Holds.shows (h : c.Holds seq) : c.Shows seq := by
  obtain ⟨l, f, intact, lists⟩ := h
  exact intact.shows lists

theorem Intact.holds (h : c.Intact l f) : ∃ seq, c.Holds seq := by
  obtain ⟨seq, lists⟩ := h.exists_listing
  exact ⟨seq, l, f, h, lists⟩

theorem holds_empty (id : ChainId) (policy : Policy) : (Chain.empty id policy).Holds [] :=
  ⟨[], [], empty_intact id policy, rfl⟩

theorem Holds.withCapacity (h : c.Holds seq) (n : Nat) : (c.withCapacity n).Holds seq := by
  obtain ⟨l, f, intact, lists⟩ := h
  exact ⟨l, f, withCapacity_intact intact n, lists⟩

theorem pair?_copy (c : Chain) (id : ChainId) (i : Nat) :
    (c.copy id).pair? i = (c.pair? i).map fun p => ({ p.1 with chain := id }, p.2) := by
  have same : (c.copy id).cell? i = c.cell? i := rfl
  unfold pair?
  rw [same]
  split <;> rfl

theorem Holds.copy (h : c.Holds seq) (id : ChainId) :
    (c.copy id).Holds (seq.map fun p => ({ p.1 with chain := id }, p.2)) := by
  obtain ⟨l, f, intact, lists⟩ := h
  refine ⟨l, f, copy_intact intact id, ?_⟩
  have renamed := congrArg (List.map (Option.map fun p => ({ p.1 with chain := id }, p.2))) lists
  rw [Lists, funext (pair?_copy c id)]
  simpa [Function.comp_def] using renamed

theorem insertBefore_listing (intact : c.Intact l f) (lists : c.Lists l seq)
    (target : Option Handle) (value : String) (m : Memory) :
    (∃ r n m', c.insertBefore target value m = .ok ((c.withCapacity n).rejectInsert r, m')) ∨
    ∃ before after s t d events m', l = before ++ after ∧ seq = s ++ t ∧ c.Lists before s ∧
      c.Lists after t ∧ c.accept target value = .ok after.head? ∧
      c.insertBefore target value m = .ok (⟨.ok c.upcomingHandle, d, events⟩, m') ∧
      d.Holds (s ++ (c.upcomingHandle, value) :: t) ∧ c.Evolves d := by
  rcases insertBefore_cases intact target value m with
    ⟨r, n, m', eq, -⟩ | ⟨before, after, n, d, m', rfl, accepted, eq, intact', becomes⟩
  · exact .inl ⟨r, n, m', eq⟩
  · obtain ⟨s, t, rfl, hs, ht⟩ := Lists.append_iff.mp lists
    have others : ∀ j ∈ before ++ after, d.pair? j = c.pair? j := by
      intro j hj
      have hne : j ≠ c.arena.upcoming := fun e => intact.upcoming_not_mem (e ▸ hj)
      refine pair?_of_cell? becomes.id ?_
      rw [becomes.cells, Function.update_of_ne hne]
    have new : d.pair? c.arena.upcoming = some (c.upcomingHandle, value) := by
      refine pair?_eq_some.mpr ⟨becomes.id.symm, rfl, ?_⟩
      rw [becomes.cells]
      exact Function.update_self _ _ _
    have lists' : d.Lists (before ++ c.arena.upcoming :: after)
        (s ++ (c.upcomingHandle, value) :: t) := by
      refine Lists.append_iff.mpr ⟨s, _, rfl, ?_, Lists.cons_iff.mpr ⟨_, t, rfl, new, ?_⟩⟩
      · exact hs.congr fun j hj => others j (List.mem_append_left after hj)
      · exact ht.congr fun j hj => others j (List.mem_append_right before hj)
    exact .inr ⟨before, after, s, t, d, _, m', rfl, rfl, hs, ht, accepted, eq,
      ⟨_, _, intact', lists'⟩, intact.evolves_insert becomes⟩

theorem insertBefore_step (h : c.Holds seq) (target : Option Handle) (value : String)
    (m : Memory) :
    ∃ o m' seq', c.insertBefore target value m = .ok (o, m') ∧
      Listing.Step seq (.insertBefore target value) (o.result.map .handle) seq' ∧
      o.chain.Holds seq' ∧ c.Evolves o.chain := by
  obtain ⟨l, f, intact, lists⟩ := h
  rcases insertBefore_listing intact lists target value m with
    ⟨r, n, m', eq⟩ | ⟨before, after, s, t, d, _, m', rfl, rfl, -, ht, accepted, eq, holds, evolves⟩
  · exact ⟨_, m', seq, eq, .insertRefused, Holds.withCapacity ⟨l, f, intact, lists⟩ n,
      .withCapacity c n⟩
  · refine ⟨_, m', _, eq, ?_, holds, evolves⟩
    obtain ⟨-, ⟨rfl, place⟩ | ⟨k, i, rfl, resolved, place⟩⟩ := accept_eq_ok.mp accepted
    · obtain rfl : after = [] := List.head?_eq_none_iff.mp place
      obtain rfl : t = [] := Lists.nil_iff.mp ht
      rw [List.append_nil]
      exact .append
    · obtain ⟨rest, rfl⟩ := List.head?_eq_some_iff.mp place
      obtain ⟨p, t, rfl, hp, -⟩ := Lists.cons_iff.mp ht
      obtain ⟨rfl, w, hw⟩ := resolve_eq_ok_iff_pair?.mp resolved
      obtain rfl : p = (k, w) := Option.some.inj (hp.symm.trans hw)
      exact .insert

theorem pushFront_step (h : c.Holds seq) (value : String) (m : Memory) :
    ∃ o m' seq', c.pushFront value m = .ok (o, m') ∧
      Listing.Step seq (.pushFront value) (o.result.map .handle) seq' ∧
      o.chain.Holds seq' ∧ c.Evolves o.chain := by
  obtain ⟨l, f, intact, lists⟩ := h
  obtain ⟨target, front, head⟩ := pushFront_eq intact value m
  rw [front]
  rcases insertBefore_listing intact lists target value m with
    ⟨r, n, m', eq⟩ | ⟨before, after, s, t, d, _, m', rfl, rfl, hs, -, accepted, eq, holds, evolves⟩
  · exact ⟨_, m', seq, eq, .pushFrontRefused, Holds.withCapacity ⟨l, f, intact, lists⟩ n,
      .withCapacity c n⟩
  · refine ⟨_, m', _, eq, ?_, holds, evolves⟩
    have place : (before ++ after).head? = after.head? := by
      cases ha : c.accept none value with
      | error r => simp [head, ha, Except.map] at accepted
      | ok _ => simpa [head, ha, Except.map] using accepted
    obtain rfl : before = [] := by
      by_contra hb
      have cut := neighbours_ne_of_cut (b := []) (a := before ++ after) intact.nodup rfl
        (Ne.symm hb)
      exact cut.2 place
    obtain rfl : s = [] := Lists.nil_iff.mp hs
    exact .pushFront

theorem insertBytes_step (h : c.Holds seq) (target : Option Handle) (bytes : ByteArray)
    (m : Memory) :
    ∃ o m' seq', c.insertBytes target bytes m = .ok (o, m') ∧
      Listing.Step seq (.insertBytes target bytes) (o.result.map .handle) seq' ∧
      o.chain.Holds seq' ∧ c.Evolves o.chain := by
  cases hb : String.fromUTF8? (Text.untilNul bytes) with
  | none => exact ⟨_, m, seq, insertBytes_of_none hb target m, .bytesRefused hb, h, .refl c⟩
  | some value =>
    obtain ⟨o, m', seq', eq, step, holds, evolves⟩ := insertBefore_step h target value m
    exact ⟨o, m', seq', (insertBytes_of_some hb target m).trans eq, .bytes hb step, holds,
      evolves⟩

theorem extend_step (h : c.Holds seq) (values : List String) (m : Memory) :
    ∃ o m' seq', c.extend values m = .ok (o, m') ∧
      Listing.Step seq (.extend values) (o.result.map fun _ => .done) seq' ∧
      o.chain.Holds seq' ∧ c.Evolves o.chain := by
  induction values generalizing c seq m with
  | nil => exact ⟨_, m, seq, rfl, .extendDone, h, .refl c⟩
  | cons value rest ih =>
    obtain ⟨first, m₁, seq₁, eq, step, holds, evolves⟩ := insertBefore_step h none value m
    cases hr : first.result with
    | error r =>
      rw [hr] at step
      refine ⟨_, m₁, seq₁, extend_of_error eq hr, ?_, holds, evolves⟩
      cases step
      exact .extendStopped (.pushBack .insertRefused)
    | ok k =>
      rw [hr] at step
      obtain ⟨others, m₂, seq₂, eq', step', holds', evolves'⟩ := ih holds m₁
      exact ⟨_, m₂, seq₂, extend_of_ok eq hr eq', .extendNext (.pushBack step) step', holds',
        evolves.trans evolves'⟩

theorem remove_step (h : c.Holds seq) (k : Handle) :
    ∃ o seq', c.remove k = .ok o ∧
      Listing.Step seq (.remove k) (o.result.map .value) seq' ∧
      o.chain.Holds seq' ∧ c.Evolves o.chain := by
  obtain ⟨l, f, intact, lists⟩ := h
  rcases remove_cases intact k with
    ⟨r, unresolved, eq⟩ | ⟨before, after, d, v, rfl, own, cell, eq, intact', becomes⟩
  · refine ⟨_, seq, eq, .removeRefused ?_, ⟨l, f, intact, lists⟩, .refl c⟩
    intro inside
    rw [(intact.resolve_iff lists).mpr ⟨rfl, inside⟩] at unresolved
    cases unresolved
  · obtain ⟨s, t', rfl, hs, ht'⟩ := Lists.append_iff.mp lists
    obtain ⟨p, t, rfl, hp, ht⟩ := Lists.cons_iff.mp ht'
    obtain rfl : p = (k, v) :=
      Option.some.inj (hp.symm.trans (pair?_eq_some.mpr ⟨own, rfl, cell⟩))
    obtain ⟨gone, -⟩ := List.nodup_cons.mp (List.nodup_middle.mp intact.nodup)
    have others : ∀ j ∈ before ++ after, d.pair? j = c.pair? j := by
      intro j hj
      have hne : j ≠ k.index := fun e => gone (e ▸ hj)
      refine pair?_of_cell? becomes.id ?_
      rw [becomes.cells, Function.update_of_ne hne]
    have lists' : d.Lists (before ++ after) (s ++ t) := by
      refine Lists.append_iff.mpr ⟨s, t, rfl, ?_, ?_⟩
      · exact hs.congr fun j hj => others j (List.mem_append_left after hj)
      · exact ht.congr fun j hj => others j (List.mem_append_right before hj)
    exact ⟨_, s ++ t, eq, .remove, ⟨_, _, intact', lists'⟩, evolves_remove cell becomes⟩

theorem Holds.remove_mem {h : Handle} {v : String} (holds : c.Holds seq) (inside : (h, v) ∈ seq) :
    ∃ before after d events, seq = before ++ (h, v) :: after ∧
      c.remove h = .ok ⟨.ok v, d, events⟩ ∧ d.Holds (before ++ after) ∧ c.Evolves d := by
  have value := (holds.shows.get h v).mpr inside
  obtain ⟨⟨result, d, events⟩, seq', eq, step, holds', evolves⟩ := remove_step holds h
  cases result with
  | error r =>
    cases step with
    | removeRefused outside => exact absurd (List.mem_map_of_mem inside) outside
  | ok w =>
    cases step with
    | @remove before after _ _ =>
      have found : c.get? h = some w := (holds.shows.get h w).mpr (by simp)
      obtain rfl : w = v := Option.some.inj (found.symm.trans value)
      exact ⟨before, after, d, events, rfl, eq, holds', evolves⟩

theorem delete_step (h : c.Holds seq) (target : Option Handle) :
    ∃ o seq', c.delete target = .ok o ∧
      Listing.Step seq (.delete target) (o.result.map fun _ => .done) seq' ∧
      o.chain.Holds seq' ∧ c.Evolves o.chain := by
  cases target with
  | none => exact ⟨_, seq, rfl, .deleteNone, h, .refl c⟩
  | some k =>
    obtain ⟨o, seq', eq, step, holds, evolves⟩ := remove_step h k
    refine ⟨o.map fun _ => (), seq', by simp [delete, eq, bind, Except.bind], ?_, holds, evolves⟩
    cases hr : o.result with
    | error r =>
      rw [hr] at step
      simp only [Outcome.map, hr]
      cases step with
      | removeRefused outside => exact .deleteRefused outside
    | ok v =>
      rw [hr] at step
      simp only [Outcome.map, hr]
      cases step with
      | remove => exact .delete

theorem perform_step (h : c.Holds seq) (call : Call) (m : Memory) :
    ∃ o m' seq', c.perform call m = .ok (o, m') ∧ Listing.Step seq call o.result seq' ∧
      o.chain.Holds seq' ∧ c.Evolves o.chain := by
  cases call with
  | insertBefore target value =>
    obtain ⟨o, m', seq', eq, after⟩ := insertBefore_step h target value m
    exact ⟨o.map .handle, m', seq', by simp [perform, perform.issued, eq, bind, Except.bind], after⟩
  | insertBytes target bytes =>
    obtain ⟨o, m', seq', eq, after⟩ := insertBytes_step h target bytes m
    exact ⟨o.map .handle, m', seq', by simp [perform, perform.issued, eq, bind, Except.bind], after⟩
  | pushBack value =>
    obtain ⟨o, m', seq', eq, step, after⟩ := insertBefore_step h none value m
    exact ⟨o.map .handle, m', seq',
      by simp [perform, perform.issued, pushBack, eq, bind, Except.bind], .pushBack step, after⟩
  | pushFront value =>
    obtain ⟨o, m', seq', eq, after⟩ := pushFront_step h value m
    exact ⟨o.map .handle, m', seq', by simp [perform, perform.issued, eq, bind, Except.bind], after⟩
  | extend values =>
    obtain ⟨o, m', seq', eq, after⟩ := extend_step h values m
    exact ⟨o.map fun _ => .done, m', seq', by simp [perform, eq, bind, Except.bind], after⟩
  | delete target =>
    obtain ⟨o, seq', eq, after⟩ := delete_step h target
    exact ⟨o.map fun _ => .done, m, seq', by simp [perform, eq, bind, Except.bind], after⟩
  | remove k =>
    obtain ⟨o, seq', eq, after⟩ := remove_step h k
    exact ⟨o.map .value, m, seq', by simp [perform, eq, bind, Except.bind], after⟩
  | clear =>
    obtain ⟨l, f, intact, -⟩ := h
    obtain ⟨intact', becomes⟩ := clear_intact intact
    exact ⟨_, m, [], rfl, .clear, ⟨[], _, intact', rfl⟩, evolves_clear becomes⟩

theorem perform_intact (intact : c.Intact l f) (call : Call) (m : Memory) :
    ∃ o m' l' f', c.perform call m = .ok (o, m') ∧ o.chain.Intact l' f' := by
  obtain ⟨seq, holds⟩ := intact.holds
  obtain ⟨o, m', _, eq, -, ⟨l', f', intact', -⟩, -⟩ := perform_step holds call m
  exact ⟨o, m', l', f', eq, intact'⟩

def Denies (c : Chain) (seq : Listing) (m : Memory) : Call → Prop
  | .insertBefore target value =>
    (∃ h ∈ target, h ∉ seq.map Prod.fst) ∨ c.policy.objection? value ≠ none ∨ ¬ m.Ample
  | .pushBack value => c.policy.objection? value ≠ none ∨ ¬ m.Ample
  | .pushFront value => c.policy.objection? value ≠ none ∨ ¬ m.Ample
  | .delete target => ∃ h ∈ target, h ∉ seq.map Prod.fst
  | .remove h => h ∉ seq.map Prod.fst
  | .insertBytes _ _ => False
  | .extend _ => False
  | .clear => False

theorem objection?_of_accept_none {value : String} {r : Refusal}
    (rejected : c.accept none value = .error r) : c.policy.objection? value ≠ none := by
  intro clean
  cases rejected.symm.trans (accept_eq_ok.mpr ⟨clean, .inl ⟨rfl, rfl⟩⟩)

theorem Holds.denies_insertBefore (h : c.Holds seq) {target : Option Handle} {value : String}
    {m m' : Memory} {o : Outcome Handle} {r : Refusal}
    (eq : c.insertBefore target value m = .ok (o, m')) (failed : o.result = .error r) :
    c.Denies seq m (.insertBefore target value) := by
  obtain ⟨l, f, intact, lists⟩ := h
  rcases insertBefore_cases intact target value m with
    ⟨_, _, _, -, -, rejected | refused⟩ | ⟨_, _, _, _, _, -, -, eq', -⟩
  · by_cases clean : c.policy.objection? value = none
    · cases target with
      | none => exact absurd clean (objection?_of_accept_none rejected)
      | some k =>
        refine .inl ⟨k, rfl, fun inside => ?_⟩
        have resolved := (intact.resolve_iff lists).mpr ⟨rfl, inside⟩
        cases rejected.symm.trans (accept_eq_ok.mpr ⟨clean, .inr ⟨k, _, rfl, resolved, rfl⟩⟩)
    · exact .inr (.inl clean)
  · exact .inr (.inr (Memory.not_ample refused))
  · cases eq.symm.trans eq'
    cases failed

theorem Holds.denies_pushFront (h : c.Holds seq) {value : String} {m m' : Memory}
    {o : Outcome Handle} {r : Refusal} (eq : c.pushFront value m = .ok (o, m'))
    (failed : o.result = .error r) : c.Denies seq m (.pushFront value) := by
  obtain ⟨l, f, intact, -⟩ := h
  obtain ⟨target, front, accepted⟩ := pushFront_eq intact value m
  rcases insertBefore_cases intact target value m with
    ⟨_, _, _, -, -, rejected | refused⟩ | ⟨_, _, _, _, _, -, -, eq', -⟩
  · cases unplaced : c.accept none value with
    | error r => exact .inl (objection?_of_accept_none unplaced)
    | ok place =>
      rw [accepted, unplaced] at rejected
      cases rejected
  · exact .inr (Memory.not_ample refused)
  · cases (front.symm.trans eq).symm.trans eq'
    cases failed

theorem Holds.denies (h : c.Holds seq) {call : Call} (elementary : call.elementary = true)
    {m m' : Memory} {o : Outcome Reply} {seq' : Listing} {r : Refusal}
    (eq : c.perform call m = .ok (o, m')) (step : Listing.Step seq call o.result seq')
    (failed : o.result = .error r) : c.Denies seq m call := by
  cases call with
  | insertBefore target value =>
    obtain ⟨first, inserted, rfl⟩ := issued_eq_ok eq
    exact h.denies_insertBefore inserted (Outcome.error_of_map failed)
  | pushBack value =>
    obtain ⟨first, inserted, rfl⟩ := issued_eq_ok eq
    obtain ⟨_, none, -⟩ | denied := h.denies_insertBefore inserted (Outcome.error_of_map failed)
    · cases none
    · exact denied
  | pushFront value =>
    obtain ⟨first, inserted, rfl⟩ := issued_eq_ok eq
    exact h.denies_pushFront inserted (Outcome.error_of_map failed)
  | delete target =>
    rw [failed] at step
    cases step with
    | deleteRefused outside => exact ⟨_, rfl, outside⟩
  | remove k =>
    rw [failed] at step
    cases step with
    | removeRefused outside => exact outside
  | clear =>
    rw [failed] at step
    cases step
  | insertBytes target bytes => cases elementary
  | extend values => cases elementary

-- A byte string and a list of values by the insertions they come down to, in the same states.
inductive Performs : Chain → Listing → Call → Memory → Outcome Reply → Memory → Listing →
    Prop where
  | single {c : Chain} {seq seq' : Listing} {call : Call} {m m' : Memory} {o : Outcome Reply} :
      call.elementary = true → c.perform call m = .ok (o, m') →
      Listing.Step seq call o.result seq' → (∀ r, o.result = .error r → c.Denies seq m call) →
      Performs c seq call m o m' seq'
  | bytes {c : Chain} {seq seq' : Listing} {target : Option Handle} {bytes : ByteArray}
      {value : String} {m m' : Memory} {o : Outcome Reply} :
      String.fromUTF8? (Text.untilNul bytes) = some value →
      Performs c seq (.insertBefore target value) m o m' seq' →
      Performs c seq (.insertBytes target bytes) m o m' seq'
  | bytesRefused {c : Chain} {seq : Listing} {target : Option Handle} {bytes : ByteArray}
      {m : Memory} :
      String.fromUTF8? (Text.untilNul bytes) = none →
      Performs c seq (.insertBytes target bytes) m
        ⟨.error (.invalidArgument (.notUtf8 (Text.validUpTo (Text.untilNul bytes)))), c, []⟩ m seq
  | extendDone {c : Chain} {seq : Listing} {m : Memory} :
      Performs c seq (.extend []) m ⟨.ok .done, c, []⟩ m seq
  | extendNext {c : Chain} {seq seq₁ seq₂ : Listing} {value : String} {rest : List String}
      {m m₁ m₂ : Memory} {first others : Outcome Reply} {reply : Reply} :
      Performs c seq (.pushBack value) m first m₁ seq₁ → first.result = .ok reply →
      Performs first.chain seq₁ (.extend rest) m₁ others m₂ seq₂ →
      Performs c seq (.extend (value :: rest)) m
        { others with events := first.events ++ others.events } m₂ seq₂
  | extendStopped {c : Chain} {seq seq₁ : Listing} {value : String} {rest : List String}
      {m m₁ : Memory} {first : Outcome Reply} {r : Refusal} :
      Performs c seq (.pushBack value) m first m₁ seq₁ → first.result = .error r →
      Performs c seq (.extend (value :: rest)) m ⟨.error r, first.chain, first.events⟩ m₁ seq₁

theorem Holds.performs_single (h : c.Holds seq) {call : Call} (elementary : call.elementary = true)
    (m : Memory) :
    ∃ o m' seq', c.perform call m = .ok (o, m') ∧ c.Performs seq call m o m' seq' ∧
      o.chain.Holds seq' := by
  obtain ⟨o, m', seq', eq, step, holds, -⟩ := perform_step h call m
  exact ⟨o, m', seq', eq,
    .single elementary eq step fun _ failed => h.denies elementary eq step failed, holds⟩

theorem Holds.performs_extend (h : c.Holds seq) (values : List String) (m : Memory) :
    ∃ o m' seq', c.perform (.extend values) m = .ok (o, m') ∧
      c.Performs seq (.extend values) m o m' seq' ∧ o.chain.Holds seq' := by
  induction values generalizing c seq m with
  | nil => exact ⟨_, m, seq, rfl, .extendDone, h⟩
  | cons value rest ih =>
    obtain ⟨first, m₁, seq₁, eq, pushed, holds⟩ :=
      h.performs_single (rfl : (Call.pushBack value).elementary = true) m
    cases result : first.result with
    | error r =>
      exact ⟨_, m₁, seq₁, perform_extend_of_error eq result, .extendStopped pushed result, holds⟩
    | ok reply =>
      obtain ⟨others, m₂, seq₂, eq', extended, holds'⟩ := ih holds m₁
      exact ⟨_, m₂, seq₂, perform_extend_of_ok eq result eq', .extendNext pushed result extended,
        holds'⟩

theorem Holds.performs (h : c.Holds seq) (call : Call) (m : Memory) :
    ∃ o m' seq', c.perform call m = .ok (o, m') ∧ c.Performs seq call m o m' seq' ∧
      o.chain.Holds seq' := by
  cases call with
  | insertBytes target bytes =>
    cases read : String.fromUTF8? (Text.untilNul bytes) with
    | none => exact ⟨_, m, seq, perform_misread read m, .bytesRefused read, h⟩
    | some value =>
      obtain ⟨o, m', seq', eq, performed, holds⟩ :=
        h.performs_single (rfl : (Call.insertBefore target value).elementary = true) m
      exact ⟨o, m', seq', (perform_insertBytes_of_some read m).trans eq, .bytes read performed,
        holds⟩
  | extend values => exact h.performs_extend values m
  | _ => exact h.performs_single rfl m

inductive Follows : Chain → Listing → List (Call × Memory) → Prop where
  | done {c : Chain} {seq : Listing} : c.Shows seq → Follows c seq []
  | step {c : Chain} {seq seq' : Listing} {call : Call} {m m' : Memory} {o : Outcome Reply}
      {rest : List (Call × Memory)} :
      c.Shows seq → c.perform call m = .ok (o, m') → c.Performs seq call m o m' seq' →
      Follows o.chain seq' rest → Follows c seq ((call, m) :: rest)

theorem Holds.follows (h : c.Holds seq) (calls : List (Call × Memory)) : c.Follows seq calls := by
  induction calls generalizing c seq with
  | nil => exact .done h.shows
  | cons entry rest ih =>
    obtain ⟨call, m⟩ := entry
    obtain ⟨o, m', seq', eq, performed, holds⟩ := h.performs call m
    exact .step h.shows eq performed (ih holds)

theorem calls_follow_listing (id : ChainId) (policy : Policy) (calls : List (Call × Memory)) :
    (Chain.empty id policy).Follows [] calls :=
  (holds_empty id policy).follows calls

end Chain
end StringChain
