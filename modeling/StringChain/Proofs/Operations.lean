import StringChain.Chain.Call
import StringChain.Proofs.Intact

namespace StringChain

def Memory.Ample (m : Memory) : Prop := ∀ request, m.grants request = true

theorem Memory.not_ample {m : Memory} (refused : ∃ request, m.grants request = false) :
    ¬ m.Ample := by
  obtain ⟨request, no⟩ := refused
  intro ample
  cases (ample request).symm.trans no

namespace Outcome

variable {α β : Type} {g : α → β} {o : Outcome α}

theorem error_of_map {r : Refusal} (h : (o.map g).result = .error r) : o.result = .error r := by
  cases ho : o.result with
  | error r' => simpa [Outcome.map, ho, Except.map] using h
  | ok x => simp [Outcome.map, ho, Except.map] at h

theorem ok_of_map {y : β} (h : (o.map g).result = .ok y) : ∃ x, o.result = .ok x ∧ g x = y := by
  cases ho : o.result with
  | error r => simp [Outcome.map, ho, Except.map] at h
  | ok x => exact ⟨x, rfl, by simpa [Outcome.map, ho, Except.map] using h⟩

end Outcome

namespace Chain

variable {c d : Chain} {l f : List Nat}

theorem accept_eq_ok {target : Option Handle} {value : String} {place : Option Nat} :
    c.accept target value = .ok place ↔ c.policy.objection? value = none ∧
      ((target = none ∧ place = none) ∨
        ∃ h i, target = some h ∧ c.resolve h = .ok i ∧ place = some i) := by
  cases target with
  | none =>
    cases ho : c.policy.objection? value <;> simp [accept, ho, bind, Except.bind, eq_comm]
  | some h =>
    cases hr : c.resolve h with
    | error r => simp [accept, hr, Functor.map, Except.map, bind, Except.bind]
    | ok i =>
      cases ho : c.policy.objection? value <;>
        simp [accept, hr, ho, Functor.map, Except.map, bind, Except.bind, eq_comm]

theorem reserve?_withCapacity {a : Arena Node} {m m' : Memory}
    (h : c.arena.reserve? m = some (a, m')) :
    { c with arena := a } = c.withCapacity a.capacity ∧ a.hasRoom = true := by
  obtain ⟨slots, free, room⟩ := Arena.reserve?_eq_some h
  obtain ⟨slots', free', capacity⟩ := a
  subst slots free
  exact ⟨rfl, room⟩

namespace Intact

theorem mem_of_resolve {h : Handle} {i : Nat} (intact : c.Intact l f) (hr : c.resolve h = .ok i) :
    i ∈ l := by
  obtain ⟨-, rfl, v, hv⟩ := resolve_eq_ok_iff.mp hr
  exact (intact.live _).mpr ⟨v, valueAt?_eq_some_iff.mpr ⟨_, hv⟩⟩

theorem cut_of_accept {target : Option Handle} {value : String} {place : Option Nat}
    (intact : c.Intact l f) (h : c.accept target value = .ok place) :
    ∃ before after, l = before ++ after ∧ place = after.head? := by
  obtain ⟨-, ⟨-, rfl⟩ | ⟨h, i, -, hi, rfl⟩⟩ := accept_eq_ok.mp h
  · exact ⟨l, [], by simp, rfl⟩
  · obtain ⟨before, after, rfl⟩ := List.append_of_mem (intact.mem_of_resolve hi)
    exact ⟨before, i :: after, rfl, rfl⟩

end Intact

inductive Ends (c : Chain) (l f : List Nat) (target : Option Handle) (value : String) (m : Memory) :
    Outcome Handle → Memory → Prop where
  | unaccepted {r : Refusal} : c.accept target value = .error r →
      Ends c l f target value m (c.rejectInsert r) m
  | noNode {place : Option Nat} : c.accept target value = .ok place →
      c.arena.reserve? m = none → Ends c l f target value m (c.rejectInsert .nodeAllocation) m
  | noValue {place : Option Nat} {a : Arena Node} {m₁ : Memory} :
      c.accept target value = .ok place → c.arena.reserve? m = some (a, m₁) →
      m₁.hold? value.utf8ByteSize = none →
      Ends c l f target value m
        ((c.withCapacity a.capacity).rejectInsert (.valueAllocation value.utf8ByteSize)) m₁
  | linked {before after : List Nat} {a : Arena Node} {m₁ m₂ : Memory} {d : Chain} :
      l = before ++ after → c.accept target value = .ok after.head? →
      c.arena.reserve? m = some (a, m₁) → m₁.hold? value.utf8ByteSize = some m₂ →
      d.Intact (before ++ c.arena.upcoming :: after) f.tail →
      (c.withCapacity a.capacity).Becomes d (Function.update c.cell? c.arena.upcoming
        (some ⟨c.upcomingGeneration, .occupied value⟩)) →
      Ends c l f target value m
        ⟨.ok c.upcomingHandle, d, [.inserted c.arena.upcoming d.size]⟩ m₂

theorem insertBefore_ends (intact : c.Intact l f) (target : Option Handle) (value : String)
    (m : Memory) :
    ∃ o m', c.insertBefore target value m = .ok (o, m') ∧ Ends c l f target value m o m' := by
  cases ha : c.accept target value with
  | error r => exact ⟨_, m, by simp [insertBefore, ha], .unaccepted ha⟩
  | ok place =>
    cases hr : c.arena.reserve? m with
    | none => exact ⟨_, m, by simp [insertBefore, ha, hr], .noNode ha hr⟩
    | some reserved =>
      obtain ⟨a, m₁⟩ := reserved
      obtain ⟨grown, room⟩ := reserve?_withCapacity hr
      cases hh : m₁.hold? value.utf8ByteSize with
      | none => exact ⟨_, m₁, by simp [insertBefore, ha, hr, hh, grown], .noValue ha hr hh⟩
      | some m₂ =>
        obtain ⟨before, after, rfl, rfl⟩ := intact.cut_of_accept ha
        have hroom : (c.withCapacity a.capacity).arena.hasRoom = true := grown ▸ room
        obtain ⟨d, hd, intact', becomes⟩ :=
          link_intact (withCapacity_intact intact a.capacity) hroom value
        have cell : d.cell? c.arena.upcoming = some ⟨c.upcomingGeneration, .occupied value⟩ := by
          rw [becomes.cells]
          exact Function.update_self _ _ _
        have handle : d.handleAt c.arena.upcoming = .ok c.upcomingHandle := by
          rw [handleAt_of_cell? cell, becomes.id]
          rfl
        have linked : (c.withCapacity a.capacity).link after.head? value =
          .ok (d, c.arena.upcoming) := hd
        refine ⟨_, m₂, ?_, .linked rfl ha hr hh intact' becomes⟩
        simp [insertBefore, ha, hr, hh, grown, linked, handle, bind, Except.bind]

theorem insertBefore_cases (intact : c.Intact l f) (target : Option Handle) (value : String)
    (m : Memory) :
    (∃ r n m', c.insertBefore target value m = .ok ((c.withCapacity n).rejectInsert r, m') ∧
      (n = c.arena.capacity ∨ r = .valueAllocation value.utf8ByteSize) ∧
      (c.accept target value = .error r ∨ ∃ request, m.grants request = false)) ∨
    ∃ before after n d m', l = before ++ after ∧ c.accept target value = .ok after.head? ∧
      c.insertBefore target value m =
        .ok (⟨.ok c.upcomingHandle, d, [.inserted c.arena.upcoming d.size]⟩, m') ∧
      d.Intact (before ++ c.arena.upcoming :: after) f.tail ∧
      (c.withCapacity n).Becomes d (Function.update c.cell? c.arena.upcoming
        (some ⟨c.upcomingGeneration, .occupied value⟩)) := by
  obtain ⟨o, m', eq, ends⟩ := insertBefore_ends intact target value m
  cases ends with
  | unaccepted rejected =>
    exact .inl ⟨_, c.arena.capacity, m, eq, .inl rfl, .inl rejected⟩
  | noNode _ reserved =>
    exact .inl ⟨_, c.arena.capacity, m, eq, .inl rfl, .inr ⟨_, Arena.reserve?_eq_none reserved⟩⟩
  | @noValue _ a _ _ reserved held =>
    exact .inl ⟨_, a.capacity, m', eq, .inr rfl,
      .inr ⟨_, Arena.grants_of_reserve? reserved ▸ Memory.hold?_eq_none held⟩⟩
  | @linked before after a _ _ d cut accepted _ _ intact' becomes =>
    exact .inr ⟨before, after, a.capacity, d, m', cut, accepted, eq, intact', becomes⟩

theorem insertBefore_of_reject {target : Option Handle} {value : String} {r : Refusal}
    (rejected : c.accept target value = .error r) (m : Memory) :
    c.insertBefore target value m = .ok (c.rejectInsert r, m) := by
  simp [insertBefore, rejected]

theorem insertBefore_eq_ok {target : Option Handle} {value : String} {m m' : Memory}
    {o : Outcome Handle} (eq : c.insertBefore target value m = .ok (o, m')) :
    m'.grants = m.grants ∧ ∀ r, o.result = .error r →
      c.accept target value = .error r ∨ r.isAllocationFailure = true := by
  unfold insertBefore at eq
  cases ha : c.accept target value with
  | error refusal =>
    rw [ha] at eq
    cases eq
    exact ⟨rfl, fun r failed => .inl (congrArg Except.error (Except.error.inj failed))⟩
  | ok place =>
    simp only [ha] at eq
    cases hr : c.arena.reserve? m with
    | none =>
      rw [hr] at eq
      cases eq
      refine ⟨rfl, fun r failed => .inr ?_⟩
      cases failed
      rfl
    | some reserved =>
      obtain ⟨a, m₁⟩ := reserved
      have kept : m₁.grants = m.grants := Arena.grants_of_reserve? hr
      simp only [hr] at eq
      cases hh : m₁.hold? value.utf8ByteSize with
      | none =>
        rw [hh] at eq
        cases eq
        refine ⟨kept, fun r failed => .inr ?_⟩
        cases failed
        rfl
      | some m₂ =>
        simp only [hh] at eq
        obtain ⟨⟨e, index⟩, -, eq⟩ := ok_of_bind_eq_ok eq
        obtain ⟨handle, -, eq⟩ := ok_of_bind_eq_ok eq
        cases eq
        refine ⟨(Memory.hold?_eq_some hh).1.trans kept, fun r failed => ?_⟩
        cases failed

theorem insertBefore_of_ample (intact : c.Intact l f) (ample : m.Ample) {target : Option Handle}
    {value : String} {place : Option Nat} (accepted : c.accept target value = .ok place) :
    ∃ before after n d m', l = before ++ after ∧ place = after.head? ∧ m'.Ample ∧
      c.insertBefore target value m =
        .ok (⟨.ok c.upcomingHandle, d, [.inserted c.arena.upcoming d.size]⟩, m') ∧
      d.Intact (before ++ c.arena.upcoming :: after) f.tail ∧
      (c.withCapacity n).Becomes d (Function.update c.cell? c.arena.upcoming
        (some ⟨c.upcomingGeneration, .occupied value⟩)) := by
  rcases insertBefore_cases intact target value m with
    ⟨_, _, _, -, -, rejected | ⟨request, refused⟩⟩ |
    ⟨before, after, n, d, m', cut, accepted', eq, intact', becomes⟩
  · cases accepted.symm.trans rejected
  · cases (ample request).symm.trans refused
  · have grants : m'.grants = m.grants := (insertBefore_eq_ok eq).1
    exact ⟨before, after, n, d, m', cut, Except.ok.inj (accepted.symm.trans accepted'),
      fun request => grants ▸ ample request, eq, intact', becomes⟩

theorem remove_cases (intact : c.Intact l f) (h : Handle) :
    (∃ r, c.resolve h = .error r ∧ c.remove h = .ok ⟨.error r, c, [.deleteRejected r]⟩) ∨
    ∃ before after d v, l = before ++ h.index :: after ∧ h.chain = c.id ∧
      c.cell? h.index = some ⟨h.generation, .occupied v⟩ ∧
      c.remove h = .ok ⟨.ok v, d,
        if h.generation = Slot.lastGeneration then [.retired h.index, .deleted h.index d.size]
        else [.deleted h.index d.size]⟩ ∧
      d.Intact (before ++ after) (if h.generation = Slot.lastGeneration then f else h.index :: f) ∧
      c.Becomes d (Function.update c.cell? h.index
        (some ((⟨h.generation, .occupied v⟩ : Slot String).vacate none))) := by
  cases hr : c.resolve h with
  | error r => exact .inl ⟨r, rfl, by simp [remove, hr]⟩
  | ok i =>
    obtain ⟨before, after, rfl⟩ := List.append_of_mem (intact.mem_of_resolve hr)
    obtain ⟨own, rfl, v, cell⟩ := resolve_eq_ok_iff.mp hr
    obtain ⟨d, s, w, hs, hw, hu, intact', becomes⟩ := unlink_intact intact
    obtain rfl : ⟨h.generation, .occupied v⟩ = s := Option.some.inj (cell.symm.trans hs)
    obtain rfl : v = w := Option.some.inj hw
    have retired : ((⟨h.generation, .occupied v⟩ : Slot String).vacate none).isRetired =
        decide (h.generation = Slot.lastGeneration) := by
      by_cases last : h.generation = Slot.lastGeneration <;>
        simp [Slot.vacate, last, Slot.isRetired]
    rw [retired] at hu intact'
    refine .inr ⟨before, after, d, v, rfl, own, cell, ?_, by simpa using intact', becomes⟩
    simp [remove, hr, hu, bind, Except.bind]

theorem accept_head (intact : c.Intact l f) :
    ∃ target, c.handleAt? c.headIndex = .ok target ∧
      ∀ value, c.accept target value = (c.accept none value).map fun _ => l.head? := by
  rw [intact.ring.headIndex_eq]
  cases l with
  | nil =>
    refine ⟨none, rfl, ?_⟩
    intro value
    cases ho : c.policy.objection? value <;> simp [accept, ho, bind, Except.bind, Except.map]
  | cons i l =>
    obtain ⟨v, hv⟩ := intact.live_of_mem List.mem_cons_self
    obtain ⟨g, cell⟩ := valueAt?_eq_some_iff.mp hv
    have resolved : c.resolve ⟨c.id, i, g⟩ = .ok i := resolve_eq_ok_iff.mpr ⟨rfl, rfl, v, cell⟩
    refine ⟨some ⟨c.id, i, g⟩, ?_, ?_⟩
    · simp [handleAt?, handleAt_of_cell? cell, bind, Except.bind]
    · intro value
      cases ho : c.policy.objection? value <;>
        simp [accept, resolved, ho, Functor.map, bind, Except.bind, Except.map]

theorem issued_eq_ok {answer : Checked (Outcome Handle × Memory)} {o : Outcome Reply}
    {m : Memory} (h : perform.issued answer = .ok (o, m)) :
    ∃ first, answer = .ok (first, m) ∧ o = first.map .handle := by
  cases answer with
  | error e => cases h
  | ok answered =>
    cases h
    exact ⟨answered.1, rfl, rfl⟩

theorem insertBytes_of_some {bytes : ByteArray} {value : String}
    (h : String.fromUTF8? (Text.untilNul bytes) = some value) (target : Option Handle)
    (m : Memory) : c.insertBytes target bytes m = c.insertBefore target value m := by
  simp [insertBytes, h]

theorem insertBytes_of_none {bytes : ByteArray}
    (h : String.fromUTF8? (Text.untilNul bytes) = none) (target : Option Handle) (m : Memory) :
    c.insertBytes target bytes m = .ok (⟨.error (.invalidArgument
      (.notUtf8 (Text.validUpTo (Text.untilNul bytes)))), c, []⟩, m) := by
  simp [insertBytes, h]

theorem pushFront_eq (intact : c.Intact l f) (value : String) (m : Memory) :
    ∃ target, c.pushFront value m = c.insertBefore target value m ∧
      c.accept target value = (c.accept none value).map fun _ => l.head? := by
  obtain ⟨target, ht, accepted⟩ := accept_head intact
  exact ⟨target, by simp [pushFront, ht, bind, Except.bind], accepted value⟩

theorem extend_of_error {value : String} {rest : List String} {m m₁ : Memory} {r : Refusal}
    {first : Outcome Handle} (eq : c.insertBefore none value m = .ok (first, m₁))
    (hr : first.result = .error r) :
    c.extend (value :: rest) m = .ok (⟨.error r, first.chain, first.events⟩, m₁) := by
  simp [extend, pushBack, eq, hr, bind, Except.bind]

theorem extend_of_ok {value : String} {rest : List String} {m m₁ m₂ : Memory} {h : Handle}
    {first : Outcome Handle} {others : Outcome Unit}
    (eq : c.insertBefore none value m = .ok (first, m₁)) (hr : first.result = .ok h)
    (eq' : first.chain.extend rest m₁ = .ok (others, m₂)) :
    c.extend (value :: rest) m =
      .ok ({ others with events := first.events ++ others.events }, m₂) := by
  simp [extend, pushBack, eq, hr, eq', bind, Except.bind]

theorem perform_insertBytes_of_some {target : Option Handle} {bytes : ByteArray} {value : String}
    (readable : String.fromUTF8? (Text.untilNul bytes) = some value) (m : Memory) :
    c.perform (.insertBytes target bytes) m = c.perform (.insertBefore target value) m :=
  congrArg perform.issued (insertBytes_of_some readable target m)

theorem perform_misread {target : Option Handle} {bytes : ByteArray}
    (unreadable : String.fromUTF8? (Text.untilNul bytes) = none) (m : Memory) :
    c.perform (.insertBytes target bytes) m = .ok (⟨.error (.invalidArgument
      (.notUtf8 (Text.validUpTo (Text.untilNul bytes)))), c, []⟩, m) := by
  rw [perform, insertBytes_of_none unreadable]
  rfl

theorem perform_extend_of_error {value : String} {rest : List String} {m m₁ : Memory}
    {first : Outcome Reply} {r : Refusal} (eq : c.perform (.pushBack value) m = .ok (first, m₁))
    (failed : first.result = .error r) :
    c.perform (.extend (value :: rest)) m = .ok (⟨.error r, first.chain, first.events⟩, m₁) := by
  obtain ⟨pushed, eq', rfl⟩ := issued_eq_ok eq
  have refused := Outcome.error_of_map failed
  simp [perform, extend_of_error eq' refused, bind, Except.bind, Outcome.map, Except.map]

theorem perform_extend_of_ok {value : String} {rest : List String} {m m₁ m₂ : Memory}
    {first others : Outcome Reply} {reply : Reply}
    (eq : c.perform (.pushBack value) m = .ok (first, m₁)) (done : first.result = .ok reply)
    (eq' : first.chain.perform (.extend rest) m₁ = .ok (others, m₂)) :
    c.perform (.extend (value :: rest)) m =
      .ok ({ others with events := first.events ++ others.events }, m₂) := by
  obtain ⟨pushed, inserted, rfl⟩ := issued_eq_ok eq
  obtain ⟨h, issued, -⟩ := Outcome.ok_of_map done
  obtain ⟨⟨after, m₂⟩, extended, eq'⟩ := ok_of_bind_eq_ok eq'
  cases eq'
  simp [perform, extend_of_ok inserted issued extended, bind, Except.bind, Outcome.map]

end Chain
end StringChain
