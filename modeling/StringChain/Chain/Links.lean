import StringChain.Arena.Lemmas
import StringChain.Chain.Basic

namespace StringChain.Chain

theorem nextOf_some_eq_ok {c : Chain} {i : Nat} {t : Option Nat} :
    c.nextOf (some i) = .ok t ↔ ∃ n, c.arena.content? i = some n ∧ n.next = t := by
  cases hn : c.arena.contentAt i with
  | error e =>
    have none_there : ∀ n, c.arena.content? i ≠ some n := fun n h => by
      rw [Arena.contentAt_eq_ok.mpr h] at hn
      cases hn
    simp [nextOf, hn, bind, Except.bind, none_there]
  | ok n => simp [nextOf, hn, bind, Except.bind, Arena.contentAt_eq_ok.mp hn]

theorem prevOf_some_eq_ok {c : Chain} {i : Nat} {t : Option Nat} :
    c.prevOf (some i) = .ok t ↔ ∃ n, c.arena.content? i = some n ∧ n.prev = t := by
  cases hn : c.arena.contentAt i with
  | error e =>
    have none_there : ∀ n, c.arena.content? i ≠ some n := fun n h => by
      rw [Arena.contentAt_eq_ok.mpr h] at hn
      cases hn
    simp [prevOf, hn, bind, Except.bind, none_there]
  | ok n => simp [prevOf, hn, bind, Except.bind, Arena.contentAt_eq_ok.mp hn]

theorem setNext_some_eq_ok {c d : Chain} {i : Nat} {t : Option Nat} :
    c.setNext (some i) t = .ok d ↔
      ∃ b, (c.arena.update i fun n => { n with next := t }) = .ok b ∧
        { c with arena := b } = d := by
  cases hu : c.arena.update i fun n => { n with next := t } <;>
    simp [setNext, hu, bind, Except.bind]

theorem setPrev_some_eq_ok {c d : Chain} {i : Nat} {t : Option Nat} :
    c.setPrev (some i) t = .ok d ↔
      ∃ b, (c.arena.update i fun n => { n with prev := t }) = .ok b ∧
        { c with arena := b } = d := by
  cases hu : c.arena.update i fun n => { n with prev := t } <;>
    simp [setPrev, hu, bind, Except.bind]

theorem nextOf_setNext_same {c d : Chain} {place t : Option Nat} (h : c.setNext place t = .ok d) :
    d.nextOf place = .ok t := by
  cases place with
  | none =>
    cases h
    rfl
  | some i =>
    obtain ⟨b, hu, rfl⟩ := setNext_some_eq_ok.mp h
    obtain ⟨n, hn⟩ := Arena.content?_isSome_of_update hu
    refine nextOf_some_eq_ok.mpr ⟨{ n with next := t }, ?_, rfl⟩
    rw [Arena.content?_of_update hu, if_pos rfl, hn]
    rfl

theorem prevOf_setPrev_same {c d : Chain} {place t : Option Nat} (h : c.setPrev place t = .ok d) :
    d.prevOf place = .ok t := by
  cases place with
  | none =>
    cases h
    rfl
  | some i =>
    obtain ⟨b, hu, rfl⟩ := setPrev_some_eq_ok.mp h
    obtain ⟨n, hn⟩ := Arena.content?_isSome_of_update hu
    refine prevOf_some_eq_ok.mpr ⟨{ n with prev := t }, ?_, rfl⟩
    rw [Arena.content?_of_update hu, if_pos rfl, hn]
    rfl

theorem nextOf_setNext_other {c d : Chain} {place t q : Option Nat}
    (h : c.setNext place t = .ok d) (hq : q ≠ place) (u : Option Nat) :
    d.nextOf q = .ok u ↔ c.nextOf q = .ok u := by
  cases place with
  | none =>
    cases h
    cases q with
    | none => exact absurd rfl hq
    | some j => exact Iff.rfl
  | some i =>
    obtain ⟨b, hu, rfl⟩ := setNext_some_eq_ok.mp h
    cases q with
    | none => exact Iff.rfl
    | some j =>
      have hj : j ≠ i := fun e => hq (congrArg some e)
      simp only [nextOf_some_eq_ok, Arena.content?_of_update hu, if_neg hj]

theorem prevOf_setPrev_other {c d : Chain} {place t q : Option Nat}
    (h : c.setPrev place t = .ok d) (hq : q ≠ place) (u : Option Nat) :
    d.prevOf q = .ok u ↔ c.prevOf q = .ok u := by
  cases place with
  | none =>
    cases h
    cases q with
    | none => exact absurd rfl hq
    | some j => exact Iff.rfl
  | some i =>
    obtain ⟨b, hu, rfl⟩ := setPrev_some_eq_ok.mp h
    cases q with
    | none => exact Iff.rfl
    | some j =>
      have hj : j ≠ i := fun e => hq (congrArg some e)
      simp only [prevOf_some_eq_ok, Arena.content?_of_update hu, if_neg hj]

theorem prevOf_setNext {c d : Chain} {place t : Option Nat} (h : c.setNext place t = .ok d)
    (q u : Option Nat) : d.prevOf q = .ok u ↔ c.prevOf q = .ok u := by
  cases place with
  | none =>
    cases h
    exact Iff.rfl
  | some i =>
    obtain ⟨b, hu, rfl⟩ := setNext_some_eq_ok.mp h
    cases q with
    | none => exact Iff.rfl
    | some j =>
      simp only [prevOf_some_eq_ok, Arena.content?_of_update hu]
      split
      · next hj =>
        subst hj
        cases c.arena.content? j <;> simp
      · exact Iff.rfl

theorem nextOf_setPrev {c d : Chain} {place t : Option Nat} (h : c.setPrev place t = .ok d)
    (q u : Option Nat) : d.nextOf q = .ok u ↔ c.nextOf q = .ok u := by
  cases place with
  | none =>
    cases h
    exact Iff.rfl
  | some i =>
    obtain ⟨b, hu, rfl⟩ := setPrev_some_eq_ok.mp h
    cases q with
    | none => exact Iff.rfl
    | some j =>
      simp only [nextOf_some_eq_ok, Arena.content?_of_update hu]
      split
      · next hj =>
        subst hj
        cases c.arena.content? j <;> simp
      · exact Iff.rfl

end StringChain.Chain
