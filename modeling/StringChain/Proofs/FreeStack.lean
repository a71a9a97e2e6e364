import Mathlib.Data.List.Nodup
import Mathlib.Logic.Function.Basic
import StringChain.Arena.Lemmas
import StringChain.Proofs.Visits

namespace StringChain

variable {α : Type}

namespace Slot

def vacantLink? (s : Slot α) : Option (Option Nat) :=
  match s.entry with
  | .occupied _ => none
  | .vacant next => some next
  | .retired => none

theorem vacantLink?_eq_some {s : Slot α} {next : Option Nat} :
    s.vacantLink? = some next ↔ s.entry = .vacant next := by
  obtain ⟨g, e⟩ := s
  cases e <;> simp [vacantLink?]

theorem vacantLink?_fill (s : Slot α) (x : α) : (s.fill x).vacantLink? = none := rfl

theorem vacantLink?_of_content? {s : Slot α} {x : α} (h : s.content? = some x) :
    s.vacantLink? = none := by
  simp [vacantLink?, content?_eq_some.mp h]

theorem vacantLink?_vacate (s : Slot α) (free : Option Nat) :
    (s.vacate free).vacantLink? = if (s.vacate free).isRetired then none else some free := by
  obtain ⟨g, e⟩ := s
  cases e with
  | occupied x =>
    by_cases hg : g = lastGeneration
    · simp [vacate, hg, vacantLink?, isRetired]
    · simp [vacate, hg, vacantLink?, isRetired]
  | vacant next => rfl
  | retired => rfl

end Slot

namespace Arena

def vacantLink? (a : Arena α) (i : Nat) : Option (Option Nat) :=
  (a.slot? i).bind Slot.vacantLink?

structure Stacked (a : Arena α) (f : List Nat) : Prop where
  visits : Visits a.vacantLink? a.free f
  vacant : ∀ i, i ∈ f ↔ ∃ next, a.vacantLink? i = some next

def upcoming (a : Arena α) : Nat := a.free.getD a.size

theorem slot?_put {a : Arena α} {i : Nat} (h : i < a.size) (s : Slot α) :
    (a.put i s).slot? = Function.update a.slot? i (some s) := by
  funext j
  by_cases hj : j = i
  · subst hj
    rw [slot?_put_same h, Function.update_self]
  · rw [slot?_put_other hj, Function.update_of_ne hj]

theorem slot?_push (a : Arena α) (s : Slot α) :
    ({ a with slots := a.slots.push s } : Arena α).slot? =
      Function.update a.slot? a.size (some s) := by
  funext j
  by_cases hj : j = a.size
  · subst hj
    rw [Function.update_self]
    exact Array.getElem?_push_size
  · rw [Function.update_of_ne hj]
    exact Array.getElem?_push.trans (if_neg hj)

theorem slot?_size (a : Arena α) : a.slot? a.size = none := by
  simp [slot?, size]

theorem vacantLink?_of_slots {a b : Arena α} {i : Nat} {s : Slot α}
    (h : b.slot? = Function.update a.slot? i (some s)) (j : Nat) :
    b.vacantLink? j = if j = i then s.vacantLink? else a.vacantLink? j := by
  unfold vacantLink?
  rw [h]
  by_cases hj : j = i
  · subst hj
    simp
  · simp [hj]

theorem content?_of_slots {a b : Arena α} {i : Nat} {s : Slot α}
    (h : b.slot? = Function.update a.slot? i (some s)) (j : Nat) :
    b.content? j = if j = i then s.content? else a.content? j := by
  unfold content?
  rw [h]
  by_cases hj : j = i
  · subst hj
    simp
  · simp [hj]

namespace Stacked

variable {a b : Arena α} {f : List Nat}

theorem free_eq (h : a.Stacked f) : a.free = f.head? := h.visits.start_eq

theorem nodup (h : a.Stacked f) : f.Nodup := h.visits.nodup

theorem congr (h : a.Stacked f) (links : b.vacantLink? = a.vacantLink?) (free : b.free = a.free) :
    b.Stacked f := by
  refine ⟨?_, ?_⟩
  · rw [links, free]
    exact h.visits
  · rw [links]
    exact h.vacant

theorem empty : (Arena.empty : Arena α).Stacked [] := by
  refine ⟨.done, fun i => ?_⟩
  simp [vacantLink?, Arena.empty, slot?]

theorem upcoming_vacant (h : a.Stacked f) {i : Nat} {rest : List Nat} (hf : f = i :: rest) :
    a.upcoming = i ∧ ∃ s, a.slot? i = some s ∧ s.entry = .vacant rest.head? := by
  subst hf
  have hfree : a.free = some i := h.free_eq
  refine ⟨by simp [upcoming, hfree], ?_⟩
  obtain ⟨next, hi⟩ := (h.vacant i).mp (by simp)
  obtain ⟨s, hs, hlink⟩ := Option.bind_eq_some_iff.mp hi
  have visits : Visits a.vacantLink? (some i) (i :: rest) := hfree ▸ h.visits
  obtain rfl : next = rest.head? := (visits.tail hi).start_eq
  exact ⟨s, hs, Slot.vacantLink?_eq_some.mp hlink⟩

theorem content?_upcoming (h : a.Stacked f) : a.content? a.upcoming = none := by
  cases hf : f with
  | nil =>
    have hfree : a.free = none := by simpa [hf] using h.free_eq
    simp [upcoming, hfree, content?, slot?_size]
  | cons i rest =>
    obtain ⟨hi, s, hs, hv⟩ := h.upcoming_vacant hf
    simp [hi, content?, hs, Slot.content?, hv]

theorem pop (h : a.Stacked f) {s : Slot α}
    (slots : b.slot? = Function.update a.slot? a.upcoming (some s)) (filled : s.vacantLink? = none)
    (free : b.free = f.tail.head?) : b.Stacked f.tail := by
  have links := vacantLink?_of_slots slots
  cases hf : f with
  | nil =>
    subst hf
    refine ⟨?_, fun j => ?_⟩
    · rw [free]
      exact .done
    · have none_vacant : ∀ next, a.vacantLink? j ≠ some next := fun next hj =>
        absurd ((h.vacant j).mpr ⟨next, hj⟩) (by simp)
      rw [links j]
      split <;> simp [filled, none_vacant]
  | cons i rest =>
    obtain ⟨hi, t, ht, hv⟩ := h.upcoming_vacant hf
    subst hf
    rw [hi] at links
    obtain ⟨fresh, -⟩ := List.nodup_cons.mp h.nodup
    have other : ∀ j, j ≠ i → b.vacantLink? j = a.vacantLink? j := by
      intro j hj
      rw [links j, if_neg hj]
    have hfree : a.free = some i := h.free_eq
    have visits : Visits a.vacantLink? (some i) (i :: rest) := hfree ▸ h.visits
    have hlink : a.vacantLink? i = some rest.head? := by
      simp [vacantLink?, ht, Slot.vacantLink?_eq_some.mpr hv]
    refine ⟨?_, fun j => ?_⟩
    · rw [free]
      exact (visits.tail hlink).congr fun j hj => other j fun e => fresh (e ▸ hj)
    · by_cases hj : j = i
      · subst hj
        simp [links, filled, fresh]
      · rw [other j hj, ← h.vacant j]
        simp [hj]

theorem push (h : a.Stacked f) {i : Nat} {s : Slot α}
    (slots : b.slot? = Function.update a.slot? i (some s)) (new : i ∉ f)
    (vacated : s.vacantLink? = if s.isRetired then none else some a.free)
    (free : b.free = if s.isRetired then a.free else some i) :
    b.Stacked (if s.isRetired then f else i :: f) := by
  have links := vacantLink?_of_slots slots
  have rest : Visits b.vacantLink? a.free f := h.visits.congr fun j hj => by
    have other : j ≠ i := fun e => new (e ▸ hj)
    rw [links j, if_neg other]
  by_cases hr : s.isRetired = true
  · rw [if_pos hr] at vacated free ⊢
    refine ⟨free ▸ rest, fun j => ?_⟩
    rw [links j]
    split
    · next hj => simp [hj, vacated, new]
    · exact h.vacant j
  · rw [if_neg hr] at vacated free ⊢
    refine ⟨free ▸ .step (by rw [links i, if_pos rfl, vacated]) rest, fun j => ?_⟩
    rw [links j]
    split
    · next hj => simp [hj, vacated]
    · next hj => simp [hj, h.vacant j]

end Stacked

theorem occupy_upcoming {a : Arena α} {f : List Nat} (h : a.Stacked f) (room : a.hasRoom = true)
    (x : α) :
    ∃ b, a.occupy x = .ok (b, a.upcoming) ∧
      b.slot? = Function.update a.slot? a.upcoming
        (some (((a.slot? a.upcoming).getD (.fresh x)).fill x)) ∧
      b.free = f.tail.head? ∧ b.capacity = a.capacity := by
  cases hf : f with
  | nil =>
    have hfree : a.free = none := by simpa [hf] using h.free_eq
    have top : a.upcoming = a.size := by simp [upcoming, hfree]
    have more : a.size < a.capacity := by simpa [hasRoom, hfree, size] using room
    refine ⟨{ a with slots := a.slots.push (.fresh x) }, ?_, ?_, hfree, rfl⟩
    · rw [top]
      exact occupy_of_room hfree more x
    · rw [top, slot?_size]
      exact slot?_push a _
  | cons i rest =>
    obtain ⟨top, s, hs, hv⟩ := h.upcoming_vacant hf
    have hfree : a.free = some i := by simpa [hf] using h.free_eq
    refine ⟨{ a.put i (s.fill x) with free := rest.head? }, ?_, ?_, rfl, rfl⟩
    · rw [top]
      exact occupy_of_vacant hfree hs hv x
    · rw [top, hs]
      exact slot?_put (lt_size_of_slot? hs) _

theorem vacateAll_cons (i : Nat) (s : Slot α) (rest : List (Slot α)) :
    vacateAll i (s :: rest) =
      (s.vacate (vacateAll (i + 1) rest).2 :: (vacateAll (i + 1) rest).1,
        if (s.vacate (vacateAll (i + 1) rest).2).isRetired then (vacateAll (i + 1) rest).2
        else some i) := rfl

theorem getElem?_vacateAll (slots : List (Slot α)) (i j : Nat) :
    ∃ free, (vacateAll i slots).1[j]? = slots[j]?.map (·.vacate free) := by
  induction slots generalizing i j with
  | nil => exact ⟨none, by simp [vacateAll]⟩
  | cons s rest ih =>
    rw [vacateAll_cons]
    cases j with
    | zero => exact ⟨_, rfl⟩
    | succ j => simpa using ih (i + 1) j

-- The slots before position `pre.length` are fixed, so that positions agree with the whole list.
theorem visits_vacateAll (slots pre : List (Slot α)) :
    Visits (fun j => (pre ++ (vacateAll pre.length slots).1)[j]?.bind Slot.vacantLink?)
      (vacateAll pre.length slots).2
      ((List.range' pre.length slots.length).filter fun j =>
        (pre ++ (vacateAll pre.length slots).1)[j]?.any (!·.isRetired)) := by
  induction slots generalizing pre with
  | nil => exact .done
  | cons s rest ih =>
    have shift : pre.length + 1 =
        (pre ++ [s.vacate (vacateAll (pre.length + 1) rest).2]).length := by simp
    rw [vacateAll_cons]
    generalize hfree : (vacateAll (pre.length + 1) rest).2 = free at shift
    have tail := ih (pre ++ [s.vacate free])
    rw [← shift, List.append_assoc, List.singleton_append, hfree] at tail
    rw [List.length_cons, List.range'_succ]
    by_cases hr : (s.vacate free).isRetired = true
    · rw [List.filter_cons_of_neg (by simp [hr]), if_pos hr]
      exact tail
    · rw [List.filter_cons_of_pos (by simp [hr]), if_neg hr]
      refine .step ?_ tail
      simp [Slot.vacantLink?_vacate, hr]

theorem slot?_clear_eq (a : Arena α) (i : Nat) :
    a.clear.slot? i = (vacateAll 0 a.slots.toList).1[i]? := by
  simp [slot?, clear]

theorem slot?_clear (a : Arena α) (i : Nat) :
    ∃ free, a.clear.slot? i = (a.slot? i).map (·.vacate free) := by
  obtain ⟨free, h⟩ := getElem?_vacateAll a.slots.toList 0 i
  refine ⟨free, ?_⟩
  rw [slot?_clear_eq, h]
  simp [slot?]

def reusable (a : Arena α) : List Nat :=
  (List.range a.size).filter fun i => (a.slot? i).any (!·.isRetired)

theorem stacked_clear (a : Arena α) : a.clear.Stacked a.clear.reusable := by
  refine ⟨?_, fun i => ?_⟩
  · have links : a.clear.vacantLink? = fun j =>
        (vacateAll 0 a.slots.toList).1[j]?.bind Slot.vacantLink? := by
      funext j
      rw [vacantLink?, slot?_clear_eq]
    have h := visits_vacateAll a.slots.toList []
    have top : a.clear.free = (vacateAll 0 a.slots.toList).2 := rfl
    rw [reusable, size_clear, links, top]
    simpa [slot?_clear_eq, List.range_eq_range', size] using h
  · obtain ⟨free, hi⟩ := slot?_clear a i
    cases hs : a.slot? i with
    | none => simp [reusable, vacantLink?, hi, hs]
    | some s =>
      have bound : i < a.clear.size := size_clear a ▸ lt_size_of_slot? hs
      simp only [reusable, List.mem_filter, List.mem_range, bound, vacantLink?, hi, hs]
      cases hr : (s.vacate free).isRetired <;> simp [Slot.vacantLink?_vacate, hr]

end Arena
end StringChain
