import Mathlib.Data.List.Find
import StringChain.Chain.Query
import StringChain.Proofs.Operations
import StringChain.Proofs.Walks

namespace StringChain

abbrev Listing := List (Handle × String)

namespace Chain

def pair? (c : Chain) (i : Nat) : Option (Handle × String) :=
  match c.cell? i with
  | some ⟨g, .occupied v⟩ => some (⟨c.id, i, g⟩, v)
  | _ => none

def Lists (c : Chain) (l : List Nat) (seq : Listing) : Prop := l.map c.pair? = seq.map some

variable {c d : Chain} {l f : List Nat} {seq : Listing}

theorem pair?_eq_some {i : Nat} {h : Handle} {v : String} :
    c.pair? i = some (h, v) ↔
      h.chain = c.id ∧ h.index = i ∧ c.cell? i = some ⟨h.generation, .occupied v⟩ := by
  obtain ⟨id, index, g⟩ := h
  unfold pair?
  split
  · next g' v' cell =>
    simp only [cell, Option.some.injEq, Prod.mk.injEq, Handle.mk.injEq, Slot.mk.injEq,
      Entry.occupied.injEq]
    constructor
    · rintro ⟨⟨rfl, rfl, rfl⟩, rfl⟩
      exact ⟨rfl, rfl, rfl, rfl⟩
    · rintro ⟨rfl, rfl, rfl, rfl⟩
      exact ⟨⟨rfl, rfl, rfl⟩, rfl⟩
  · next absent =>
    simp only [reduceCtorEq, false_iff, not_and]
    exact fun _ _ cell => absent g v cell

theorem resolve_eq_ok_iff_pair? {h : Handle} {i : Nat} :
    c.resolve h = .ok i ↔ h.index = i ∧ ∃ v, c.pair? i = some (h, v) := by
  rw [resolve_eq_ok_iff]
  simp only [pair?_eq_some]
  constructor
  · rintro ⟨own, rfl, v, cell⟩
    exact ⟨rfl, v, own, rfl, cell⟩
  · rintro ⟨rfl, v, own, -, cell⟩
    exact ⟨own, rfl, v, cell⟩

namespace Lists

theorem nil_iff : c.Lists [] seq ↔ seq = [] := by
  cases seq <;> simp [Lists]

theorem cons_iff {i : Nat} :
    c.Lists (i :: l) seq ↔ ∃ p t, seq = p :: t ∧ c.pair? i = some p ∧ c.Lists l t := by
  cases seq with
  | nil => simp [Lists]
  | cons p t => simp [Lists]

theorem append_iff {a b : List Nat} :
    c.Lists (a ++ b) seq ↔ ∃ s t, seq = s ++ t ∧ c.Lists a s ∧ c.Lists b t := by
  simp only [Lists, List.map_append]
  constructor
  · intro h
    obtain ⟨s, t, rfl, hs, ht⟩ := List.map_eq_append_iff.mp h.symm
    exact ⟨s, t, rfl, hs.symm, ht.symm⟩
  · rintro ⟨s, t, rfl, hs, ht⟩
    rw [hs, ht, List.map_append]

theorem cut {before after : Listing} {p : Handle × String}
    (h : c.Lists l (before ++ p :: after)) :
    ∃ a i b, l = a ++ i :: b ∧ c.Lists a before ∧ c.pair? i = some p ∧ c.Lists b after := by
  unfold Lists at h
  rw [List.map_append, List.map_cons] at h
  obtain ⟨a, t, rfl, ha, ht⟩ := List.map_eq_append_iff.mp h
  obtain ⟨i, b, rfl, hi, hb⟩ := List.map_eq_cons_iff.mp ht
  exact ⟨a, i, b, rfl, ha, hi, hb⟩

theorem congr (h : c.Lists l seq) (same : ∀ i ∈ l, d.pair? i = c.pair? i) : d.Lists l seq :=
  (List.map_congr_left same).trans h

theorem length_eq (h : c.Lists l seq) : l.length = seq.length := by
  simpa using congrArg List.length h

theorem reverse (h : c.Lists l seq) : c.Lists l.reverse seq.reverse := by
  unfold Lists at h ⊢
  rw [List.map_reverse, List.map_reverse, h]

theorem mem_iff (h : c.Lists l seq) {p : Handle × String} :
    p ∈ seq ↔ ∃ i ∈ l, c.pair? i = some p := by
  have inside : some p ∈ seq.map some ↔ p ∈ seq := by simp
  rw [← inside, ← h, List.mem_map]

theorem index_eq (h : c.Lists l seq) : seq.map (·.1.index) = l := by
  induction l generalizing seq with
  | nil => simp [nil_iff.mp h]
  | cons i l ih =>
    obtain ⟨⟨k, v⟩, t, rfl, hp, ht⟩ := cons_iff.mp h
    obtain ⟨-, hi, -⟩ := pair?_eq_some.mp hp
    simp [hi, ih ht]

theorem yields_handleAt (h : c.Lists l seq) : Yields c.handleAt l (seq.map Prod.fst) := by
  induction l generalizing seq with
  | nil =>
    obtain rfl := nil_iff.mp h
    rfl
  | cons i l ih =>
    obtain ⟨⟨k, v⟩, t, rfl, hp, ht⟩ := cons_iff.mp h
    obtain ⟨own, rfl, cell⟩ := pair?_eq_some.mp hp
    have first : c.handleAt k.index = .ok k := by
      rw [handleAt_of_cell? cell, ← own]
    exact congrArg₂ List.cons first (ih ht)

theorem yields_valueAt (h : c.Lists l seq) : Yields c.valueAt l (seq.map Prod.snd) := by
  induction l generalizing seq with
  | nil =>
    obtain rfl := nil_iff.mp h
    rfl
  | cons i l ih =>
    obtain ⟨⟨k, v⟩, t, rfl, hp, ht⟩ := cons_iff.mp h
    obtain ⟨-, rfl, cell⟩ := pair?_eq_some.mp hp
    obtain ⟨n, hn, rfl⟩ := valueAt?_eq_some.mp (valueAt?_eq_some_iff.mpr ⟨_, cell⟩)
    exact congrArg₂ List.cons (valueAt_of_content hn) (ih ht)

theorem mapM_handleAt (h : c.Lists l seq) : l.mapM c.handleAt = .ok (seq.map Prod.fst) :=
  h.yields_handleAt.mapM

theorem mapM_valueAt (h : c.Lists l seq) : l.mapM c.valueAt = .ok (seq.map Prod.snd) :=
  h.yields_valueAt.mapM

end Lists

theorem exists_lists (live : ∀ i ∈ l, ∃ p, c.pair? i = some p) : ∃ seq, c.Lists l seq := by
  induction l with
  | nil => exact ⟨[], rfl⟩
  | cons i l ih =>
    obtain ⟨p, hp⟩ := live i List.mem_cons_self
    obtain ⟨t, ht⟩ := ih fun j hj => live j (List.mem_cons_of_mem i hj)
    exact ⟨p :: t, Lists.cons_iff.mpr ⟨p, t, rfl, hp, ht⟩⟩

theorem get?_eq_some_iff {h : Handle} {v : String} :
    c.get? h = some v ↔ c.pair? h.index = some (h, v) := by
  cases hr : c.resolve h with
  | error r =>
    rw [get?_of_stale hr]
    refine ⟨fun absent => (Option.some_ne_none v absent.symm).elim, ?_⟩
    intro found
    rw [resolve_eq_ok_iff_pair?.mpr ⟨rfl, v, found⟩] at hr
    cases hr
  | ok i =>
    obtain ⟨rfl, w, hw⟩ := resolve_eq_ok_iff_pair?.mp hr
    have value : c.get? h = c.valueAt? h.index := by
      simp [get?, node?, hr, valueAt?_eq]
    obtain ⟨-, -, cell⟩ := pair?_eq_some.mp hw
    rw [value, hw, valueAt?_eq_some_iff.mpr ⟨_, cell⟩]
    simp

theorem next_of_nextOf {h : Handle} {i : Nat} {u : Option Nat} (hr : c.resolve h = .ok i)
    (hu : c.nextOf (some i) = .ok u) : c.next h = c.handleAt? u := by
  obtain ⟨n, hn, rfl⟩ := nextOf_some_eq_ok.mp hu
  simp [next, node?, hr, hn]

theorem prev_of_prevOf {h : Handle} {i : Nat} {u : Option Nat} (hr : c.resolve h = .ok i)
    (hu : c.prevOf (some i) = .ok u) : c.prev h = c.handleAt? u := by
  obtain ⟨n, hn, rfl⟩ := prevOf_some_eq_ok.mp hu
  simp [prev, node?, hr, hn]

theorem next_of_resolve_error {h : Handle} {r : Refusal} (hr : c.resolve h = .error r) :
    c.next h = .ok none ∧ c.prev h = .ok none := by
  simp [next, prev, node?, hr, handleAt?]

namespace Intact

theorem exists_listing (h : c.Intact l f) : ∃ seq, c.Lists l seq := by
  apply exists_lists
  intro i hi
  obtain ⟨v, hv⟩ := h.live_of_mem hi
  obtain ⟨g, cell⟩ := valueAt?_eq_some_iff.mp hv
  exact ⟨(⟨c.id, i, g⟩, v), pair?_eq_some.mpr ⟨rfl, rfl, cell⟩⟩

theorem resolve_iff (h : c.Intact l f) (lists : c.Lists l seq) {k : Handle} {i : Nat} :
    c.resolve k = .ok i ↔ k.index = i ∧ k ∈ seq.map Prod.fst := by
  rw [resolve_eq_ok_iff_pair?, List.mem_map]
  constructor
  · rintro ⟨rfl, v, hv⟩
    have inside : k.index ∈ l := by
      obtain ⟨-, -, cell⟩ := pair?_eq_some.mp hv
      exact (h.live _).mpr ⟨v, valueAt?_eq_some_iff.mpr ⟨_, cell⟩⟩
    exact ⟨rfl, (k, v), lists.mem_iff.mpr ⟨k.index, inside, hv⟩, rfl⟩
  · rintro ⟨rfl, ⟨k', v⟩, hp, rfl⟩
    obtain ⟨i, -, hi⟩ := lists.mem_iff.mp hp
    obtain ⟨-, rfl, -⟩ := pair?_eq_some.mp hi
    exact ⟨rfl, v, hi⟩

theorem nodup_handles (h : c.Intact l f) (lists : c.Lists l seq) :
    (seq.map Prod.fst).Nodup := by
  refine List.Nodup.of_map Handle.index ?_
  rw [List.map_map]
  exact lists.index_eq.symm ▸ h.nodup

theorem mem_listing_iff (h : c.Intact l f) (lists : c.Lists l seq) {k : Handle} {v : String} :
    (k, v) ∈ seq ↔ c.pair? k.index = some (k, v) := by
  rw [lists.mem_iff]
  constructor
  · rintro ⟨i, -, hi⟩
    obtain ⟨-, rfl, -⟩ := pair?_eq_some.mp hi
    exact hi
  · intro hk
    obtain ⟨-, -, cell⟩ := pair?_eq_some.mp hk
    exact ⟨_, (h.live _).mpr ⟨v, valueAt?_eq_some_iff.mpr ⟨_, cell⟩⟩, hk⟩

end Intact

theorem Intact.indices_front (h : c.Intact l f) : c.indices .front = .ok l := h.spans.rest .front

theorem Intact.indices_back (h : c.Intact l f) : c.indices .back = .ok l.reverse :=
  h.spans.rest .back

structure Shows (c : Chain) (seq : Listing) : Prop where
  size : c.size = seq.length
  isEmpty : c.isEmpty = seq.isEmpty
  nodup : (seq.map Prod.fst).Nodup
  head : c.head = .ok (seq.head?.map Prod.fst)
  tail : c.tail = .ok (seq.getLast?.map Prod.fst)
  handles : c.handles = .ok (seq.map Prod.fst)
  values : c.values = .ok (seq.map Prod.snd)
  handles_back : c.handlesFrom .back = .ok (seq.map Prod.fst).reverse
  values_back : c.valuesFrom .back = .ok (seq.map Prod.snd).reverse
  has : ∀ h, c.has h = true ↔ h ∈ seq.map Prod.fst
  get : ∀ h v, c.get? h = some v ↔ (h, v) ∈ seq
  neighbours : ∀ before h v after, seq = before ++ (h, v) :: after →
    c.next h = .ok (after.head?.map Prod.fst) ∧ c.prev h = .ok (before.getLast?.map Prod.fst)
  absent : ∀ h, h ∉ seq.map Prod.fst → c.next h = .ok none ∧ c.prev h = .ok none

theorem Lists.handleAt?_head (h : c.Lists l seq) :
    c.handleAt? l.head? = .ok (seq.head?.map Prod.fst) := by
  cases l with
  | nil =>
    obtain rfl := nil_iff.mp h
    rfl
  | cons i l =>
    obtain ⟨⟨k, v⟩, t, rfl, hp, -⟩ := cons_iff.mp h
    obtain ⟨own, rfl, cell⟩ := pair?_eq_some.mp hp
    simp [handleAt?, handleAt_of_cell? cell, ← own, bind, Except.bind]

theorem Lists.handleAt?_last (h : c.Lists l seq) :
    c.handleAt? l.getLast? = .ok (seq.getLast?.map Prod.fst) := by
  simpa [List.head?_reverse] using h.reverse.handleAt?_head

theorem Intact.neighbours (h : c.Intact l f) {before after : Listing} {k : Handle} {v : String}
    (lists : c.Lists l (before ++ (k, v) :: after)) :
    c.next k = .ok (after.head?.map Prod.fst) ∧ c.prev k = .ok (before.getLast?.map Prod.fst) := by
  obtain ⟨a, i, b, rfl, ha, hp, hb⟩ := lists.cut
  obtain ⟨-, hi, -⟩ := pair?_eq_some.mp hp
  have resolved : c.resolve k = .ok i := resolve_eq_ok_iff_pair?.mpr ⟨hi, v, hp⟩
  rw [next_of_nextOf resolved h.ring.nextOf_eq, prev_of_prevOf resolved h.ring.prevOf_eq]
  exact ⟨hb.handleAt?_head, ha.handleAt?_last⟩

theorem Intact.shows (h : c.Intact l f) (lists : c.Lists l seq) : c.Shows seq where
  size := h.size.trans lists.length_eq
  isEmpty := by
    cases seq <;> simp [isEmpty, h.size, lists.length_eq]
  nodup := h.nodup_handles lists
  head := by
    rw [Chain.head, h.ring.headIndex_eq]
    exact lists.handleAt?_head
  tail := by
    rw [Chain.tail, h.ring.tailIndex_eq]
    exact lists.handleAt?_last
  handles := by
    simp [Chain.handles, handlesFrom, h.indices_front, lists.mapM_handleAt, bind, Except.bind]
  values := by
    simp [Chain.values, valuesFrom, h.indices_front, lists.mapM_valueAt, bind, Except.bind]
  handles_back := by
    simp [handlesFrom, h.indices_back, lists.reverse.mapM_handleAt, bind, Except.bind]
  values_back := by
    simp [valuesFrom, h.indices_back, lists.reverse.mapM_valueAt, bind, Except.bind]
  has k := by
    rw [has_iff]
    simp [h.resolve_iff lists]
  get k v := by rw [get?_eq_some_iff, h.mem_listing_iff lists]
  neighbours before k v after e := h.neighbours (e ▸ lists)
  absent k hk := by
    cases hr : c.resolve k with
    | error r => exact next_of_resolve_error hr
    | ok i => exact absurd ((h.resolve_iff lists).mp hr).2 hk

theorem Shows.handlesFrom_eq (shows : c.Shows seq) (side : Side) :
    c.handlesFrom side = .ok (side.orient (seq.map Prod.fst)) := by
  cases side with
  | front => exact shows.handles
  | back => exact shows.handles_back

theorem Shows.findFrom_eq (shows : c.Shows seq) (side : Side) (v : String) :
    c.findFrom side v = .ok (((side.orient seq).find? fun p => p.2 == v).map Prod.fst) := by
  have handles : side.orient (seq.map Prod.fst) = (side.orient seq).map Prod.fst := by
    cases side <;> simp [Side.orient]
  have test : ∀ p ∈ side.orient seq, (c.get? p.1 == some v) = (p.2 == v) := by
    intro p inside
    have value : c.get? p.1 = some p.2 := (shows.get p.1 p.2).mpr (Side.mem_orient.mp inside)
    rw [value]
    rfl
  have scan := List.find?_congr test
  simp [findFrom, shows.handlesFrom_eq, handles, List.find?_map, scan, bind, Except.bind]

theorem Shows.contains_eq (shows : c.Shows seq) (v : String) :
    c.contains v = .ok (seq.any fun p => p.2 == v) := by
  simp [contains, shows.values, bind, Except.bind, Function.comp_def]

theorem Shows.sameValues_eq {seq' : Listing} (shows : c.Shows seq) (shows' : d.Shows seq') :
    c.sameValues d = .ok (seq.map Prod.snd == seq'.map Prod.snd) := by
  unfold sameValues
  split
  · simp [shows.values, shows'.values, bind, Except.bind]
  · next differ =>
    rw [shows.size, shows'.size] at differ
    have other : seq.map Prod.snd ≠ seq'.map Prod.snd := fun same =>
      differ (by simpa using congrArg List.length same)
    rw [beq_eq_false_iff_ne.mpr other]

end Chain
end StringChain
