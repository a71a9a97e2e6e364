import Mathlib.Order.Bounds.Basic
import StringChain.Proofs.Reachable

namespace StringChain

namespace Listing

def places (seq : Listing) (v : String) : Set Nat := {i | ∃ h, seq[i]? = some (h, v)}

def Outermost (seq : Listing) (v : String) (i : Nat) : Side → Prop
  | .front => IsLeast (seq.places v) i
  | .back => IsGreatest (seq.places v) i

def occurrences (seq : Listing) (v : String) : Listing := seq.filter fun p => p.2 == v

def others (seq : Listing) (v : String) : Listing := seq.filter fun p => p.2 != v

variable {seq before after : Listing} {h : Handle} {v : String} {i j : Nat} {side : Side}

theorem Outermost.unique (hi : seq.Outermost v i side) (hj : seq.Outermost v j side) : i = j := by
  cases side with
  | front => exact IsLeast.unique hi hj
  | back => exact IsGreatest.unique hi hj

theorem isLeast_places (first : ∀ p ∈ before, p.2 ≠ v) :
    IsLeast ((before ++ (h, v) :: after).places v) before.length := by
  refine ⟨⟨h, by simp⟩, ?_⟩
  rintro i ⟨k, hk⟩
  by_contra inside
  rw [List.getElem?_append_left (Nat.lt_of_not_le inside)] at hk
  exact first _ (List.mem_of_getElem? hk) rfl

theorem isGreatest_places (last : ∀ p ∈ after, p.2 ≠ v) :
    IsGreatest ((before ++ (h, v) :: after).places v) before.length := by
  refine ⟨⟨h, by simp⟩, ?_⟩
  rintro i ⟨k, hk⟩
  by_contra beyond
  obtain ⟨n, rfl⟩ := Nat.exists_eq_add_of_lt (Nat.lt_of_not_le beyond)
  have behind : after[n]? = some (k, v) := by
    rwa [Nat.add_assoc, List.getElem?_append_right (Nat.le_add_right _ _), Nat.add_sub_cancel_left,
      List.getElem?_cons_succ] at hk
  exact last _ (List.mem_of_getElem? behind) rfl

theorem places_eq_empty : seq.places v = ∅ ↔ ∀ p ∈ seq, p.2 ≠ v := by
  rw [Set.eq_empty_iff_forall_notMem]
  constructor
  · rintro absent ⟨h, _⟩ inside rfl
    obtain ⟨i, found⟩ := List.getElem?_of_mem inside
    exact absent i ⟨h, found⟩
  · rintro absent i ⟨h, found⟩
    exact absent _ (List.mem_of_getElem? found) rfl

theorem outermost_of_find? (found : (side.orient seq).find? (fun p => p.2 == v) = some (h, v)) :
    ∃ i, seq.Outermost v i side ∧ seq[i]? = some (h, v) := by
  obtain ⟨-, before, after, cut, past⟩ := List.find?_eq_some_iff_append.mp found
  have past' : ∀ p ∈ before, p.2 ≠ v := by simpa using past
  obtain rfl := Side.orient_eq_iff.mp cut
  cases side with
  | front => exact ⟨before.length, isLeast_places past', by simp [Side.orient]⟩
  | back =>
    have shape : Side.back.orient (before ++ (h, v) :: after) =
        after.reverse ++ (h, v) :: before.reverse := by simp [Side.orient]
    rw [shape]
    exact ⟨_, isGreatest_places (by simpa using past'), by simp⟩

theorem find?_orient_iff :
    (side.orient seq).find? (fun p => p.2 == v) = some (h, v) ↔
      ∃ i, seq.Outermost v i side ∧ seq[i]? = some (h, v) := by
  refine ⟨outermost_of_find?, ?_⟩
  rintro ⟨i, outermost, here⟩
  have inside : (h, v) ∈ side.orient seq := Side.mem_orient.mpr (List.mem_of_getElem? here)
  cases found : (side.orient seq).find? (fun p => p.2 == v) with
  | none =>
    have absent := List.find?_eq_none.mp found _ inside
    simp at absent
  | some p =>
    obtain ⟨k, w⟩ := p
    obtain rfl : w = v := by simpa using List.find?_some found
    obtain ⟨j, outermost', there⟩ := outermost_of_find? found
    obtain rfl := outermost.unique outermost'
    rw [← there, here]

theorem find?_orient_eq_none (side : Side) :
    (side.orient seq).find? (fun p => p.2 == v) = none ↔ seq.places v = ∅ := by
  simp [places_eq_empty, List.find?_eq_none, Side.mem_orient]

theorem occurrences_eq_singleton (nodup : seq.Nodup) :
    seq.occurrences v = [(h, v)] ↔
      (Side.front.orient seq).find? (fun p => p.2 == v) = some (h, v) ∧
        (Side.back.orient seq).find? (fun p => p.2 == v) = some (h, v) := by
  rw [Side.orient, Side.orient, ← List.head?_filter, ← List.getLast?_filter]
  have distinct : (seq.occurrences v).Nodup := nodup.filter _
  unfold occurrences at distinct ⊢
  generalize seq.filter (fun p => p.2 == v) = hits at distinct ⊢
  constructor
  · rintro rfl
    exact ⟨rfl, rfl⟩
  · rintro ⟨first, last⟩
    obtain ⟨rest, rfl⟩ := List.head?_eq_some_iff.mp first
    cases rest with
    | nil => rfl
    | cons p rest =>
      rw [List.getLast?_cons_cons] at last
      exact absurd (List.mem_of_getLast? last) (List.nodup_cons.mp distinct).1

theorem occurrences_eq_nil : seq.occurrences v = [] ↔ seq.places v = ∅ := by
  simp [occurrences, places_eq_empty]

theorem others_of_absent (absent : seq.places v = ∅) : seq.others v = seq := by
  refine List.filter_eq_self.mpr fun p inside => ?_
  simpa using places_eq_empty.mp absent p inside

theorem length_occurrences_middle :
    ((before ++ (h, v) :: after).occurrences v).length =
      ((before ++ after).occurrences v).length + 1 := by
  simp [occurrences, Nat.add_assoc]

theorem others_middle :
    (before ++ (h, v) :: after).others v = (before ++ after).others v := by
  simp [others]

end Listing

namespace Chain

variable {c d d' : Chain} {seq : Listing} {h : Handle} {v : String} {side : Side}

theorem Shows.findFrom_eq_some (shows : c.Shows seq) :
    c.findFrom side v = .ok (some h) ↔ ∃ i, seq.Outermost v i side ∧ seq[i]? = some (h, v) := by
  rw [shows.findFrom_eq, ← Listing.find?_orient_iff, Except.ok.injEq, Option.map_eq_some_iff]
  constructor
  · rintro ⟨⟨k, w⟩, found, rfl⟩
    obtain rfl : w = v := by simpa using List.find?_some found
    exact found
  · intro found
    exact ⟨(h, v), found, rfl⟩

theorem Shows.findFrom_eq_none (shows : c.Shows seq) :
    c.findFrom side v = .ok none ↔ seq.places v = ∅ := by
  rw [shows.findFrom_eq, ← Listing.find?_orient_eq_none side, Except.ok.injEq,
    Option.map_eq_none_iff]

theorem Shows.findFrom_of_present (shows : c.Shows seq) (side : Side)
    (present : seq.places v ≠ ∅) : ∃ h, c.findFrom side v = .ok (some h) := by
  cases found : ((side.orient seq).find? fun p => p.2 == v).map Prod.fst with
  | none => exact absurd (shows.findFrom_eq_none.mp (found ▸ shows.findFrom_eq side v)) present
  | some h => exact ⟨h, found ▸ shows.findFrom_eq side v⟩

theorem Shows.contains_iff (shows : c.Shows seq) :
    c.contains v = .ok true ↔ (seq.places v).Nonempty := by
  rw [shows.contains_eq, Set.nonempty_iff_ne_empty, ne_eq, Listing.places_eq_empty]
  simp

theorem Shows.contains_eq_false (shows : c.Shows seq) :
    c.contains v = .ok false ↔ seq.places v = ∅ := by
  rw [shows.contains_eq, Listing.places_eq_empty]
  simp

inductive Purges (v : String) : Chain → Nat → Chain → Prop where
  | done {c : Chain} : c.find v = .ok none → Purges v c 0 c
  | step {c d e : Chain} {h : Handle} {n : Nat} {events : List Event} :
      c.find v = .ok (some h) → c.remove h = .ok ⟨.ok v, d, events⟩ → Purges v d n e →
      Purges v c (n + 1) e

theorem Purges.unique {n n' : Nat} (purges : Purges v c n d) (purges' : Purges v c n' d') :
    n = n' ∧ d = d' := by
  induction purges generalizing n' with
  | done none_left =>
    cases purges' with
    | done _ => exact ⟨rfl, rfl⟩
    | step found _ _ => cases none_left.symm.trans found
  | step found removed _ ih =>
    cases purges' with
    | done none_left => cases found.symm.trans none_left
    | step found' removed' rest =>
      cases found.symm.trans found'
      cases removed.symm.trans removed'
      obtain ⟨rfl, rfl⟩ := ih rest
      exact ⟨rfl, rfl⟩

theorem Holds.purges (holds : c.Holds seq) (v : String) :
    ∃ d, Purges v c (seq.occurrences v).length d ∧ d.Holds (seq.others v) := by
  generalize count : (seq.occurrences v).length = n
  induction n generalizing c seq with
  | zero =>
    have absent := Listing.occurrences_eq_nil.mp (List.length_eq_zero_iff.mp count)
    exact ⟨c, .done (holds.shows.findFrom_eq_none.mpr absent),
      (Listing.others_of_absent absent).symm ▸ holds⟩
  | succ n ih =>
    have present : seq.places v ≠ ∅ := fun absent => by
      simp [Listing.occurrences_eq_nil.mpr absent] at count
    obtain ⟨h, found⟩ := holds.shows.findFrom_of_present .front present
    obtain ⟨i, -, here⟩ := holds.shows.findFrom_eq_some.mp found
    obtain ⟨before, after, d, events, rfl, removed, holds', -⟩ :=
      holds.remove_mem (List.mem_of_getElem? here)
    rw [Listing.length_occurrences_middle] at count
    obtain ⟨e, rest, left⟩ := ih holds' (Nat.succ.inj count)
    exact ⟨e, .step found removed rest, Listing.others_middle.symm ▸ left⟩

structure Searches (c : Chain) (seq : Listing) (v : String) : Prop where
  find : ∀ h, c.find v = .ok (some h) ↔
    ∃ i, IsLeast (seq.places v) i ∧ seq[i]? = some (h, v)
  rfind : ∀ h, c.rfind v = .ok (some h) ↔
    ∃ i, IsGreatest (seq.places v) i ∧ seq[i]? = some (h, v)
  find_none : c.find v = .ok none ↔ seq.places v = ∅
  rfind_none : c.rfind v = .ok none ↔ seq.places v = ∅
  contains : c.contains v = .ok true ↔ (seq.places v).Nonempty
  absent : c.contains v = .ok false ↔ seq.places v = ∅
  once : ∀ h, (c.find v = .ok (some h) ∧ c.rfind v = .ok (some h)) ↔
    seq.occurrences v = [(h, v)]
  purges : ∃ d, (∀ n e, Purges v c n e ↔ n = (seq.occurrences v).length ∧ e = d) ∧
    d.Shows (seq.others v)

theorem Holds.searches (holds : c.Holds seq) (v : String) : c.Searches seq v where
  find _ := holds.shows.findFrom_eq_some
  rfind _ := holds.shows.findFrom_eq_some
  find_none := holds.shows.findFrom_eq_none
  rfind_none := holds.shows.findFrom_eq_none
  contains := holds.shows.contains_iff
  absent := holds.shows.contains_eq_false
  once h := by
    have nodup : seq.Nodup := .of_map Prod.fst holds.shows.nodup
    rw [Listing.occurrences_eq_singleton nodup, Listing.find?_orient_iff, Listing.find?_orient_iff,
      Chain.find, Chain.rfind, holds.shows.findFrom_eq_some, holds.shows.findFrom_eq_some]
  purges := by
    obtain ⟨d, purges, left⟩ := holds.purges v
    refine ⟨d, fun n e => ⟨fun purges' => purges'.unique purges, ?_⟩, left.shows⟩
    rintro ⟨rfl, rfl⟩
    exact purges

theorem searches_are_exact (id : ChainId) (policy : Policy) (actions : List Action) :
    ∃ c seq, (Chain.empty id policy).run actions = .ok c ∧ c.Shows seq ∧
      ∀ v, c.Searches seq v := by
  obtain ⟨c, seq, ran, holds⟩ := run_holds id policy actions
  exact ⟨c, seq, ran, holds.shows, holds.searches⟩

end Chain
end StringChain
