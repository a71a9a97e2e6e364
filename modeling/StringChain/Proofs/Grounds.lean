import StringChain.Proofs.Capacity

namespace StringChain

namespace Policy

theorem nulOffset?_eq_some {value : String} {offset : Nat} :
    nulOffset? value = some offset ↔ value.toByteArray.data[offset]? = some 0 ∧
      ∀ j < offset, value.toByteArray.data[j]? ≠ some 0 := by
  unfold nulOffset?
  rw [Array.findIdx?_eq_some_iff_getElem]
  constructor
  · rintro ⟨inside, found, first⟩
    refine ⟨?_, fun j earlier zero => ?_⟩
    · rw [Array.getElem?_eq_getElem inside]
      exact congrArg some (beq_iff_eq.mp found)
    · obtain ⟨bound, byte⟩ := Array.getElem?_eq_some_iff.mp zero
      exact first j earlier (beq_iff_eq.mpr byte)
  · rintro ⟨zero, first⟩
    obtain ⟨inside, byte⟩ := Array.getElem?_eq_some_iff.mp zero
    refine ⟨inside, beq_iff_eq.mpr byte, fun j earlier found => ?_⟩
    have zero' : value.toByteArray.data[j]? = some 0 := by
      rw [Array.getElem?_eq_getElem (Nat.lt_trans earlier inside)]
      exact congrArg some (beq_iff_eq.mp found)
    exact first j earlier zero'

theorem nulOffset?_eq_none {value : String} :
    nulOffset? value = none ↔ ∀ j : Nat, value.toByteArray.data[j]? ≠ some 0 := by
  unfold nulOffset?
  rw [Array.findIdx?_eq_none_iff]
  constructor
  · intro clean j zero
    have member := Array.mem_of_getElem? zero
    simpa using clean 0 member
  · intro clean byte member
    obtain ⟨j, zero⟩ := Array.getElem?_of_mem member
    refine beq_eq_false_iff_ne.mpr ?_
    rintro rfl
    exact clean j zero

end Policy

namespace Chain

variable {c : Chain} {l f : List Nat} {target : Option Handle} {value : String} {n : Nat}

def Strays (c : Chain) (h : Handle) : Prop :=
  c.arena.size ≤ h.index ∨ ∃ s, c.arena.slot? h.index = some s ∧
    ((∀ node, s.entry ≠ .occupied node) ∨ s.generation ≠ h.generation)

-- What there is against an insertion that is granted its first `n` requests for memory. The number
-- is the place of the check that finds it.
inductive Ground (c : Chain) (target : Option Handle) (value : String) (n : Nat) :
    Nat → Refusal → Prop where
  | foreignNode {h : Handle} : target = some h → h.chain ≠ c.id →
      Ground c target value n 0 .foreignNode
  | staleNode {h : Handle} : target = some h → c.Strays h →
      Ground c target value n 1 .staleNode
  | interiorNul {offset : Nat} : value.toByteArray.data[offset]? = some 0 →
      (∀ j < offset, value.toByteArray.data[j]? ≠ some 0) →
      Ground c target value n 2 (.invalidArgument (.interiorNul offset))
  | tooLong {limit : Nat} : c.policy.maxValueLength = some limit → limit < value.utf8ByteSize →
      Ground c target value n 3 (.invalidArgument (.tooLong value.utf8ByteSize limit))
  | nodeAllocation : c.arena.free = none → c.arena.size = c.arena.capacity → n = 0 →
      Ground c target value n 4 .nodeAllocation
  | valueAllocation : value ≠ "" → n ≤ c.arena.growths →
      Ground c target value n 5 (.valueAllocation value.utf8ByteSize)

def First (c : Chain) (target : Option Handle) (value : String) (n : Nat) (r : Refusal) : Prop :=
  ∃ k, Ground c target value n k r ∧ ∀ j < k, ∀ r', ¬ Ground c target value n j r'

theorem Ground.unique {k : Nat} {r r' : Refusal} (ground : Ground c target value n k r)
    (ground' : Ground c target value n k r') : r = r' := by
  cases ground with
  | foreignNode _ _ =>
    cases ground'
    rfl
  | staleNode _ _ =>
    cases ground'
    rfl
  | @interiorNul i zero first =>
    cases ground' with
    | @interiorNul j zero' first' =>
      rcases Nat.lt_trichotomy i j with earlier | rfl | later
      · exact absurd zero (first' i earlier)
      · rfl
      · exact absurd zero' (first j later)
  | tooLong limited _ =>
    cases ground' with
    | tooLong limited' _ =>
      cases limited.symm.trans limited'
      rfl
  | nodeAllocation _ _ _ =>
    cases ground'
    rfl
  | valueAllocation _ _ =>
    cases ground'
    rfl

theorem First.unique {r r' : Refusal} (first : First c target value n r)
    (first' : First c target value n r') : r = r' := by
  obtain ⟨k, ground, earlier⟩ := first
  obtain ⟨k', ground', earlier'⟩ := first'
  rcases Nat.lt_trichotomy k k' with before | rfl | after
  · exact absurd ground (earlier' k before r)
  · exact ground.unique ground'
  · exact absurd ground' (earlier k' after r')

theorem resolve_cases (c : Chain) (h : Handle) :
    (h.chain ≠ c.id ∧ c.resolve h = .error .foreignNode) ∨
    (h.chain = c.id ∧ c.Strays h ∧ c.resolve h = .error .staleNode) ∨
    (h.chain = c.id ∧ ¬ c.Strays h ∧ c.resolve h = .ok h.index) := by
  by_cases own : h.chain = c.id
  · cases hs : c.arena.slot? h.index with
    | none =>
      have outside : c.arena.size ≤ h.index := by simpa [Arena.slot?, Arena.size] using hs
      exact .inr (.inl ⟨own, .inl outside, by simp [resolve, own, hs]⟩)
    | some s =>
      by_cases live : s.generation = h.generation ∧ s.content?.isSome
      · obtain ⟨node, content⟩ := Option.isSome_iff_exists.mp live.2
        refine .inr (.inr ⟨own, ?_, by simp [resolve, own, hs, live]⟩)
        rintro (outside | ⟨t, ht, empty | other⟩)
        · exact absurd (Arena.lt_size_of_slot? hs) (Nat.not_lt.mpr outside)
        · obtain rfl := Option.some.inj (hs.symm.trans ht)
          exact empty node (Slot.content?_eq_some.mp content)
        · obtain rfl := Option.some.inj (hs.symm.trans ht)
          exact other live.1
      · refine .inr (.inl ⟨own, .inr ⟨s, hs, ?_⟩, by simp [resolve, own, hs, live]⟩)
        by_cases same : s.generation = h.generation
        · refine .inl fun node entry => live ⟨same, ?_⟩
          rw [Slot.content?_eq_some.mpr entry]
          rfl
        · exact .inr same
  · exact .inl ⟨own, resolve_of_foreign own⟩

theorem objection?_cases (p : Policy) (value : String) :
    (∃ offset, p.objection? value = some (.interiorNul offset) ∧
      value.toByteArray.data[offset]? = some 0 ∧
      ∀ j < offset, value.toByteArray.data[j]? ≠ some 0) ∨
    (∃ limit, p.objection? value = some (.tooLong value.utf8ByteSize limit) ∧
      (∀ j : Nat, value.toByteArray.data[j]? ≠ some 0) ∧
      p.maxValueLength = some limit ∧ limit < value.utf8ByteSize) ∨
    (p.objection? value = none ∧ (∀ j : Nat, value.toByteArray.data[j]? ≠ some 0) ∧
      ∀ limit, p.maxValueLength = some limit → value.utf8ByteSize ≤ limit) := by
  cases nul : Policy.nulOffset? value with
  | some offset =>
    obtain ⟨zero, first⟩ := Policy.nulOffset?_eq_some.mp nul
    exact .inl ⟨offset, Policy.objection?_of_nul p nul, zero, first⟩
  | none =>
    have clean := Policy.nulOffset?_eq_none.mp nul
    cases exceeded : p.exceededLimit? value.utf8ByteSize with
    | some limit =>
      obtain ⟨limited, long⟩ := Policy.exceededLimit?_eq_some.mp exceeded
      exact .inr (.inl ⟨limit, by simp [Policy.objection?, nul, exceeded], clean, limited, long⟩)
    | none =>
      refine .inr (.inr ⟨Policy.objection?_eq_none.mpr ⟨nul, exceeded⟩, clean, ?_⟩)
      intro limit limited
      by_contra long
      have found := Policy.exceededLimit?_eq_some.mpr ⟨limited, Nat.lt_of_not_le long⟩
      cases exceeded.symm.trans found

theorem accept_some_of_error {h : Handle} {r : Refusal} (unresolved : c.resolve h = .error r)
    (value : String) : c.accept (some h) value = .error r := by
  simp [accept, unresolved, Functor.map, Except.map, bind, Except.bind]

def Placed (c : Chain) (target : Option Handle) (place : Option Nat) : Prop :=
  (target = none ∧ place = none) ∨ ∃ h, target = some h ∧ c.resolve h = .ok h.index ∧
    place = some h.index

theorem accept_of_placed {place : Option Nat} (placed : c.Placed target place) (value : String) :
    c.accept target value = match c.policy.objection? value with
      | some objection => .error (.invalidArgument objection)
      | none => .ok place := by
  rcases placed with ⟨rfl, rfl⟩ | ⟨h, rfl, resolved, rfl⟩
  · cases objects : c.policy.objection? value <;> simp [accept, objects, bind, Except.bind]
  · cases objects : c.policy.objection? value <;>
      simp [accept, resolved, objects, Functor.map, Except.map, bind, Except.bind]

theorem target_cases (c : Chain) (target : Option Handle) (value : String) (n : Nat) :
    (∃ r, c.accept target value = .error r ∧ First c target value n r) ∨
    (∃ place, c.Placed target place) ∧ ∀ k < 2, ∀ r, ¬ Ground c target value n k r := by
  cases target with
  | none =>
    refine .inr ⟨⟨none, .inl ⟨rfl, rfl⟩⟩, fun k early r ground => ?_⟩
    cases ground with
    | foreignNode named _ => cases named
    | staleNode named _ => cases named
    | _ => omega
  | some h =>
    rcases resolve_cases c h with ⟨foreign, unresolved⟩ | ⟨own, strays, unresolved⟩ |
      ⟨own, stays, resolved⟩
    · refine .inl ⟨_, accept_some_of_error unresolved value, 0, .foreignNode rfl foreign, ?_⟩
      exact fun j before => absurd before (Nat.not_lt_zero j)
    · refine .inl ⟨_, accept_some_of_error unresolved value, 1, .staleNode rfl strays, ?_⟩
      intro j before r ground
      cases ground with
      | foreignNode named foreign =>
        cases named
        exact foreign own
      | _ => omega
    · refine .inr ⟨⟨some h.index, .inr ⟨h, rfl, resolved, rfl⟩⟩, fun k early r ground => ?_⟩
      cases ground with
      | foreignNode named foreign =>
        cases named
        exact foreign own
      | staleNode named strays =>
        cases named
        exact stays strays
      | _ => omega

theorem accept_cases (c : Chain) (target : Option Handle) (value : String) (n : Nat) :
    (∃ r, c.accept target value = .error r ∧ First c target value n r) ∨
    (∃ place, c.accept target value = .ok place) ∧
      ∀ k < 4, ∀ r, ¬ Ground c target value n k r := by
  rcases target_cases c target value n with rejected | ⟨⟨place, placed⟩, sound⟩
  · exact .inl rejected
  have accepted := accept_of_placed placed value
  rcases objection?_cases c.policy value with ⟨offset, objects, zero, first⟩ |
    ⟨limit, objects, clean, limited, long⟩ | ⟨objects, clean, short⟩
  · rw [objects] at accepted
    exact .inl ⟨_, accepted, 2, .interiorNul zero first, sound⟩
  · rw [objects] at accepted
    refine .inl ⟨_, accepted, 3, .tooLong limited long, fun j before r ground => ?_⟩
    by_cases early : j < 2
    · exact sound j early r ground
    · cases ground with
      | interiorNul zero _ => exact clean _ zero
      | _ => omega
  · rw [objects] at accepted
    refine .inr ⟨⟨place, accepted⟩, fun k before r ground => ?_⟩
    by_cases early : k < 2
    · exact sound k early r ground
    · cases ground with
      | interiorNul zero _ => exact clean _ zero
      | tooLong limited long => exact absurd (short _ limited) (Nat.not_le_of_lt long)
      | _ => omega

theorem first_of_no_node {place : Option Nat} (fits : c.Fits)
    (accepted : c.accept target value = .ok place)
    (refused : c.arena.reserve? (.limited n) = none) : First c target value n .nodeAllocation := by
  obtain ⟨⟨free, crowded⟩, denied⟩ := Arena.full_of_reserve? fits refused
  have none_left : n = 0 := by simpa [Memory.limited] using denied
  rcases accept_cases c target value n with ⟨r, rejected, -⟩ | ⟨-, sound⟩
  · cases accepted.symm.trans rejected
  · exact ⟨4, .nodeAllocation free crowded none_left, sound⟩

theorem no_ground_below {place : Option Nat} {a : Arena Node} {m₁ : Memory} (fits : c.Fits)
    (accepted : c.accept target value = .ok place)
    (reserved : c.arena.reserve? (.limited n) = some (a, m₁)) :
    ∀ k < 5, ∀ r, ¬ Ground c target value n k r := by
  rcases accept_cases c target value n with ⟨r, rejected, -⟩ | ⟨-, sound⟩
  · cases accepted.symm.trans rejected
  · intro k below r ground
    by_cases early : k < 4
    · exact sound k early r ground
    · cases ground with
      | nodeAllocation free crowded none_left =>
        have granted := Arena.grants_of_full fits ⟨free, crowded⟩ reserved
        simp [Memory.limited, none_left] at granted
      | _ => omega

theorem first_of_no_value {place : Option Nat} {a : Arena Node} {m₁ : Memory} (fits : c.Fits)
    (accepted : c.accept target value = .ok place)
    (reserved : c.arena.reserve? (.limited n) = some (a, m₁))
    (refused : m₁.hold? value.utf8ByteSize = none) :
    First c target value n (.valueAllocation value.utf8ByteSize) := by
  have bytes : value ≠ "" := by
    rintro rfl
    cases (Memory.hold?_zero m₁).symm.trans refused
  have spent : n ≤ c.arena.growths := by
    have denied := Memory.hold?_eq_none refused
    rw [Arena.grants_of_reserve? reserved, Arena.granted_of_reserve? fits reserved] at denied
    simpa [Memory.limited] using denied
  exact ⟨5, .valueAllocation bytes spent, no_ground_below fits accepted reserved⟩

theorem no_ground_of_linked {place : Option Nat} {a : Arena Node} {m₁ m₂ : Memory} (fits : c.Fits)
    (accepted : c.accept target value = .ok place)
    (reserved : c.arena.reserve? (.limited n) = some (a, m₁))
    (held : m₁.hold? value.utf8ByteSize = some m₂) (k : Nat) (r : Refusal) :
    ¬ Ground c target value n k r := by
  intro ground
  by_cases below : k < 5
  · exact no_ground_below fits accepted reserved k below r ground
  · cases ground with
    | valueAllocation bytes spent =>
      have granted := Memory.grants_of_hold? held (mt String.utf8ByteSize_eq_zero_iff.mp bytes)
      rw [Arena.grants_of_reserve? reserved, Arena.granted_of_reserve? fits reserved] at granted
      have left : c.arena.growths < n := by simpa [Memory.limited] using granted
      exact absurd spent (Nat.not_le_of_lt left)
    | _ => omega

def nextHandle (c : Chain) : Handle :=
  let index := c.arena.free.getD c.arena.size
  ⟨c.id, index, ((c.arena.slot? index).map Slot.generation).getD 0⟩

theorem upcomingHandle_eq (c : Chain) : c.upcomingHandle = c.nextHandle := by
  unfold upcomingHandle nextHandle upcomingGeneration cell?
  rw [Option.map_map]
  have generation : Slot.generation ∘ Slot.plain = Slot.generation := funext Slot.generation_plain
  rw [generation]
  rfl

structure Decides (c : Chain) (target : Option Handle) (value : String) (n : Nat)
    (o : Outcome Handle) (m' : Memory) : Prop where
  refused : ∀ r, o.result = .error r ↔ First c target value n r
  issued : ∀ h, o.result = .ok h ↔ (∀ k r, ¬ Ground c target value n k r) ∧ h = c.nextHandle
  granted : ∀ h, o.result = .ok h →
    m'.granted = c.arena.growths + if value = "" then 0 else 1

theorem decides_of_error {m' : Memory} {o : Outcome Handle} {r : Refusal}
    (failed : o.result = .error r) (first : First c target value n r) :
    Decides c target value n o m' where
  refused r' := by
    rw [failed, Except.error.injEq]
    constructor
    · rintro rfl
      exact first
    · exact first.unique
  issued h := by
    rw [failed]
    obtain ⟨k, ground, -⟩ := first
    exact ⟨fun e => (nomatch e), fun ⟨sound, _⟩ => absurd ground (sound k r)⟩
  granted h done := by
    cases failed.symm.trans done

theorem Ends.decides {m' : Memory} {o : Outcome Handle} (fits : c.Fits)
    (ends : Ends c l f target value (.limited n) o m') : Decides c target value n o m' := by
  cases ends with
  | @unaccepted r rejected =>
    rcases accept_cases c target value n with ⟨r', rejected', first⟩ | ⟨⟨place, accepted⟩, -⟩
    · cases rejected.symm.trans rejected'
      exact decides_of_error rfl first
    · cases accepted.symm.trans rejected
  | noNode accepted refused => exact decides_of_error rfl (first_of_no_node fits accepted refused)
  | noValue accepted reserved refused =>
    exact decides_of_error rfl (first_of_no_value fits accepted reserved refused)
  | linked _ accepted reserved held _ _ =>
    have sound := no_ground_of_linked fits accepted reserved held
    refine ⟨fun r => ?_, fun h => ?_, fun h _ => ?_⟩
    · exact ⟨fun e => (nomatch e), fun ⟨k, ground, _⟩ => absurd ground (sound k r)⟩
    · rw [← upcomingHandle_eq]
      constructor
      · rintro ⟨⟩
        exact ⟨sound, rfl⟩
      · rintro ⟨-, rfl⟩
        rfl
    · rw [(Memory.hold?_eq_some held).2, Arena.granted_of_reserve? fits reserved]
      simp [Memory.limited, String.utf8ByteSize_eq_zero_iff]

theorem insertions_end_at_first_ground (id : ChainId) (policy : Policy) (actions : List Action) :
    ∃ c, (Chain.empty id policy).run actions = .ok c ∧ ∀ target value n,
      ∃ o m', c.insertBefore target value (.limited n) = .ok (o, m') ∧
        Decides c target value n o m' := by
  obtain ⟨c, l, f, eq, intact⟩ := run_intact (empty_intact id policy) actions
  refine ⟨c, eq, fun target value n => ?_⟩
  obtain ⟨o, m', inserted, ends⟩ := insertBefore_ends intact target value (.limited n)
  exact ⟨o, m', inserted, ends.decides (run_fits id policy eq)⟩

end Chain
end StringChain
