import StringChain.Proofs.Effects
import StringChain.Proofs.Reachable

namespace StringChain

namespace Slot

variable {α : Type} {s : Slot α}

def vacations (s : Slot α) : Nat :=
  match s.entry with
  | .occupied _ => s.generation.toNat
  | .vacant _ => s.generation.toNat
  | .retired => UInt32.size

theorem rank_eq (s : Slot α) : s.rank = 2 * s.vacations + if s.content?.isSome then 1 else 0 := by
  obtain ⟨g, e⟩ := s
  cases e <;> simp [rank, vacations, content?]

theorem vacations_vacate (s : Slot α) (free : Option Nat) :
    (s.vacate free).vacations = s.vacations + if s.content?.isSome then 1 else 0 := by
  have turned := s.rank_vacate free
  have emptied : (s.vacate free).rank = 2 * (s.vacate free).vacations := by
    simp [rank_eq, content?_vacate]
  have filled := s.rank_eq
  omega

theorem vacations_of_kept (kept : s.isRetired = false) : s.vacations = s.generation.toNat := by
  obtain ⟨g, e⟩ := s
  cases e with
  | occupied x => rfl
  | vacant next => rfl
  | retired => cases kept

theorem vacations_of_retired (retired : s.isRetired = true) : s.vacations = UInt32.size := by
  simp [vacations, isRetired_iff.mp retired]

theorem isRetired_iff_vacations : s.isRetired = true ↔ s.vacations = UInt32.size := by
  refine ⟨vacations_of_retired, fun full => ?_⟩
  by_contra kept
  have counted := vacations_of_kept (Bool.eq_false_iff.mpr kept)
  have bound : s.generation.toNat < UInt32.size := s.generation.toNat_lt
  omega

-- The generation stands still at its last value while the count goes one further.
theorem generation_eq_min (spent : s.isRetired = true → s.generation = lastGeneration) :
    s.generation.toNat = min s.vacations (UInt32.size - 1) := by
  by_cases retired : s.isRetired = true
  · rw [spent retired, vacations_of_retired retired]
    rfl
  · have counted := vacations_of_kept (Bool.eq_false_iff.mpr retired)
    have bound : s.generation.toNat < UInt32.size := s.generation.toNat_lt
    omega

theorem generation_le_vacate (s : Slot α) (free : Option Nat) :
    s.generation ≤ (s.vacate free).generation := by
  obtain ⟨g, e⟩ := s
  cases e with
  | occupied x =>
    by_cases last : g = lastGeneration
    · simp [vacate, last]
    · have next : ((⟨g, .occupied x⟩ : Slot α).vacate free).generation = g + 1 := by
        simp [vacate, last]
      rw [next, UInt32.le_iff_toNat_le, toNat_generation_succ last]
      exact Nat.le_succ _
  | vacant next => exact UInt32.le_refl g
  | retired => exact UInt32.le_refl g

theorem vacations_plain (s : Slot Node) : s.plain.vacations = s.vacations := by
  obtain ⟨g, e⟩ := s
  cases e <;> rfl

end Slot

def Turn.vacates (turn : Turn) (i : Nat) : Bool :=
  match turn.call, turn.result with
  | .remove h, .ok _ => h.index == i
  | .delete (some h), .ok _ => h.index == i
  | .clear, .ok _ => (turn.before.arena.content? i).isSome
  | _, _ => false

namespace Turn

variable {before after : Chain} {call : Call} {result : Except Refusal Reply} {i : Nat}

theorem vacates_error {r : Refusal} : vacates ⟨before, call, .error r, after⟩ i = false := by
  cases call with
  | delete target => cases target <;> rfl
  | _ => rfl

theorem vacates_of_value? {v : String} (inserts : call.value? = some v) :
    vacates ⟨before, call, result, after⟩ i = false := by
  cases call with
  | remove h => cases inserts
  | delete target => cases inserts
  | clear => cases inserts
  | _ => rfl

theorem vacates_of_discards? {h : Handle} {reply : Reply} (discards : call.discards? = some h) :
    vacates ⟨before, call, .ok reply, after⟩ i = (h.index == i) := by
  cases call with
  | remove k =>
    cases discards
    rfl
  | delete target =>
    obtain rfl : target = some h := discards
    rfl
  | _ => cases discards

end Turn

namespace Chain

variable {c d : Chain} {l f l' f' : List Nat} {i : Nat}

def vacations (c : Chain) (i : Nat) : Nat := ((c.cell? i).map Slot.vacations).getD 0

theorem vacations_of_cells {s : Slot String} {j : Nat}
    (cells : d.cell? = Function.update c.cell? j (some s)) (i : Nat) :
    d.vacations i = if i = j then s.vacations else c.vacations i := by
  unfold vacations
  rw [cells]
  by_cases hi : i = j
  · subst hi
    simp
  · simp [hi]

theorem Intact.vacations_upcoming (intact : c.Intact l f) :
    c.vacations c.arena.upcoming = c.upcomingGeneration.toNat := by
  rcases intact.upcoming_cell with ⟨absent, zero⟩ | cell
  · simp [vacations, absent, zero]
  · simp [vacations, cell, Slot.vacations]

theorem vacations_clear (becomes : c.Becomes d fun i => (c.cell? i).map (·.vacate none)) (i : Nat) :
    d.vacations i = c.vacations i + if (c.arena.content? i).isSome then 1 else 0 := by
  have occupied : (c.arena.content? i).isSome = ((c.cell? i).bind Slot.content?).isSome := by
    have value := c.valueAt?_eq i
    unfold valueAt? at value
    simp [value]
  unfold vacations
  rw [becomes.cells, occupied]
  cases cell : c.cell? i <;> simp [cell, Slot.vacations_vacate]

namespace Effect

variable {call : Call} {result : Except Refusal Reply}

theorem vacations_eq (effect : Effect c l f call result d l' f') (intact : c.Intact l f) (i : Nat) :
    d.vacations i = c.vacations i + if Turn.vacates ⟨c, call, result, d⟩ i then 1 else 0 := by
  induction effect with
  | refuse n =>
    rw [Turn.vacates_error]
    rfl
  | pass => rfl
  | @fill c d before after f call v n inserts _ becomes =>
    rw [Turn.vacates_of_value? inserts, vacations_of_cells becomes.cells i]
    split
    · next top =>
      rw [top, intact.vacations_upcoming]
      rfl
    · rfl
  | @vacate c d before after f call reply h v discards _ _ cell _ becomes =>
    rw [Turn.vacates_of_discards? discards, vacations_of_cells becomes.cells i]
    by_cases same : i = h.index
    · simp [same, vacations, cell, Slot.vacations_vacate, Slot.content?]
    · simp [same, Ne.symm same]
  | clear _ becomes => exact vacations_clear becomes i
  | extendDone => rfl
  | extendNext effect _ _ ih ih' =>
    have first := ih intact
    rw [Turn.vacates_of_value? rfl] at first
    exact (ih' (effect.intact intact)).trans (congrArg (· + _) first)

theorem keeps_retired (effect : Effect c l f call result d l' f') (intact : c.Intact l f)
    {g : UInt32} (retired : c.cell? i = some ⟨g, .retired⟩) :
    d.cell? i = some ⟨g, .retired⟩ ∧ ∀ h, result = .ok (.handle h) → h.index ≠ i := by
  induction effect with
  | refuse n => exact ⟨retired, by simp⟩
  | pass => exact ⟨retired, by simp⟩
  | @fill c d before after f call v n _ _ becomes =>
    have other : i ≠ c.arena.upcoming := by
      rintro rfl
      rcases intact.upcoming_cell with ⟨absent, -⟩ | vacant
      · cases absent.symm.trans retired
      · cases vacant.symm.trans retired
    refine ⟨?_, ?_⟩
    · rw [becomes.cells, Function.update_of_ne other]
      exact retired
    · intro h issued
      cases issued
      exact other.symm
  | @vacate c d before after f call reply h v _ value _ cell _ becomes =>
    have other : i ≠ h.index := by
      rintro rfl
      cases cell.symm.trans retired
    refine ⟨?_, ?_⟩
    · rw [becomes.cells, Function.update_of_ne other]
      exact retired
    · intro k issued
      exact absurd (Except.ok.inj issued) (value k)
  | clear _ becomes =>
    refine ⟨?_, by simp⟩
    rw [becomes.cells]
    exact congrArg (Option.map (·.vacate none)) retired
  | extendDone => exact ⟨retired, by simp⟩
  | extendNext effect silent _ ih ih' =>
    exact ⟨(ih' (effect.intact intact) (ih intact retired).1).1, fun k issued =>
      absurd issued (silent k)⟩

end Effect

namespace Course

variable {turns : List Turn}

theorem vacations_eq (course : Course c l f turns d l' f') (i : Nat) :
    d.vacations i = c.vacations i + turns.countP (·.vacates i) := by
  induction course with
  | done _ => rfl
  | step intact effect _ ih =>
    rw [ih, effect.vacations_eq intact i, List.countP_cons]
    omega

theorem keeps_retired (course : Course c l f turns d l' f') {g : UInt32}
    (retired : c.cell? i = some ⟨g, .retired⟩) :
    d.cell? i = some ⟨g, .retired⟩ ∧
      ∀ turn ∈ turns, ∀ h, turn.result = .ok (.handle h) → h.index ≠ i := by
  induction course with
  | done _ => exact ⟨retired, by simp⟩
  | step intact effect _ ih =>
    obtain ⟨kept, silent⟩ := effect.keeps_retired intact retired
    obtain ⟨kept', silent'⟩ := ih kept
    exact ⟨kept', List.forall_mem_cons.mpr ⟨silent, silent'⟩⟩

end Course

theorem cell?_eq_retired {g : UInt32} :
    c.cell? i = some ⟨g, .retired⟩ ↔ c.arena.slot? i = some ⟨g, .retired⟩ := by
  unfold cell?
  rw [Option.map_eq_some_iff]
  constructor
  · rintro ⟨⟨g', e⟩, hs, plain⟩
    cases e with
    | occupied n => cases plain
    | vacant next => cases plain
    | retired =>
      cases plain
      exact hs
  · intro hs
    exact ⟨_, hs, rfl⟩

theorem vacations_of_slot? {s : Slot Node} (hs : c.arena.slot? i = some s) :
    c.vacations i = s.vacations := by
  simp [vacations, cell?, hs, Slot.vacations_plain]

theorem Intact.slot_spent (intact : c.Intact l f) {s : Slot Node}
    (hs : c.arena.slot? i = some s) (retired : s.isRetired = true) :
    s = ⟨Slot.lastGeneration, .retired⟩ := by
  have entry : s.entry = .retired := Slot.isRetired_iff.mp retired
  obtain ⟨last, -⟩ := intact.retired_spent hs entry
  obtain ⟨g, e⟩ := s
  subst entry last
  rfl

def Rests (c : Chain) (i : Nat) : Prop :=
  ∀ later, ∃ turns d f, c.trace later = .ok (turns, d) ∧
    d.arena.slot? i = some ⟨Slot.lastGeneration, .retired⟩ ∧
    Visits d.arena.vacantLink? d.arena.free f ∧ i ∉ f ∧
    ∀ turn ∈ turns, ∀ h, turn.result = .ok (.handle h) → h.index ≠ i

theorem Intact.rests (intact : c.Intact l f) {s : Slot Node} (hs : c.arena.slot? i = some s)
    (retired : s.isRetired = true) : c.Rests i := by
  intro later
  obtain ⟨turns, d, l', f', eq, course⟩ := trace_course intact later
  rw [intact.slot_spent hs retired] at hs
  obtain ⟨kept, silent⟩ := course.keeps_retired (cell?_eq_retired.mpr hs)
  have slot := cell?_eq_retired.mp kept
  obtain ⟨-, -, outside⟩ := course.intact_last.retired_spent slot rfl
  exact ⟨turns, d, f', eq, slot, course.intact_last.stack.visits, outside, silent⟩

structure Counts (c : Chain) (i n : Nat) : Prop where
  absent : c.arena.slot? i = none → n = 0
  kept : ∀ s, c.arena.slot? i = some s → s.isRetired = false →
    s.generation.toNat = n ∧ n < UInt32.size
  retired : (∃ s, c.arena.slot? i = some s ∧ s.isRetired = true) ↔ n = UInt32.size
  rests : n = UInt32.size → c.Rests i

theorem Intact.counts (intact : c.Intact l f) (i : Nat) : c.Counts i (c.vacations i) := by
  have retired : (∃ s, c.arena.slot? i = some s ∧ s.isRetired = true) ↔
      c.vacations i = UInt32.size := by
    constructor
    · rintro ⟨s, hs, retired⟩
      rw [vacations_of_slot? hs, Slot.vacations_of_retired retired]
    · intro full
      cases hs : c.arena.slot? i with
      | none => simp [vacations, cell?, hs, UInt32.size] at full
      | some s => exact ⟨s, rfl, Slot.isRetired_iff_vacations.mpr (vacations_of_slot? hs ▸ full)⟩
  refine ⟨?_, ?_, retired, ?_⟩
  · intro absent
    simp [vacations, cell?, absent]
  · intro s hs kept
    rw [vacations_of_slot? hs, Slot.vacations_of_kept kept]
    exact ⟨rfl, s.generation.toNat_lt⟩
  · intro full
    obtain ⟨s, hs, spent⟩ := retired.mpr full
    exact intact.rests hs spent

theorem Intact.toNat_generation (intact : c.Intact l f) {s : Slot Node}
    (hs : c.arena.slot? i = some s) :
    s.generation.toNat = min (c.vacations i) (UInt32.size - 1) := by
  rw [vacations_of_slot? hs]
  refine Slot.generation_eq_min fun retired => ?_
  rw [intact.slot_spent hs retired]

end Chain

def Turn.Steady (turn : Turn) : Prop :=
  ∀ i s, turn.before.arena.slot? i = some s → ∃ t, turn.after.arena.slot? i = some t ∧
    s.generation ≤ t.generation ∧ (turn.vacates i = false → t.generation = s.generation)

namespace Chain

theorem Effect.steady {call : Call} {result : Except Refusal Reply}
    (effect : Effect c l f call result d l' f') (intact : c.Intact l f) :
    Turn.Steady ⟨c, call, result, d⟩ := by
  intro i s hs
  obtain ⟨t, ht⟩ := effect.keeps_slots hs
  have before := intact.toNat_generation hs
  have after := (effect.intact intact).toNat_generation ht
  rw [effect.vacations_eq intact i] at after
  refine ⟨t, ht, UInt32.le_iff_toNat_le.mpr (by omega), fun kept => ?_⟩
  rw [kept] at after
  exact UInt32.toNat_inj.mp (after.trans before.symm)

theorem Course.steady {turns : List Turn} (course : Course c l f turns d l' f') :
    ∀ turn ∈ turns, turn.Steady := by
  induction course with
  | done _ => simp
  | step intact effect _ ih => exact List.forall_mem_cons.mpr ⟨effect.steady intact, ih⟩

theorem generations_count_vacations (id : ChainId) (policy : Policy)
    (calls : List (Call × Memory)) :
    ∃ turns c, (Chain.empty id policy).trace calls = .ok (turns, c) ∧
      (∀ i, c.Counts i (turns.countP (·.vacates i))) ∧
      (∀ turn ∈ turns, turn.Steady) ∧
      (∀ (s : Slot Node) (free : Option Nat), s.generation ≤ (s.vacate free).generation) ∧
      ∀ (s : Slot Node) (n : Node), (s.fill n).generation = s.generation := by
  obtain ⟨turns, c, l, f, eq, course⟩ := trace_course (empty_intact id policy) calls
  refine ⟨turns, c, eq, fun i => ?_, course.steady, ?_, Slot.generation_fill⟩
  · have counted := course.vacations_eq i
    have fresh : (Chain.empty id policy).vacations i = 0 := by
      simp [vacations, cell?, Chain.empty, Arena.empty, Arena.slot?]
    rw [fresh, Nat.zero_add] at counted
    exact counted ▸ course.intact_last.counts i
  · exact Slot.generation_le_vacate

end Chain
end StringChain
