import Mathlib.Data.List.Perm.Subperm
import StringChain.Proofs.Retirement

namespace StringChain

theorem length_filter_range {β : Type} (xs : List β) (p : β → Bool) :
    ((List.range xs.length).filter fun i => xs[i]?.any p).length = xs.countP p := by
  induction xs using List.reverseRecOn with
  | nil => rfl
  | append_singleton xs x ih =>
    have earlier : (List.range xs.length).filter (fun i => (xs ++ [x])[i]?.any p) =
        (List.range xs.length).filter fun i => xs[i]?.any p := by
      apply List.filter_congr
      intro i hi
      rw [List.getElem?_append_left (List.mem_range.mp hi)]
    rw [List.length_append, List.length_singleton, List.range_succ, List.filter_append, earlier,
      List.length_append, ih, List.countP_append]
    cases hp : p x <;> simp [hp]

namespace Arena

variable {α : Type}

def retired (a : Arena α) : Nat := a.slots.countP Slot.isRetired

def positions (a : Arena α) (p : Slot α → Bool) : List Nat :=
  (List.range a.size).filter fun i => (a.slot? i).any p

theorem nodup_positions (a : Arena α) (p : Slot α → Bool) : (a.positions p).Nodup :=
  List.nodup_range.filter _

theorem mem_positions {a : Arena α} {p : Slot α → Bool} {i : Nat} :
    i ∈ a.positions p ↔ ∃ s, a.slot? i = some s ∧ p s = true := by
  simp only [positions, List.mem_filter, List.mem_range, Option.any_eq_true]
  constructor
  · rintro ⟨-, found⟩
    exact found
  · rintro ⟨s, hs, hp⟩
    exact ⟨lt_size_of_slot? hs, s, hs, hp⟩

theorem length_positions (a : Arena α) (p : Slot α → Bool) :
    (a.positions p).length = a.slots.toList.countP p := by
  rw [← length_filter_range]
  simp [positions, size, slot?]

theorem length_eq_positions {a : Arena α} {p : Slot α → Bool} {l : List Nat} (nodup : l.Nodup)
    (same : ∀ i, i ∈ l ↔ ∃ s, a.slot? i = some s ∧ p s = true) :
    l.length = a.slots.toList.countP p := by
  rw [← length_positions]
  refine ((List.perm_ext_iff_of_nodup nodup (a.nodup_positions p)).mpr fun i => ?_).length_eq
  rw [same, mem_positions]

theorem retired_eq (a : Arena α) : a.retired = (a.positions Slot.isRetired).length := by
  rw [length_positions, retired, Array.countP_toList]

end Arena

theorem Slot.countP_kinds {α : Type} (slots : List (Slot α)) :
    slots.length = slots.countP (fun s => s.content?.isSome) +
      slots.countP (fun s => s.vacantLink?.isSome) + slots.countP Slot.isRetired := by
  induction slots with
  | nil => rfl
  | cons s rest ih =>
    have one : 1 = (if s.content?.isSome then 1 else 0) + (if s.vacantLink?.isSome then 1 else 0) +
        if s.isRetired then 1 else 0 := by
      obtain ⟨g, e⟩ := s
      cases e <;> rfl
    simp only [List.length_cons, List.countP_cons]
    omega

namespace Chain

variable {c d : Chain} {l f l' f' : List Nat}

theorem Intact.slots_eq (intact : c.Intact l f) :
    c.arena.size = c.size + f.length + c.arena.retired := by
  have occupied : l.length = c.arena.slots.toList.countP fun s => s.content?.isSome := by
    refine Arena.length_eq_positions intact.nodup fun i => ?_
    simp [intact.mem_iff_occupied i, Option.isSome_iff_exists, Slot.content?_eq_some]
  have vacant : f.length = c.arena.slots.toList.countP fun s => s.vacantLink?.isSome := by
    refine Arena.length_eq_positions intact.stack.nodup fun i => ?_
    simp [intact.mem_iff_vacant i, Option.isSome_iff_exists, Slot.vacantLink?_eq_some]
  have kinds := Slot.countP_kinds c.arena.slots.toList
  rw [← occupied, ← vacant, ← intact.size, Array.countP_toList, Array.length_toList] at kinds
  exact kinds

theorem Intact.size_le (intact : c.Intact l f) : c.size ≤ c.arena.size := by
  have slots := intact.slots_eq
  omega

theorem lt_size_of_cell? {s : Slot String} {i : Nat} (cell : c.cell? i = some s) :
    i < c.arena.size := by
  by_contra outside
  rw [cell?_eq_none.mpr (Nat.le_of_not_lt outside)] at cell
  cases cell

theorem size_of_update {s : Slot String} {i : Nat}
    (cells : d.cell? = Function.update c.cell? i (some s)) :
    d.arena.size = max c.arena.size (i + 1) := by
  apply Nat.le_antisymm
  · apply cell?_eq_none.mp
    have past : max c.arena.size (i + 1) ≠ i := by omega
    rw [cells, Function.update_of_ne past]
    exact cell?_eq_none.mpr (Nat.le_max_left _ _)
  · have filled : d.cell? i = some s := by rw [cells, Function.update_self]
    have kept : c.arena.size ≤ d.arena.size :=
      cell?_eq_none.mp (update_eq_none (cells ▸ cell?_eq_none.mpr (Nat.le_refl d.arena.size)))
    exact Nat.max_le.mpr ⟨kept, lt_size_of_cell? filled⟩

theorem size_le_of_update {s : Slot String} {j : Nat} (inside : j < c.arena.size)
    (cells : d.cell? = Function.update c.cell? j (some s)) : d.arena.size ≤ c.arena.size := by
  rw [size_of_update cells, Nat.max_eq_left inside]

namespace Effect

variable {call : Call} {result : Except Refusal Reply}

theorem retired_le (effect : Effect c l f call result d l' f') (intact : c.Intact l f) :
    c.arena.retired ≤ d.arena.retired := by
  rw [Arena.retired_eq, Arena.retired_eq]
  apply List.Subperm.length_le
  apply (c.arena.nodup_positions _).subperm
  intro i member
  obtain ⟨s, hs, retired⟩ := Arena.mem_positions.mp member
  rw [intact.slot_spent hs retired] at hs
  obtain ⟨kept, -⟩ := effect.keeps_retired intact (cell?_eq_retired.mpr hs)
  exact Arena.mem_positions.mpr ⟨_, cell?_eq_retired.mp kept, rfl⟩

theorem length_le (effect : Effect c l f call result d l' f') (keeps : call.discards? = none)
    (stays : call ≠ .clear) : l.length ≤ l'.length := by
  induction effect with
  | refuse n => exact Nat.le_refl _
  | pass => exact Nat.le_refl _
  | fill _ _ _ => simp
  | vacate discards _ _ _ _ _ => cases keeps.symm.trans discards
  | clear _ _ => exact absurd rfl stays
  | extendDone => exact Nat.le_refl _
  | extendNext _ _ _ ih ih' => exact Nat.le_trans (ih rfl (by simp)) (ih' rfl (by simp))

theorem size_le_max (effect : Effect c l f call result d l' f') (intact : c.Intact l f) :
    d.arena.size ≤ max c.arena.size (d.size + d.arena.retired) := by
  induction effect with
  | refuse n => exact Nat.le_max_left _ _
  | pass => exact Nat.le_max_left _ _
  | @fill c d before after f call v n _ intact' becomes =>
    rcases intact.upcoming_cases with ⟨rfl, -⟩ | ⟨_, _, -, slot⟩
    · have slots := intact'.slots_eq
      simp only [List.tail_nil, List.length_nil] at slots
      omega
    · have inside : c.arena.upcoming < c.arena.size := Arena.lt_size_of_slot? slot
      exact Nat.le_trans (size_le_of_update (c := c) inside becomes.cells) (Nat.le_max_left _ _)
  | vacate _ _ _ cell _ becomes =>
    exact Nat.le_trans (size_le_of_update (lt_size_of_cell? cell) becomes.cells)
      (Nat.le_max_left _ _)
  | @clear c d l f f' _ becomes =>
    refine Nat.le_trans (cell?_eq_none.mp ?_) (Nat.le_max_left _ _)
    rw [becomes.cells]
    exact congrArg (Option.map _) (cell?_eq_none.mpr (Nat.le_refl c.arena.size))
  | extendDone => exact Nat.le_max_left _ _
  | @extendNext c d e l l₁ l₂ f f₁ f₂ v rest h result effect _ effect' ih ih' =>
    have intact₁ := effect.intact intact
    have first := ih intact
    have others := ih' intact₁
    have longer := effect'.length_le rfl (by simp)
    have more := effect'.retired_le intact₁
    rw [← intact₁.size, ← (effect'.intact intact₁).size] at longer
    omega

end Effect

def peak (turns : List Turn) : Nat := turns.foldl (fun p turn => max p turn.after.size) 0

theorem Course.peak_bounds {turns : List Turn} (course : Course c l f turns d l' f') {p : Nat}
    (low : p ≤ c.arena.size) (high : c.arena.size ≤ p + c.arena.retired) :
    turns.foldl (fun p turn => max p turn.after.size) p ≤ d.arena.size ∧
      d.arena.size ≤ turns.foldl (fun p turn => max p turn.after.size) p + d.arena.retired := by
  induction course generalizing p with
  | done _ => exact ⟨low, high⟩
  | @step c d e l l₁ l₂ f f₁ f₂ call result turns intact effect _ ih =>
    have kept := effect.size_le
    have grown := effect.size_le_max intact
    have more := effect.retired_le intact
    have fits := (effect.intact intact).size_le
    have low' : max p d.size ≤ d.arena.size := by omega
    have high' : d.arena.size ≤ max p d.size + d.arena.retired := by omega
    exact ih low' high'

theorem Course.size_le {turns : List Turn} (course : Course c l f turns d l' f') :
    ∀ turn ∈ turns, turn.before.arena.size ≤ turn.after.arena.size := by
  induction course with
  | done _ => simp
  | step _ effect _ ih => exact List.forall_mem_cons.mpr ⟨effect.size_le, ih⟩

theorem slots_follow_peak (id : ChainId) (policy : Policy) (calls : List (Call × Memory)) :
    ∃ turns c, (Chain.empty id policy).trace calls = .ok (turns, c) ∧
      peak turns ≤ c.arena.size ∧ c.arena.size ≤ peak turns + c.arena.retired ∧
      (c.arena.retired = 0 → c.arena.size = peak turns) ∧
      ∀ turn ∈ turns, turn.before.arena.size ≤ turn.after.arena.size := by
  obtain ⟨turns, c, l, f, eq, course⟩ := trace_course (empty_intact id policy) calls
  obtain ⟨low, high⟩ := course.peak_bounds (Nat.le_refl 0) (Nat.zero_le _)
  refine ⟨turns, c, eq, low, high, fun none_retired => ?_, course.size_le⟩
  rw [none_retired, Nat.add_zero] at high
  exact Nat.le_antisymm high low

end Chain
end StringChain
