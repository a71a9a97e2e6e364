import Mathlib.Data.List.Induction
import Mathlib.Data.List.Nodup
import StringChain.Chain.Links
import StringChain.Proofs.Visits

namespace StringChain

theorem head?_ne_of_nodup {l m : List Nat} (h : (m ++ l).Nodup) (hm : m ≠ []) :
    l.head? ≠ (m ++ l).head? := by
  cases m with
  | nil => exact absurd rfl hm
  | cons i m =>
    intro e
    have inside : i ∈ l := List.mem_of_head? e
    exact (List.nodup_cons.mp h).1 (List.mem_append_right m inside)

theorem getLast?_ne_of_nodup {l m : List Nat} (h : (l ++ m).Nodup) (hm : m ≠ []) :
    l.getLast? ≠ (l ++ m).getLast? := by
  have reversed : (m.reverse ++ l.reverse).Nodup := by
    rw [← List.reverse_append]
    exact List.nodup_reverse.mpr h
  have heads := head?_ne_of_nodup reversed (by simpa using hm)
  rwa [← List.reverse_append, List.head?_reverse, List.head?_reverse] at heads

theorem neighbours_ne_of_cut {b a before after : List Nat} (nodup : (before ++ after).Nodup)
    (e : b ++ a = before ++ after) (hb : b ≠ before) :
    b.getLast? ≠ before.getLast? ∧ a.head? ≠ after.head? := by
  have nodup' : (b ++ a).Nodup := e ▸ nodup
  rcases List.append_eq_append_iff.mp e with ⟨m, rfl, rfl⟩ | ⟨m, rfl, rfl⟩
  · have hm : m ≠ [] := fun hm => hb (by simp [hm])
    refine ⟨getLast?_ne_of_nodup (nodup.sublist (List.sublist_append_left _ _)) hm, ?_⟩
    exact (head?_ne_of_nodup (nodup'.sublist (List.sublist_append_right _ _)) hm).symm
  · have hm : m ≠ [] := fun hm => hb (by simp [hm])
    refine ⟨(getLast?_ne_of_nodup (nodup'.sublist (List.sublist_append_left _ _)) hm).symm, ?_⟩
    exact head?_ne_of_nodup (nodup.sublist (List.sublist_append_right _ _)) hm

theorem cut_unique {b a before after : List Nat} (nodup : (before ++ after).Nodup)
    (e : b ++ a = before ++ after) (head : a.head? = after.head?) : b = before ∧ a = after := by
  by_cases hb : b = before
  · subst hb
    exact ⟨rfl, List.append_cancel_left e⟩
  · exact absurd head (neighbours_ne_of_cut nodup e hb).2

theorem cut_of_insert {b a before after : List Nat} {i : Nat}
    (e : b ++ a = before ++ i :: after) :
    (b = before ∧ a = i :: after) ∨ (b = before ++ [i] ∧ a = after) ∨
      ∃ b' a', b' ++ a' = before ++ after ∧ b' ≠ before ∧
        b'.getLast? = b.getLast? ∧ a'.head? = a.head? := by
  rcases List.append_eq_append_iff.mp e with ⟨m, rfl, rfl⟩ | ⟨m, rfl, hm⟩
  · cases m with
    | nil => exact .inl (by simp)
    | cons z m => exact .inr (.inr ⟨b, z :: m ++ after, by simp, by simp, rfl, rfl⟩)
  · cases m with
    | nil => exact .inl ⟨by simp, by simpa using hm.symm⟩
    | cons y m =>
      obtain ⟨rfl, rfl⟩ : i = y ∧ after = m ++ a := List.cons.inj hm
      cases m with
      | nil => exact .inr (.inl (by simp))
      | cons z m => exact .inr (.inr ⟨before ++ z :: m, a, by simp, by simp, by simp, rfl⟩)

theorem cut_of_remove {b a before after : List Nat} (i : Nat) (e : b ++ a = before ++ after)
    (hb : b ≠ before) :
    ∃ b' a', b' ++ a' = before ++ i :: after ∧ b'.getLast? = b.getLast? ∧ a'.head? = a.head? := by
  rcases List.append_eq_append_iff.mp e with ⟨m, rfl, rfl⟩ | ⟨m, rfl, rfl⟩
  · cases m with
    | nil => exact absurd (by simp) hb
    | cons z m => exact ⟨b, z :: m ++ i :: after, by simp, rfl, rfl⟩
  · cases m with
    | nil => exact absurd (by simp) hb
    | cons z m => exact ⟨before ++ i :: z :: m, a, by simp, by simp, rfl⟩

namespace Chain

def Adjacent (c : Chain) (x y : Option Nat) : Prop := c.nextOf x = .ok y ∧ c.prevOf y = .ok x

-- At every cut the last position before it and the first after it are linked to each other.
def Ring (c : Chain) (l : List Nat) : Prop :=
  ∀ before after, before ++ after = l → c.Adjacent before.getLast? after.head?

def nextAt? (c : Chain) (i : Nat) : Option (Option Nat) := (c.arena.content? i).map Node.next

def prevAt? (c : Chain) (i : Nat) : Option (Option Nat) := (c.arena.content? i).map Node.prev

theorem nextAt?_of_nextOf {c : Chain} {i : Nat} {u : Option Nat} (h : c.nextOf (some i) = .ok u) :
    c.nextAt? i = some u := by
  obtain ⟨n, hn, rfl⟩ := nextOf_some_eq_ok.mp h
  simp [nextAt?, hn]

theorem prevAt?_of_prevOf {c : Chain} {i : Nat} {u : Option Nat} (h : c.prevOf (some i) = .ok u) :
    c.prevAt? i = some u := by
  obtain ⟨n, hn, rfl⟩ := prevOf_some_eq_ok.mp h
  simp [prevAt?, hn]

namespace Ring

variable {c d : Chain} {l before after : List Nat} {i : Nat}

theorem headIndex_eq (h : c.Ring l) : c.headIndex = l.head? := Except.ok.inj (h [] l rfl).1

theorem tailIndex_eq (h : c.Ring l) : c.tailIndex = l.getLast? :=
  Except.ok.inj (h l [] (List.append_nil l)).2

theorem nextOf_eq (h : c.Ring (before ++ i :: after)) : c.nextOf (some i) = .ok after.head? := by
  have cut := h (before ++ [i]) after (by simp)
  simpa using cut.1

theorem prevOf_eq (h : c.Ring (before ++ i :: after)) :
    c.prevOf (some i) = .ok before.getLast? := by
  have cut := h before (i :: after) rfl
  simpa using cut.2

theorem visits_next (h : c.Ring (before ++ after)) : Visits c.nextAt? after.head? after := by
  induction after generalizing before with
  | nil => exact .done
  | cons i after ih =>
    have shifted : c.Ring ((before ++ [i]) ++ after) := by simpa using h
    exact .step (nextAt?_of_nextOf h.nextOf_eq) (ih shifted)

theorem visits_prev (h : c.Ring (before ++ after)) :
    Visits c.prevAt? before.getLast? before.reverse := by
  induction before using List.reverseRecOn generalizing after with
  | nil => exact .done
  | append_singleton before i ih =>
    have shifted : c.Ring (before ++ i :: after) := by simpa using h
    simpa using Visits.step (prevAt?_of_prevOf shifted.prevOf_eq) (ih shifted)

theorem visits_forward (h : c.Ring l) : Visits c.nextAt? c.headIndex l := by
  have cut : c.Ring ([] ++ l) := h
  rw [h.headIndex_eq]
  exact cut.visits_next

theorem visits_backward (h : c.Ring l) : Visits c.prevAt? c.tailIndex l.reverse := by
  have cut : c.Ring (l ++ []) := by simpa using h
  rw [h.tailIndex_eq]
  exact cut.visits_prev

theorem congr (h : c.Ring l) (next : ∀ q u, c.nextOf q = .ok u → d.nextOf q = .ok u)
    (prev : ∀ q u, c.prevOf q = .ok u → d.prevOf q = .ok u) : d.Ring l := by
  intro before after e
  obtain ⟨hnext, hprev⟩ := h before after e
  exact ⟨next _ _ hnext, prev _ _ hprev⟩

theorem insert (h : c.Ring (before ++ after)) (nodup : (before ++ after).Nodup)
    (new : i ∉ before ++ after) (left : d.Adjacent before.getLast? (some i))
    (right : d.Adjacent (some i) after.head?)
    (next : ∀ q u, q ≠ before.getLast? → q ≠ some i → c.nextOf q = .ok u → d.nextOf q = .ok u)
    (prev : ∀ q u, q ≠ after.head? → q ≠ some i → c.prevOf q = .ok u → d.prevOf q = .ok u) :
    d.Ring (before ++ i :: after) := by
  intro b a e
  rcases cut_of_insert e with ⟨rfl, rfl⟩ | ⟨rfl, rfl⟩ | ⟨b', a', e', hb, hlast, hhead⟩
  · exact left
  · simpa using right
  · obtain ⟨hnext, hprev⟩ := h b' a' e'
    obtain ⟨last_ne, head_ne⟩ := neighbours_ne_of_cut nodup e' hb
    have last_old : b'.getLast? ≠ some i := fun hi =>
      new (e' ▸ List.mem_append_left a' (List.mem_of_getLast? hi))
    have head_old : a'.head? ≠ some i := fun hi =>
      new (e' ▸ List.mem_append_right b' (List.mem_of_head? hi))
    rw [← hlast, ← hhead]
    exact ⟨next _ _ last_ne last_old hnext, prev _ _ head_ne head_old hprev⟩

theorem remove (h : c.Ring (before ++ i :: after)) (nodup : (before ++ i :: after).Nodup)
    (seam : d.Adjacent before.getLast? after.head?)
    (next : ∀ q u, q ≠ before.getLast? → q ≠ some i → c.nextOf q = .ok u → d.nextOf q = .ok u)
    (prev : ∀ q u, q ≠ after.head? → q ≠ some i → c.prevOf q = .ok u → d.prevOf q = .ok u) :
    d.Ring (before ++ after) := by
  obtain ⟨gone, rest⟩ := List.nodup_cons.mp (List.nodup_middle.mp nodup)
  intro b a e
  by_cases hb : b = before
  · subst hb
    obtain rfl : a = after := List.append_cancel_left e
    exact seam
  · obtain ⟨b', a', e', hlast, hhead⟩ := cut_of_remove i e hb
    obtain ⟨hnext, hprev⟩ := h b' a' e'
    rw [hlast, hhead] at hnext hprev
    obtain ⟨last_ne, head_ne⟩ := neighbours_ne_of_cut rest e hb
    have last_other : b.getLast? ≠ some i := fun hi =>
      gone (e ▸ List.mem_append_left a (List.mem_of_getLast? hi))
    have head_other : a.head? ≠ some i := fun hi =>
      gone (e ▸ List.mem_append_right b (List.mem_of_head? hi))
    exact ⟨next _ _ last_ne last_other hnext, prev _ _ head_ne head_other hprev⟩

end Ring
end Chain
end StringChain
