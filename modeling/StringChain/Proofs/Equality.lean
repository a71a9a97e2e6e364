import StringChain.Proofs.Reachable

namespace StringChain

inductive PlacedEdit where
  | insert (place : Nat) (value : String)
  | append (value : String)
  | remove (place : Nat)

namespace PlacedEdit

def call? (handles : List Handle) : PlacedEdit → Option Call
  | insert place value => handles[place]?.map fun h => .insertBefore (some h) value
  | append value => some (.insertBefore none value)
  | remove place => handles[place]?.map .remove

def apply (values : List String) : PlacedEdit → List String
  | insert place value => values.insertIdx place value
  | append value => values ++ [value]
  | remove place => values.eraseIdx place

variable {e : PlacedEdit}

theorem call?_eq_none_congr {handles handles' : List Handle}
    (same : handles.length = handles'.length) :
    e.call? handles = none ↔ e.call? handles' = none := by
  cases e <;> simp [call?, same]

end PlacedEdit

theorem insertIdx_at_cut {α : Type} (before after : List α) (x : α) :
    (before ++ after).insertIdx before.length x = before ++ x :: after := by
  induction before with
  | nil => rfl
  | cons a before ih => simp [ih]

theorem eraseIdx_at_cut {α : Type} (before after : List α) (x : α) :
    (before ++ x :: after).eraseIdx before.length = before ++ after := by
  simp [List.eraseIdx_append_of_length_le]

theorem Listing.place_of_cut {before after : Listing} {h : Handle} {v : String} {place : Nat}
    (nodup : ((before ++ (h, v) :: after).map Prod.fst).Nodup)
    (here : ((before ++ (h, v) :: after).map Prod.fst)[place]? = some h) :
    place = before.length := by
  have there : ((before ++ (h, v) :: after).map Prod.fst)[before.length]? = some h := by simp
  have inside : place < ((before ++ (h, v) :: after).map Prod.fst).length :=
    (List.getElem?_eq_some_iff.mp here).1
  exact (List.getElem?_inj inside nodup).mp (here.trans there.symm)

theorem Listing.Step.values_eq {seq seq' : Listing} {e : PlacedEdit} {call : Call} {reply : Reply}
    (nodup : (seq.map Prod.fst).Nodup) (called : e.call? (seq.map Prod.fst) = some call)
    (step : Listing.Step seq call (.ok reply) seq') :
    seq'.map Prod.snd = e.apply (seq.map Prod.snd) := by
  cases e with
  | insert place value =>
    obtain ⟨t, here, rfl⟩ := Option.map_eq_some_iff.mp called
    cases step with
    | @insert before after _ h w _ =>
      obtain rfl := place_of_cut nodup here
      have cut := insertIdx_at_cut (before.map Prod.snd) (((t, w) :: after).map Prod.snd) value
      rw [List.length_map] at cut
      simpa [PlacedEdit.apply] using cut.symm
  | append value =>
    cases called
    cases step with
    | append => simp [PlacedEdit.apply]
  | remove place =>
    obtain ⟨t, here, rfl⟩ := Option.map_eq_some_iff.mp called
    cases step with
    | @remove before after _ w =>
      obtain rfl := place_of_cut nodup here
      have cut := eraseIdx_at_cut (before.map Prod.snd) (after.map Prod.snd) w
      rw [List.length_map] at cut
      simpa [PlacedEdit.apply] using cut.symm

namespace Chain

variable {a b c : Chain} {seq s t : Listing} {e : PlacedEdit}

def performAt? (c : Chain) (e : PlacedEdit) (m : Memory) : Checked (Option (Outcome Reply)) := do
  match e.call? (← c.handles) with
  | some call =>
    let (o, _) ← c.perform call m
    .ok (some o)
  | none => .ok none

theorem Holds.performAt?_eq (holds : c.Holds seq) (e : PlacedEdit) (m : Memory) :
    (e.call? (seq.map Prod.fst) = none ∧ c.performAt? e m = .ok none) ∨
      ∃ call o seq', e.call? (seq.map Prod.fst) = some call ∧ c.performAt? e m = .ok (some o) ∧
        o.chain.Holds seq' ∧
        ∀ reply, o.result = .ok reply → seq'.map Prod.snd = e.apply (seq.map Prod.snd) := by
  have handles := holds.shows.handles
  cases called : e.call? (seq.map Prod.fst) with
  | none => exact .inl ⟨rfl, by simp [performAt?, handles, called, bind, Except.bind]⟩
  | some call =>
    obtain ⟨o, m', seq', performed, step, holds', -⟩ := perform_step holds call m
    refine .inr ⟨call, o, seq', rfl, ?_, holds', fun reply done => ?_⟩
    · simp [performAt?, handles, called, performed, bind, Except.bind]
    · rw [done] at step
      exact step.values_eq holds.shows.nodup called

theorem Shows.sameValues_iff (shows : a.Shows s) (shows' : b.Shows t) :
    a.sameValues b = .ok true ↔ s.map Prod.snd = t.map Prod.snd := by
  rw [shows.sameValues_eq shows', Except.ok.injEq, beq_iff_eq]

def Congruent (a b : Chain) (e : PlacedEdit) (m m' : Memory) : Prop :=
  ∃ x y, a.performAt? e m = .ok x ∧ b.performAt? e m' = .ok y ∧
    Option.Rel (fun o p => ∀ r r', o.result = .ok r → p.result = .ok r' →
      o.chain.sameValues p.chain = .ok true) x y

theorem Holds.congruent (holds : a.Holds s) (holds' : b.Holds t)
    (same : s.map Prod.snd = t.map Prod.snd) (e : PlacedEdit) (m m' : Memory) :
    a.Congruent b e m m' := by
  have lengths : (s.map Prod.fst).length = (t.map Prod.fst).length := by
    simpa using congrArg List.length same
  have both := PlacedEdit.call?_eq_none_congr (e := e) lengths
  rcases holds.performAt?_eq e m with
    ⟨called, none_there⟩ | ⟨_, o, _, called, performed, left, made⟩
  · rcases holds'.performAt?_eq e m' with ⟨-, none_there'⟩ | ⟨_, _, _, called', -⟩
    · exact ⟨none, none, none_there, none_there', .none⟩
    · simp [called, called'] at both
  · rcases holds'.performAt?_eq e m' with
      ⟨called', -⟩ | ⟨_, p, _, called', performed', right, made'⟩
    · simp [called, called'] at both
    · refine ⟨some o, some p, performed, performed', .some fun r r' done done' => ?_⟩
      rw [left.shows.sameValues_iff right.shows, made r done, made' r' done', same]

structure Compares (a b : Chain) : Prop where
  answer : ∃ s t, a.Shows s ∧ b.Shows t ∧
    a.sameValues b = .ok (decide (s.map Prod.snd = t.map Prod.snd))
  copy : ∀ id, a.sameValues (a.copy id) = .ok true
  edits : a.sameValues b = .ok true → ∀ e m m', a.Congruent b e m m'

theorem Holds.compares (holds : a.Holds s) (holds' : b.Holds t) : a.Compares b where
  answer := by
    refine ⟨s, t, holds.shows, holds'.shows, ?_⟩
    rw [holds.shows.sameValues_eq holds'.shows, beq_eq_decide]
  copy id := (holds.shows.sameValues_iff (holds.copy id).shows).mpr (by simp)
  edits same e m m' :=
    holds.congruent holds' ((holds.shows.sameValues_iff holds'.shows).mp same) e m m'

theorem sameValues_equivalence :
    Equivalence fun a b : {c : Chain // c.Reachable} => a.val.sameValues b.val = .ok true where
  refl a := by
    obtain ⟨s, holds⟩ := a.property.holds
    exact (holds.shows.sameValues_iff holds.shows).mpr rfl
  symm {a b} same := by
    obtain ⟨s, holds⟩ := a.property.holds
    obtain ⟨t, holds'⟩ := b.property.holds
    rw [holds.shows.sameValues_iff holds'.shows] at same
    exact (holds'.shows.sameValues_iff holds.shows).mpr same.symm
  trans {a b c} same same' := by
    obtain ⟨s, holds⟩ := a.property.holds
    obtain ⟨t, holds'⟩ := b.property.holds
    obtain ⟨u, holds''⟩ := c.property.holds
    rw [holds.shows.sameValues_iff holds'.shows] at same
    rw [holds'.shows.sameValues_iff holds''.shows] at same'
    exact (holds.shows.sameValues_iff holds''.shows).mpr (same.trans same')

theorem equality_sees_values_only :
    Equivalence (fun a b : {c : Chain // c.Reachable} => a.val.sameValues b.val = .ok true) ∧
      ∀ a b : {c : Chain // c.Reachable}, a.val.Compares b.val := by
  refine ⟨sameValues_equivalence, fun a b => ?_⟩
  obtain ⟨s, holds⟩ := a.property.holds
  obtain ⟨t, holds'⟩ := b.property.holds
  exact holds.compares holds'

end Chain
end StringChain
