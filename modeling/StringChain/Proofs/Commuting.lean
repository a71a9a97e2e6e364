import StringChain.Proofs.Grounds
import StringChain.Proofs.Lifetime

namespace StringChain

section Splice

variable {α β : Type} {stop stop' keep : α → Bool} {x y : α} {l : List α}

def splice (stop : α → Bool) (x : α) : List α → List α
  | [] => [x]
  | a :: l => if stop a then x :: a :: l else a :: splice stop x l

theorem splice_of_none (past : ∀ a ∈ l, stop a = false) : splice stop x l = l ++ [x] := by
  induction l with
  | nil => rfl
  | cons a l ih =>
    have first : stop a = false := past a List.mem_cons_self
    have rest := ih fun b hb => past b (List.mem_cons_of_mem a hb)
    simp [splice, first, rest]

theorem splice_of_cut {before after : List α} {a : α} (past : ∀ b ∈ before, stop b = false)
    (hit : stop a = true) :
    splice stop x (before ++ a :: after) = before ++ x :: a :: after := by
  induction before with
  | nil => simp [splice, hit]
  | cons b before ih =>
    have first : stop b = false := past b List.mem_cons_self
    have rest := ih fun b' hb => past b' (List.mem_cons_of_mem b hb)
    simp [splice, first, rest]

theorem mem_splice_of_mem {a : α} (inside : a ∈ l) : a ∈ splice stop x l := by
  induction l with
  | nil => cases inside
  | cons b l ih =>
    rw [splice]
    split
    · exact List.mem_cons_of_mem x inside
    · rcases List.mem_cons.mp inside with rfl | inside
      · exact List.mem_cons_self
      · exact List.mem_cons_of_mem b (ih inside)

-- Two that go in at the end do not commute: one of them has to be stopped.
theorem splice_comm (apart : ∀ a, stop a = true → stop' a = false) (past : stop y = false)
    (past' : stop' x = false) (hit : ∃ a ∈ l, stop a = true ∨ stop' a = true) :
    splice stop x (splice stop' y l) = splice stop' y (splice stop x l) := by
  induction l with
  | nil =>
    obtain ⟨a, inside, -⟩ := hit
    cases inside
  | cons a l ih =>
    cases here : stop a with
    | true => simp [splice, here, apart a here, past']
    | false =>
      cases here' : stop' a with
      | true => simp [splice, here, here', past]
      | false =>
        have hit' : ∃ b ∈ l, stop b = true ∨ stop' b = true := by
          obtain ⟨b, inside, stopped⟩ := hit
          rcases List.mem_cons.mp inside with rfl | inside
          · simp [here, here'] at stopped
          · exact ⟨b, inside, stopped⟩
        simp [splice, here, here', ih hit']

theorem filter_splice (kept : keep x = true) (stays : ∀ a, stop a = true → keep a = true) :
    (splice stop x l).filter keep = splice stop x (l.filter keep) := by
  induction l with
  | nil => simp [splice, kept]
  | cons a l ih =>
    cases here : stop a with
    | true => simp [splice, here, kept, stays a here]
    | false => cases stay : keep a <;> simp [splice, here, stay, ih]

theorem filterMap_splice {f : α → Option β} (hidden : f x = none) :
    (splice stop x l).filterMap f = l.filterMap f := by
  induction l with
  | nil => simp [splice, hidden]
  | cons a l ih =>
    rw [splice]
    split
    · simp [hidden]
    · simp only [List.filterMap_cons, ih]

end Splice

-- A listing to one who does not know all of its handles.
abbrev Veiled := List (Option Handle × String)

namespace Veiled

def name? (e : Option Handle × String) : Option (Handle × String) := e.1.map fun h => (h, e.2)

def named (l : Veiled) : Listing := l.filterMap name?

end Veiled

inductive Edit where
  | insert (target : Option Handle) (value : String)
  | remove (handle : Handle)

namespace Edit

def call : Edit → Call
  | insert target value => .insertBefore target value
  | remove h => .remove h

def anchor : Edit → Option Handle
  | insert target _ => target
  | remove h => some h

def verdict (c : Chain) : Edit → Except Refusal (Option String)
  | insert _ value =>
    match c.policy.objection? value with
    | some objection => .error (.invalidArgument objection)
    | none => .ok none
  | remove h => .ok (c.get? h)

def stop (target : Option Handle) (e : Option Handle × String) : Bool :=
  target.any fun h => decide (e.1 = some h)

def redraw (p : Policy) : Edit → Veiled → Veiled
  | insert target value, l =>
    if p.objection? value = none then splice (stop target) (none, value) l else l
  | remove h, l => l.filter fun e => decide (e.1 ≠ some h)

def Live (c : Chain) (a : Edit) : Prop := ∀ h, a.anchor = some h → c.has h = true

def Stands (c : Chain) (l : Veiled) (a : Edit) : Prop :=
  ∀ h, a.anchor = some h → ∃ v, c.get? h = some v ∧ (some h, v) ∈ l

variable {c : Chain} {p : Policy} {l : Veiled} {a b : Edit}

theorem redraw_insert (target : Option Handle) (value : String) :
    (insert target value).redraw p l =
      if p.objection? value = none then splice (stop target) (none, value) l else l := rfl

theorem redraw_remove (h : Handle) :
    (remove h).redraw p l = l.filter fun e => decide (e.1 ≠ some h) := rfl

theorem stop_iff {target : Option Handle} {e : Option Handle × String} :
    stop target e = true ↔ ∃ h, target = some h ∧ e.1 = some h := by
  simp [stop, Option.any_eq_true]

theorem stop_unnamed (target : Option Handle) (value : String) :
    stop target (none, value) = false := by
  rw [← Bool.not_eq_true, stop_iff]
  rintro ⟨h, -, named⟩
  cases named

theorem Stands.redraw (stands : b.Stands c l) (apart : a.anchor ≠ b.anchor) :
    b.Stands c (a.redraw p l) := by
  intro h anchored
  obtain ⟨v, get, inside⟩ := stands h anchored
  refine ⟨v, get, ?_⟩
  cases a with
  | insert target value =>
    rw [redraw_insert]
    split
    · exact mem_splice_of_mem inside
    · exact inside
  | remove k =>
    have other : some h ≠ some k := fun same => apart (same.symm.trans anchored.symm)
    exact List.mem_filter.mpr ⟨inside, decide_eq_true other⟩

theorem insert_comm {t u : Option Handle} {v w : String} (apart : t ≠ u)
    (stands : (insert t v).Stands c l) (stands' : (insert u w).Stands c l) :
    splice (stop t) (none, v) (splice (stop u) (none, w) l) =
      splice (stop u) (none, w) (splice (stop t) (none, v) l) := by
  refine splice_comm ?_ (stop_unnamed t w) (stop_unnamed u v) ?_
  · intro e here
    rw [← Bool.not_eq_true, stop_iff]
    rintro ⟨k, rfl, there⟩
    obtain ⟨h, rfl, named⟩ := stop_iff.mp here
    exact apart (named.symm.trans there)
  · cases t with
    | some h =>
      obtain ⟨_, -, inside⟩ := stands h rfl
      exact ⟨_, inside, .inl (stop_iff.mpr ⟨h, rfl, rfl⟩)⟩
    | none =>
      obtain ⟨k, rfl⟩ := Option.ne_none_iff_exists'.mp (Ne.symm apart)
      obtain ⟨_, -, inside⟩ := stands' k rfl
      exact ⟨_, inside, .inr (stop_iff.mpr ⟨k, rfl, rfl⟩)⟩

theorem remove_insert_comm {t : Option Handle} {h : Handle} {v : String} (apart : t ≠ some h) :
    (remove h).redraw p ((insert t v).redraw p l) =
      (insert t v).redraw p ((remove h).redraw p l) := by
  simp only [redraw_insert, redraw_remove]
  split
  · refine filter_splice (by simp) fun e here => ?_
    obtain ⟨k, rfl, named⟩ := stop_iff.mp here
    exact decide_eq_true (named ▸ apart)
  · rfl

theorem redraw_comm (stands : a.Stands c l) (stands' : b.Stands c l)
    (apart : a.anchor ≠ b.anchor) :
    b.redraw p (a.redraw p l) = a.redraw p (b.redraw p l) := by
  cases a with
  | insert t v =>
    cases b with
    | insert u w =>
      simp only [redraw_insert]
      split <;> split
      · exact (insert_comm apart stands stands').symm
      all_goals rfl
    | remove h => exact remove_insert_comm apart
  | remove h =>
    cases b with
    | insert u w => exact (remove_insert_comm (Ne.symm apart)).symm
    | remove k =>
      simp only [redraw, List.filter_filter]
      exact congrArg (List.filter · l) (funext fun e => Bool.and_comm _ _)

def spared (a : Edit) (seq : Listing) : Listing := seq.filter fun e => !a.call.takes e.1

theorem named_redraw (a : Edit) (p : Policy) (l : Veiled) :
    (a.redraw p l).named = a.spared l.named := by
  cases a with
  | insert target value =>
    have spares : (insert target value).spared l.named = l.named :=
      List.filter_eq_self.mpr fun e _ => rfl
    rw [spares, redraw_insert]
    split
    · have hidden : Veiled.name? (none, value) = none := rfl
      exact filterMap_splice hidden
    · rfl
  | remove h =>
    simp only [redraw_remove, spared, Veiled.named, List.filterMap_filter, List.filter_filterMap]
    refine List.filterMap_congr fun e _ => ?_
    obtain ⟨k, v⟩ := e
    cases k with
    | none => rfl
    | some k =>
      by_cases same : k = h
      · simp [Veiled.name?, call, Call.takes, same, Option.filter]
      · simp [Veiled.name?, call, Call.takes, same, Ne.symm same, Option.filter]

end Edit

def Reply.value? : Reply → Option String
  | value v => some v
  | handle _ => none
  | done => none

namespace Chain

variable {base c d e : Chain} {l f : List Nat} {seq : Listing} {m : Memory} {a b : Edit}

def both (c : Chain) (first second : Call) (m : Memory) :
    Checked (Except Refusal (Option String) × Except Refusal (Option String) × Chain) := do
  let (o, m) ← c.perform first m
  let (o', _) ← o.chain.perform second m
  .ok (o.result.map Reply.value?, o'.result.map Reply.value?, o'.chain)

def veil (c : Chain) (seq : Listing) : Veiled :=
  seq.map fun e => (if c.has e.1 then some e.1 else none, e.2)

theorem map_snd_veil (c : Chain) (seq : Listing) :
    (c.veil seq).map Prod.snd = seq.map Prod.snd := by
  simp [veil]

theorem veil_append (c : Chain) (s t : Listing) : c.veil (s ++ t) = c.veil s ++ c.veil t :=
  List.map_append

theorem veil_cons_of_has {h : Handle} (v : String) (known : c.has h = true) :
    c.veil ((h, v) :: seq) = (some h, v) :: c.veil seq := by
  simp [veil, known]

theorem veil_cons_of_not_has {h : Handle} (v : String) (unknown : c.has h = false) :
    c.veil ((h, v) :: seq) = (none, v) :: c.veil seq := by
  simp [veil, unknown]

def known (c : Chain) (seq : Listing) : Listing := seq.filter fun e => c.has e.1

theorem named_veil (c : Chain) (seq : Listing) : (c.veil seq).named = c.known seq := by
  unfold known
  induction seq with
  | nil => rfl
  | cons e seq ih =>
    obtain ⟨h, v⟩ := e
    cases known : c.has h with
    | true =>
      rw [veil_cons_of_has v known, List.filter_cons_of_pos (by simpa using known), ← ih]
      rfl
    | false =>
      rw [veil_cons_of_not_has v known, List.filter_cons_of_neg (by simp [known]), ← ih]
      rfl

theorem mem_of_mem_veil {h : Handle} {v : String} (inside : (some h, v) ∈ c.veil seq) :
    (h, v) ∈ seq := by
  obtain ⟨⟨k, w⟩, found, same⟩ := List.mem_map.mp inside
  obtain ⟨named, rfl⟩ := Prod.mk.inj same
  obtain rfl : k = h := by
    split at named
    · exact Option.some.inj named
    · cases named
  exact found

-- A slot comes to no generation twice, so that new handles are told from all earlier ones.
theorem Intact.upcoming_unknown (intact : c.Intact l f) (evolves : base.Evolves c) :
    base.has c.upcomingHandle = false := by
  rw [← Bool.not_eq_true]
  intro known
  obtain ⟨_, resolved⟩ := has_iff.mp known
  obtain ⟨rfl, v, present⟩ := resolve_eq_ok_iff_pair?.mp resolved
  have before : base.rank c.arena.upcoming = 2 * c.upcomingGeneration.toNat + 1 :=
    rank_of_pair present
  have grows := evolves.rank c.arena.upcoming
  rw [before, intact.rank_upcoming] at grows
  exact absurd grows (Nat.not_succ_le_self _)

theorem ne_of_mem_veil {before after : Listing} {h : Handle} {v : String}
    (nodup : ((before ++ (h, v) :: after).map Prod.fst).Nodup) {e : Option Handle × String}
    (inside : e ∈ c.veil before ++ c.veil after) : e.1 ≠ some h := by
  intro named
  obtain ⟨_, w⟩ := e
  cases named
  rw [← veil_append] at inside
  exact Listing.not_mem_of_cut nodup (List.mem_map_of_mem (mem_of_mem_veil inside))

theorem veil_insert {target : Option Handle} {value : String} {h : Handle} {seq' : Listing}
    (nodup : (seq.map Prod.fst).Nodup) (unknown : c.has h = false)
    (known : ∀ t, target = some t → c.has t = true)
    (step : Listing.Step seq (.insertBefore target value) (.ok (.handle h)) seq') :
    c.veil seq' = splice (Edit.stop target) (none, value) (c.veil seq) := by
  cases step with
  | append =>
    rw [veil_append, veil_cons_of_not_has value unknown]
    exact (splice_of_none fun _ _ => rfl).symm
  | @insert before after t _ w =>
    have known : c.has t = true := known t rfl
    rw [veil_append, veil_append, veil_cons_of_not_has value unknown, veil_cons_of_has w known]
    refine (splice_of_cut (fun e inside => ?_) (Edit.stop_iff.mpr ⟨t, rfl, rfl⟩)).symm
    rw [← Bool.not_eq_true, Edit.stop_iff]
    rintro ⟨_, ⟨⟩, named⟩
    exact ne_of_mem_veil nodup (List.mem_append_left (c.veil after) inside) named

theorem veil_remove {before after : Listing} {h : Handle} {v : String}
    (nodup : ((before ++ (h, v) :: after).map Prod.fst).Nodup) (known : c.has h = true) :
    c.veil (before ++ after) =
      (c.veil (before ++ (h, v) :: after)).filter fun e => decide (e.1 ≠ some h) := by
  have others : ∀ e ∈ c.veil before ++ c.veil after, decide (e.1 ≠ some h) = true :=
    fun e inside => decide_eq_true (ne_of_mem_veil nodup inside)
  rw [veil_append, veil_append, veil_cons_of_has v known, List.filter_append,
    List.filter_cons_of_neg (by simp), ← List.filter_append, List.filter_eq_self.mpr others]

theorem has_of_get? {h : Handle} {v : String} (get : c.get? h = some v) : c.has h = true :=
  has_iff.mpr ⟨h.index, resolve_eq_ok_iff_pair?.mpr ⟨rfl, v, get?_eq_some_iff.mp get⟩⟩

theorem Holds.placed (holds : c.Holds seq) {target : Option Handle}
    (stands : ∀ t, target = some t → ∃ v, (t, v) ∈ seq) : ∃ place, c.Placed target place := by
  obtain ⟨l, f, intact, lists⟩ := holds
  cases target with
  | none => exact ⟨none, .inl ⟨rfl, rfl⟩⟩
  | some t =>
    obtain ⟨v, inside⟩ := stands t rfl
    have resolved : c.resolve t = .ok t.index :=
      (intact.resolve_iff lists).mpr ⟨rfl, List.mem_map_of_mem inside⟩
    exact ⟨some t.index, .inr ⟨t, rfl, resolved, rfl⟩⟩

def Redraws (base c : Chain) (seq : Listing) (a : Edit) (m : Memory) : Prop :=
  ∃ o m' seq', c.perform a.call m = .ok (o, m') ∧ m'.Ample ∧
    o.result.map Reply.value? = a.verdict base ∧ o.chain.Holds seq' ∧ base.Evolves o.chain ∧
    base.veil seq' = a.redraw base.policy (base.veil seq)

theorem Holds.redraws_insert (holds : c.Holds seq) (evolves : base.Evolves c)
    {target : Option Handle} {value : String}
    (stands : (Edit.insert target value).Stands base (base.veil seq)) (ample : m.Ample) :
    base.Redraws c seq (.insert target value) m := by
  have inside : ∀ t, target = some t → ∃ v, (t, v) ∈ seq := fun t anchored => by
    obtain ⟨v, -, inside⟩ := stands t anchored
    exact ⟨v, mem_of_mem_veil inside⟩
  have known : ∀ t, target = some t → base.has t = true := fun t anchored => by
    obtain ⟨v, get, -⟩ := stands t anchored
    exact has_of_get? get
  obtain ⟨place, placed⟩ := holds.placed inside
  have accepted := accept_of_placed placed value
  rw [evolves.policy] at accepted
  cases objects : base.policy.objection? value with
  | some objection =>
    rw [objects] at accepted
    refine ⟨(c.rejectInsert (.invalidArgument objection)).map .handle, m, seq, ?_, ample, ?_, holds,
      evolves, ?_⟩
    · simp [Edit.call, perform, perform.issued, insertBefore_of_reject accepted, bind, Except.bind]
    · simp [Edit.verdict, objects, rejectInsert, Outcome.map, Except.map]
    · simp [Edit.redraw_insert, objects]
  | none =>
    rw [objects] at accepted
    obtain ⟨o, m', seq', eq, step, holds', evolves'⟩ := insertBefore_step holds target value m
    have nodup := holds.shows.nodup
    obtain ⟨l, f, intact, -⟩ := holds
    obtain ⟨_, _, _, d, _, -, -, ample', eq', -, -⟩ := insertBefore_of_ample intact ample accepted
    cases eq.symm.trans eq'
    refine ⟨⟨.ok (.handle c.upcomingHandle), d, [.inserted c.arena.upcoming d.size]⟩, m', seq', ?_,
      ample', ?_, holds', evolves.trans evolves', ?_⟩
    · simp [Edit.call, perform, perform.issued, eq, bind, Except.bind, Outcome.map, Except.map]
    · simp [Edit.verdict, objects, Except.map, Reply.value?]
    · rw [veil_insert nodup (intact.upcoming_unknown evolves) known step, Edit.redraw_insert,
        if_pos objects]

theorem Holds.redraws_remove (holds : c.Holds seq) (evolves : base.Evolves c) {h : Handle}
    (stands : (Edit.remove h).Stands base (base.veil seq)) (ample : m.Ample) :
    base.Redraws c seq (.remove h) m := by
  obtain ⟨v, get, seen⟩ := stands h rfl
  have inside : (h, v) ∈ seq := mem_of_mem_veil seen
  obtain ⟨before, after, d, events, rfl, eq, holds', evolves'⟩ := holds.remove_mem inside
  refine ⟨⟨.ok (.value v), d, events⟩, m, before ++ after, ?_, ample, ?_, holds',
    evolves.trans evolves', veil_remove holds.shows.nodup (has_of_get? get)⟩
  · simp [Edit.call, perform, eq, bind, Except.bind, Outcome.map, Except.map]
  · simp [Edit.verdict, get, Except.map, Reply.value?]

theorem Holds.redraws (holds : c.Holds seq) (evolves : base.Evolves c)
    (stands : a.Stands base (base.veil seq)) (ample : m.Ample) : base.Redraws c seq a m := by
  cases a with
  | insert target value => exact holds.redraws_insert evolves stands ample
  | remove h => exact holds.redraws_remove evolves stands ample

theorem Holds.both (holds : c.Holds seq) (stands : a.Stands c (c.veil seq))
    (stands' : b.Stands c (c.veil seq)) (apart : a.anchor ≠ b.anchor) (ample : m.Ample) :
    ∃ d s, c.both a.call b.call m = .ok (a.verdict c, b.verdict c, d) ∧ d.Holds s ∧
      c.veil s = b.redraw c.policy (a.redraw c.policy (c.veil seq)) := by
  obtain ⟨o, m₁, s₁, eq, ample₁, result, holds₁, evolves, seen⟩ :=
    holds.redraws (.refl c) stands ample
  have stands₁ : b.Stands c (c.veil s₁) := seen ▸ stands'.redraw apart
  obtain ⟨o', m₂, s₂, eq', -, result', holds₂, -, seen'⟩ := holds₁.redraws evolves stands₁ ample₁
  refine ⟨o'.chain, s₂, ?_, holds₂, seen'.trans (by rw [seen])⟩
  simp [Chain.both, eq, eq', result, result', bind, Except.bind]

theorem Shows.stands (shows : c.Shows seq) (live : a.Live c) : a.Stands c (c.veil seq) := by
  intro h anchored
  have known := live h anchored
  obtain ⟨⟨_, v⟩, inside, rfl⟩ := List.mem_map.mp ((shows.has h).mp known)
  refine ⟨v, (shows.get _ v).mpr inside, ?_⟩
  exact List.mem_map.mpr ⟨_, inside, by simp [known]⟩

structure Agree (c : Chain) (a b : Edit) (d e : Chain) : Prop where
  same : d.sameValues e = .ok true
  size : d.size = e.size
  survivors : ∃ seq s t, c.Shows seq ∧ d.Shows s ∧ e.Shows t ∧
    c.known s = a.spared (b.spared seq) ∧ c.known t = a.spared (b.spared seq)

theorem Shows.known_eq (shows : c.Shows seq) : c.known seq = seq :=
  List.filter_eq_self.mpr fun e inside => (shows.has e.1).mpr (List.mem_map_of_mem inside)

theorem Shows.agree {s t : Listing} (shows : c.Shows seq) (shows₁ : d.Shows s) (shows₂ : e.Shows t)
    (seen : c.veil s = a.redraw c.policy (b.redraw c.policy (c.veil seq)))
    (same : c.veil s = c.veil t) : c.Agree a b d e := by
  have values : s.map Prod.snd = t.map Prod.snd := by
    rw [← map_snd_veil c s, same, map_snd_veil]
  have spared : c.known s = a.spared (b.spared seq) := by
    rw [← named_veil, seen, Edit.named_redraw, Edit.named_redraw, named_veil, shows.known_eq]
  refine ⟨?_, ?_, seq, s, t, shows, shows₁, shows₂, spared, ?_⟩
  · rw [shows₁.sameValues_eq shows₂, values, beq_self_eq_true]
  · rw [shows₁.size, shows₂.size]
    simpa using congrArg List.length values
  · rw [← named_veil, ← same, named_veil, spared]

theorem independent_edits_commute (reachable : c.Reachable) (live : a.Live c) (live' : b.Live c)
    (apart : a.anchor ≠ b.anchor) (ample : m.Ample) :
    ∃ x y d e, c.both a.call b.call m = .ok (x, y, d) ∧ c.both b.call a.call m = .ok (y, x, e) ∧
      c.Agree a b d e := by
  obtain ⟨l, f, intact⟩ := reachable.intact
  obtain ⟨seq, holds⟩ := intact.holds
  have stands : a.Stands c (c.veil seq) := holds.shows.stands live
  have stands' : b.Stands c (c.veil seq) := holds.shows.stands live'
  obtain ⟨d, s, eq, holds₁, seen⟩ := holds.both stands stands' apart ample
  obtain ⟨e, t, eq', holds₂, seen'⟩ := holds.both stands' stands (Ne.symm apart) ample
  have exchanged := Edit.redraw_comm (p := c.policy) stands stands' apart
  exact ⟨_, _, d, e, eq, eq', holds.shows.agree holds₁.shows holds₂.shows
    (seen.trans exchanged) (seen.trans (exchanged.trans seen'.symm))⟩

theorem independent_edits_commute_of_single :
    Edit.Live ⟨1, .bounded, ⟨#[⟨0, .occupied ⟨"a", none, none⟩⟩], none, 4⟩, some 0, some 0, 1⟩
      (.remove ⟨1, 0, 0⟩) ∧
    ∃ x y d e,
      both ⟨1, .bounded, ⟨#[⟨0, .occupied ⟨"a", none, none⟩⟩], none, 4⟩, some 0, some 0, 1⟩
        (.remove ⟨1, 0, 0⟩) (.insertBefore none "b") .unlimited = .ok (x, y, d) ∧
      both ⟨1, .bounded, ⟨#[⟨0, .occupied ⟨"a", none, none⟩⟩], none, 4⟩, some 0, some 0, 1⟩
        (.insertBefore none "b") (.remove ⟨1, 0, 0⟩) .unlimited = .ok (y, x, e) ∧
      Agree ⟨1, .bounded, ⟨#[⟨0, .occupied ⟨"a", none, none⟩⟩], none, 4⟩, some 0, some 0, 1⟩
        (.remove ⟨1, 0, 0⟩) (.insert none "b") d e := by
  have accepted : (Chain.empty 1 .bounded).accept none "a" = .ok none :=
    accept_eq_ok.mpr ⟨by decide +kernel, .inl ⟨rfl, rfl⟩⟩
  have reachable : Reachable
      ⟨1, .bounded, ⟨#[⟨0, .occupied ⟨"a", none, none⟩⟩], none, 4⟩, some 0, some 0, 1⟩ := by
    refine ⟨1, .bounded, [.perform (.pushBack "a") .unlimited], ?_⟩
    simp only [run, act, perform, pushBack, insertBefore, accepted]
    rfl
  have live : Edit.Live
      ⟨1, .bounded, ⟨#[⟨0, .occupied ⟨"a", none, none⟩⟩], none, 4⟩, some 0, some 0, 1⟩
      (.remove ⟨1, 0, 0⟩) := by
    rintro _ ⟨⟩
    rfl
  have appends : Edit.Live
      ⟨1, .bounded, ⟨#[⟨0, .occupied ⟨"a", none, none⟩⟩], none, 4⟩, some 0, some 0, 1⟩
      (.insert none "b") := by
    rintro _ ⟨⟩
  have apart : (Edit.remove ⟨1, 0, 0⟩).anchor ≠ (Edit.insert none "b").anchor := by
    rintro ⟨⟩
  exact ⟨live, independent_edits_commute reachable live appends apart fun _ => rfl⟩

end Chain
end StringChain
