import StringChain.Proofs.Workspaces

namespace StringChain

namespace Call

def value? : Call → Option String
  | insertBefore _ value => some value
  | insertBytes _ bytes => String.fromUTF8? (Text.untilNul bytes)
  | pushBack value => some value
  | pushFront value => some value
  | extend _ => none
  | delete _ => none
  | remove _ => none
  | clear => none

def takes (h : Handle) : Call → Bool
  | insertBefore _ _ => false
  | insertBytes _ _ => false
  | pushBack _ => false
  | pushFront _ => false
  | extend _ => false
  | delete target => decide (target = some h)
  | remove k => decide (k = h)
  | clear => true

end Call

namespace Listing

theorem mem_of_cut {before after : Listing} {h k : Handle} {v w : String}
    (inside : (h, v) ∈ before ++ (k, w) :: after) (other : k ≠ h) : (h, v) ∈ before ++ after := by
  rcases List.mem_append.mp inside with left | right
  · exact List.mem_append_left _ left
  · rcases List.mem_cons.mp right with same | right
    · cases same
      exact absurd rfl other
    · exact List.mem_append_right _ right

theorem not_mem_of_cut {before after : Listing} {h : Handle} {v : String}
    (nodup : ((before ++ (h, v) :: after).map Prod.fst).Nodup) :
    h ∉ (before ++ after).map Prod.fst := by
  rw [List.map_append, List.map_cons, List.nodup_middle, List.nodup_cons] at nodup
  rw [List.map_append]
  exact nodup.1

namespace Step

variable {seq seq' : Listing} {call : Call} {result : Except Refusal Reply} {h : Handle}

theorem issue (step : Listing.Step seq call result seq') (issued : result = .ok (.handle h)) :
    ∃ s v t, call.value? = some v ∧ seq = s ++ t ∧ seq' = s ++ (h, v) :: t := by
  induction step with
  | @append seq v k =>
    cases issued
    exact ⟨seq, v, [], rfl, by simp, rfl⟩
  | @insert before after t k w v =>
    cases issued
    exact ⟨before, v, (t, w) :: after, rfl, rfl, rfl⟩
  | bytes decoded _ ih =>
    obtain ⟨s, v, t, value, split⟩ := ih issued
    exact ⟨s, v, t, decoded.trans value, split⟩
  | pushBack _ ih => exact ih issued
  | @pushFront seq v k =>
    cases issued
    exact ⟨[], v, seq, rfl, rfl, rfl⟩
  | extendNext _ _ _ ih =>
    obtain ⟨s, v, t, value, -⟩ := ih issued
    cases value
  | insertRefused => cases issued
  | bytesRefused _ => cases issued
  | pushFrontRefused => cases issued
  | extendDone => cases issued
  | extendStopped _ _ => cases issued
  | remove => cases issued
  | removeRefused _ => cases issued
  | delete => cases issued
  | deleteRefused _ => cases issued
  | deleteNone => cases issued
  | clear => cases issued

theorem spare {v : String} (step : Listing.Step seq call result seq') (inside : (h, v) ∈ seq)
    (spared : ∀ reply, result = .ok reply → call.takes h = false) : (h, v) ∈ seq' := by
  induction step with
  | append => exact List.mem_append_left _ inside
  | insert =>
    rcases List.mem_append.mp inside with left | right
    · exact List.mem_append_left _ left
    · exact List.mem_append_right _ (List.mem_cons_of_mem _ right)
  | insertRefused => exact inside
  | bytes _ _ ih => exact ih inside fun _ _ => rfl
  | bytesRefused _ => exact inside
  | pushBack _ ih => exact ih inside fun _ _ => rfl
  | pushFront => exact List.mem_cons_of_mem _ inside
  | pushFrontRefused => exact inside
  | extendDone => exact inside
  | extendNext _ _ ih ih' => exact ih' (ih inside fun _ _ => rfl) fun _ _ => rfl
  | extendStopped _ _ => exact inside
  | remove => exact mem_of_cut inside (by simpa [Call.takes] using spared _ rfl)
  | removeRefused _ => exact inside
  | delete => exact mem_of_cut inside (by simpa [Call.takes] using spared _ rfl)
  | deleteRefused _ => exact inside
  | deleteNone => exact inside
  | clear => cases spared _ rfl

theorem take {reply : Reply} (step : Listing.Step seq call result seq')
    (nodup : (seq.map Prod.fst).Nodup) (done : result = .ok reply) (takes : call.takes h = true) :
    h ∉ seq'.map Prod.fst := by
  cases step with
  | @remove before after k w =>
    obtain rfl : k = h := by simpa [Call.takes] using takes
    exact not_mem_of_cut nodup
  | @delete before after k w =>
    obtain rfl : k = h := by simpa [Call.takes] using takes
    exact not_mem_of_cut nodup
  | clear => simp
  | removeRefused _ => cases done
  | deleteRefused _ => cases done
  | append => cases takes
  | insert => cases takes
  | insertRefused => cases takes
  | bytes _ _ => cases takes
  | bytesRefused _ => cases takes
  | pushBack _ => cases takes
  | pushFront => cases takes
  | pushFrontRefused => cases takes
  | extendDone => cases takes
  | extendNext _ _ => cases takes
  | extendStopped _ => cases takes
  | deleteNone => cases takes

end Step
end Listing

namespace Chain

variable {c d : Chain} {seq : Listing} {h : Handle} {v : String}

structure Refuses (c : Chain) (h : Handle) (r : Refusal) : Prop where
  insertBefore : ∀ value m, c.insertBefore (some h) value m = .ok (c.rejectInsert r, m)
  remove : c.remove h = .ok ⟨.error r, c, [.deleteRejected r]⟩
  delete : c.delete (some h) = .ok ⟨.error r, c, [.deleteRejected r]⟩
  has : c.has h = false
  node : c.node? h = none
  get : c.get? h = none
  next : c.next h = .ok none
  prev : c.prev h = .ok none

theorem refuses_of_resolve {r : Refusal} (unresolved : c.resolve h = .error r) : c.Refuses h r where
  insertBefore value m := by
    have rejected : c.accept (some h) value = .error r := by
      simp [accept, unresolved, Functor.map, Except.map, bind, Except.bind]
    simp [Chain.insertBefore, rejected]
  remove := by simp [Chain.remove, unresolved]
  delete := by
    simp [Chain.delete, Chain.remove, unresolved, Outcome.map, Except.map, bind, Except.bind]
  has := by simp [Chain.has, unresolved]
  node := by simp [node?, unresolved]
  get := get?_of_stale unresolved
  next := (next_of_resolve_error unresolved).1
  prev := (next_of_resolve_error unresolved).2

theorem resolve_eq_stale (own : h.chain = c.id) (gone : ∀ v, c.pair? h.index ≠ some (h, v)) :
    c.resolve h = .error .staleNode := by
  cases hr : c.resolve h with
  | ok i =>
    obtain ⟨rfl, v, hv⟩ := resolve_eq_ok_iff_pair?.mp hr
    exact absurd hv (gone v)
  | error r =>
    unfold resolve at hr
    rw [if_pos own] at hr
    split at hr
    · split at hr
      · cases hr
      · exact hr.symm
    · exact hr.symm

theorem rank_of_pair (present : c.pair? h.index = some (h, v)) :
    c.rank h.index = 2 * h.generation.toNat + 1 := by
  obtain ⟨-, -, cell⟩ := pair?_eq_some.mp present
  simp [rank, cell, Slot.rank]

theorem pair_of_rank (own : h.chain = c.id)
    (odd : c.rank h.index = 2 * h.generation.toNat + 1) : ∃ v, c.pair? h.index = some (h, v) := by
  unfold rank at odd
  cases cell : c.cell? h.index with
  | none =>
    rw [cell] at odd
    simp at odd
  | some s =>
    rw [cell] at odd
    obtain ⟨v, rfl⟩ := Slot.rank_eq_odd odd
    exact ⟨v, pair?_eq_some.mpr ⟨own, rfl, cell⟩⟩

-- Ranks only grow, so a slot that has passed the rank of `h` never bears it again.
def Bears (c : Chain) (h : Handle) (v : String) (live : Bool) : Prop :=
  h.chain = c.id ∧ if live then c.pair? h.index = some (h, v)
    else 2 * h.generation.toNat + 1 < c.rank h.index

theorem Bears.refuses (bears : c.Bears h v false) : c.Refuses h .staleNode := by
  obtain ⟨own, passed⟩ := bears
  apply refuses_of_resolve
  apply resolve_eq_stale own
  intro w present
  exact absurd (rank_of_pair present) (Nat.ne_of_gt passed)

theorem Holds.mem_iff (holds : c.Holds seq) : (h, v) ∈ seq ↔ c.pair? h.index = some (h, v) := by
  obtain ⟨l, f, intact, lists⟩ := holds
  exact intact.mem_listing_iff lists

theorem Holds.bears_gone (holds : d.Holds seq) (evolves : c.Evolves d)
    (present : c.pair? h.index = some (h, v)) (gone : h ∉ seq.map Prod.fst) :
    d.Bears h v false := by
  obtain ⟨own, -⟩ := pair?_eq_some.mp present
  have own' : h.chain = d.id := own.trans evolves.id.symm
  refine ⟨own', ?_⟩
  have grown : 2 * h.generation.toNat + 1 ≤ d.rank h.index :=
    rank_of_pair present ▸ evolves.rank h.index
  apply Nat.lt_of_le_of_ne grown
  intro same
  obtain ⟨w, hw⟩ := pair_of_rank own' same.symm
  exact gone (List.mem_map_of_mem (holds.mem_iff.mpr hw))

end Chain

structure Spot where
  name : String
  live : Bool

namespace Moment

variable {mo : Moment} {name : String} {c d : Chain} {seq : Listing} {h : Handle} {v : String}

def takes (mo : Moment) (name : String) (h : Handle) : Bool :=
  match mo.act, mo.reply with
  | .perform other call _, some (.ok _) => decide (other = name) && call.takes h
  | _, _ => false

def follow (mo : Moment) (h : Handle) (spot : Spot) : Option Spot :=
  (mo.goes spot.name).map (⟨·, spot.live && !mo.takes spot.name h⟩)

def Gives (mo : Moment) (name : String) (h : Handle) (v : String) : Prop :=
  ∃ call m c d, mo.act = .perform name call m ∧ mo.before.chain? name = some c ∧
    mo.after.chain? name = some d ∧ c.has h = false ∧ d.get? h = some v

theorem takes_of_spared (spared : ∀ call m, mo.act ≠ .perform name call m) (h : Handle) :
    mo.takes name h = false := by
  unfold takes
  split
  · next other call m reply act result =>
    have differ : other ≠ name := fun e => spared call m (e ▸ act)
    simp [differ]
  · rfl

theorem Treats.bears {live : Bool} (treats : mo.Treats name c d) (holds : c.Holds seq)
    (bears : c.Bears h v live) : d.Bears h v (live && !mo.takes name h) := by
  cases treats with
  | spares spared =>
    rw [takes_of_spared spared h]
    simpa using bears
  | @performs call m m' o act reply performs =>
    obtain ⟨_, _, seq', eq, step, holds', evolves⟩ := Chain.perform_step holds call m
    cases performs.symm.trans eq
    obtain ⟨own, state⟩ := bears
    have own' : h.chain = o.chain.id := own.trans evolves.id.symm
    cases live with
    | false => exact ⟨own', Nat.lt_of_lt_of_le state (evolves.rank h.index)⟩
    | true =>
      have inside : (h, v) ∈ seq := holds.mem_iff.mpr state
      cases result : o.result with
      | error r =>
        rw [result] at step
        have kept := step.spare inside (by simp)
        simpa [takes, act, reply, result, Chain.Bears, own'] using holds'.mem_iff.mp kept
      | ok answer =>
        rw [result] at step
        cases taken : call.takes h with
        | false =>
          have kept := step.spare inside fun _ _ => taken
          simpa [takes, act, reply, result, taken, Chain.Bears, own'] using holds'.mem_iff.mp kept
        | true =>
          have gone := step.take holds.shows.nodup rfl taken
          simpa [takes, act, reply, result, taken] using holds'.bears_gone evolves state gone

end Moment

namespace Workspace

def history (w : Workspace) : List Act → Checked (List Moment)
  | [] => .ok []
  | act :: rest => do
    let (reply, w') ← w.step act
    .ok (⟨w, act, reply, w'⟩ :: (← w'.history rest))

def Sees (w : Workspace) (h : Handle) (v : String) : Option Spot → Prop
  | some spot =>
    (∃ c, w.chain? spot.name = some c ∧
      if spot.live then c.get? h = some v else c.Refuses h .staleNode) ∧
    ∀ name d, name ≠ spot.name → w.chain? name = some d → d.Refuses h .foreignNode
  | none => ∀ name d, w.chain? name = some d → d.Refuses h .foreignNode

def Watched (w : Workspace) (h : Handle) (v : String) (spot : Option Spot) : List Moment → Prop
  | [] => w.Sees h v spot
  | mo :: rest => w.Sees h v spot ∧ mo.after.Watched h v (spot.bind (mo.follow h)) rest

def Tracks (w : Workspace) (n : Nat) (h : Handle) (v : String) : Option Spot → Prop
  | some spot => ∃ c, w.chain? spot.name = some c ∧ c.Bears h v spot.live
  | none => h.chain.toNat ≤ n ∧ ∀ name c, w.chain? name = some c → h.chain ≠ c.id

variable {w : Workspace} {n : Nat} {h : Handle} {v : String}

theorem Tracks.sees {spot : Option Spot} (tracks : w.Tracks n h v spot) (sound : w.Sound n) :
    w.Sees h v spot := by
  cases spot with
  | none =>
    intro name d hd
    exact Chain.refuses_of_resolve (Chain.resolve_of_foreign (tracks.2 name d hd))
  | some spot =>
    obtain ⟨c, hc, bears⟩ := tracks
    refine ⟨⟨c, hc, ?_⟩, ?_⟩
    · cases live : spot.live with
      | true =>
        rw [live] at bears
        exact Chain.get?_eq_some_iff.mpr bears.2
      | false =>
        rw [live] at bears
        exact bears.refuses
    · intro name d other hd
      apply Chain.refuses_of_resolve
      apply Chain.resolve_of_foreign
      intro own
      exact other (sound.distinct name spot.name d c hd hc (own.symm.trans bears.1))

end Workspace

namespace Moment

variable {mo : Moment} {n : Nat} {h : Handle} {v : String}

theorem Fair.tracks {spot : Option Spot} (fair : mo.Fair) (sound : mo.before.Sound n)
    (few : n + mo.made < UInt64.size) (tracks : mo.before.Tracks n h v spot) :
    mo.after.Tracks (n + mo.made) h v (spot.bind (mo.follow h)) := by
  have lost : h.chain.toNat ≤ n → (∀ old c name, mo.goes old = some name →
      mo.before.chain? old = some c → h.chain ≠ c.id) →
      mo.after.Tracks (n + mo.made) h v none := by
    intro known gone
    refine ⟨Nat.le_add_right_of_le known, ?_⟩
    intro name d hd own
    rcases fair.origin_id sound few hd with ⟨old, c, goes, hc, same, -⟩ | ⟨-, -, fresh⟩
    · exact gone old c name goes hc (own.trans same)
    · rw [own] at known
      omega
  cases spot with
  | none => exact lost tracks.1 fun old c _ _ hc => tracks.2 old c hc
  | some spot =>
    obtain ⟨c, hc, bears⟩ := tracks
    cases goes : mo.goes spot.name with
    | none =>
      have follow : (some spot).bind (mo.follow h) = none := by simp [Moment.follow, goes]
      rw [follow]
      apply lost (bears.1 ▸ (sound.known _ c hc).2)
      intro old c' name goes' hc' own
      have same : spot.name = old := sound.distinct _ _ c c' hc hc' (bears.1.symm.trans own)
      rw [same, goes'] at goes
      cases goes
    | some name =>
      have follow : (some spot).bind (mo.follow h) =
          some ⟨name, spot.live && !mo.takes spot.name h⟩ := by simp [Moment.follow, goes]
      rw [follow]
      obtain ⟨d, hd, treats⟩ := fair.kept spot.name name c goes hc
      obtain ⟨seq, holds⟩ := sound.held spot.name c hc
      exact ⟨d, hd, treats.bears holds bears⟩

theorem Gives.tracks {name : String} (gives : mo.Gives name h v) (n : Nat) :
    mo.after.Tracks n h v (some ⟨name, true⟩) := by
  obtain ⟨_, _, _, d, -, -, hd, -, get⟩ := gives
  have present := Chain.get?_eq_some_iff.mp get
  exact ⟨d, hd, (Chain.pair?_eq_some.mp present).1, present⟩

theorem Fair.not_gives {spot : Option Spot} (fair : mo.Fair) (sound : mo.before.Sound n)
    (tracks : mo.before.Tracks n h v spot) (name : String) (v' : String) :
    ¬ mo.Gives name h v' := by
  rintro ⟨call, m, c, d, act, hc, hd, absent, get⟩
  have present := Chain.get?_eq_some_iff.mp get
  obtain ⟨own, -⟩ := Chain.pair?_eq_some.mp present
  have stays : mo.goes name = some name := by
    unfold Moment.goes
    rw [act]
    split <;> rfl
  obtain ⟨d', hd', treats⟩ := fair.kept name name c stays hc
  obtain rfl : d = d' := Option.some.inj (hd.symm.trans hd')
  obtain ⟨seq, holds⟩ := sound.held name c hc
  obtain ⟨-, evolves⟩ := treats.evolves holds
  have own' : h.chain = c.id := own.trans evolves.id
  cases spot with
  | none => exact tracks.2 name c hc own'
  | some spot =>
    obtain ⟨c', hc', bears⟩ := tracks
    obtain rfl := sound.distinct _ _ c' c hc' hc (bears.1.symm.trans own')
    obtain rfl : c' = c := Option.some.inj (hc'.symm.trans hc)
    cases live : spot.live with
    | true =>
      rw [live] at bears
      have found := (holds.shows.has h).mpr (List.mem_map_of_mem (holds.mem_iff.mpr bears.2))
      rw [absent] at found
      cases found
    | false =>
      rw [live] at bears
      have passed : 2 * h.generation.toNat + 1 < c'.rank h.index := bears.2
      have grown := evolves.rank h.index
      rw [Chain.rank_of_pair present] at grown
      omega

theorem Fair.issue (fair : mo.Fair) (sound : mo.before.Sound n) {name : String} {call : Call}
    {m : Memory} (act : mo.act = .perform name call m)
    (reply : mo.reply = some (.ok (.handle h))) :
    ∃ v, call.value? = some v ∧ mo.Gives name h v := by
  obtain ⟨c, hc⟩ := fair.served name call m act (by simp [reply])
  have stays : mo.goes name = some name := by simp [Moment.goes, act, reply, Act.goes]
  obtain ⟨d, hd, treats⟩ := fair.kept name name c stays hc
  obtain ⟨seq, holds⟩ := sound.held name c hc
  cases treats with
  | spares spared => exact absurd act (spared call m)
  | @performs call' m' m₁ o act' reply' performs =>
    cases act.symm.trans act'
    obtain ⟨_, _, seq', eq, step, holds', -⟩ := Chain.perform_step holds call m
    cases performs.symm.trans eq
    have result : o.result = .ok (.handle h) := Option.some.inj (reply'.symm.trans reply)
    obtain ⟨s, v, t, value, rfl, rfl⟩ := step.issue result
    have absent : c.has h = false := by
      have outside := Listing.not_mem_of_cut holds'.shows.nodup
      exact Bool.eq_false_iff.mpr fun found => outside ((holds.shows.has h).mp found)
    have get : o.chain.get? h = some v := (holds'.shows.get h v).mpr (by simp)
    exact ⟨v, value, call, m, c, o.chain, act, hc, hd, absent, get⟩

end Moment

structure Lifetimes (history : List Moment) : Prop where
  issued : ∀ mo ∈ history, ∀ name call m h, mo.act = .perform name call m →
    mo.reply = some (.ok (.handle h)) → ∃ v, call.value? = some v ∧ mo.Gives name h v
  kept : ∀ past mo later, history = past ++ mo :: later → ∀ name h v, mo.Gives name h v →
    mo.after.Watched h v (some ⟨name, true⟩) later
  once : history.Pairwise fun mo mo' =>
    ∀ name name' h v v', mo.Gives name h v → ¬ mo'.Gives name' h v'

namespace Workspace

variable {w : Workspace} {n : Nat}

def Watches (w : Workspace) (n : Nat) (history : List Moment) : Prop :=
  ∀ h v spot, w.Tracks n h v spot →
    w.Watched h v spot history ∧ ∀ mo ∈ history, ∀ name v', ¬ mo.Gives name h v'

theorem watches_cons {act : Act} {reply : Option (Except Refusal Reply)} {w' : Workspace}
    {rest : List Moment} (fair : Moment.Fair ⟨w, act, reply, w'⟩) (sound : w.Sound n)
    (few : n + Moment.made ⟨w, act, reply, w'⟩ < UInt64.size)
    (watches : w'.Watches (n + Moment.made ⟨w, act, reply, w'⟩) rest) :
    w.Watches n (⟨w, act, reply, w'⟩ :: rest) := by
  intro h v spot tracks
  obtain ⟨watched, quiet⟩ := watches h v _ (fair.tracks sound few tracks)
  refine ⟨⟨tracks.sees sound, watched⟩, ?_⟩
  intro mo hmo name v'
  rcases List.mem_cons.mp hmo with rfl | later
  · exact fair.not_gives sound tracks name v'
  · exact quiet mo later name v'

theorem lifetimes_cons {act : Act} {reply : Option (Except Refusal Reply)} {w' : Workspace}
    {rest : List Moment} {n' : Nat} (fair : Moment.Fair ⟨w, act, reply, w'⟩) (sound : w.Sound n)
    (watches : w'.Watches n' rest) (lifetimes : Lifetimes rest) :
    Lifetimes (⟨w, act, reply, w'⟩ :: rest) where
  issued mo hmo name call m h act reply := by
    rcases List.mem_cons.mp hmo with rfl | later
    · exact fair.issue sound act reply
    · exact lifetimes.issued mo later name call m h act reply
  kept past mo later split name h v gives := by
    cases past with
    | nil =>
      cases split
      exact (watches h v _ (gives.tracks n')).1
    | cons first past =>
      cases split
      exact lifetimes.kept past mo later rfl name h v gives
  once := by
    refine List.pairwise_cons.mpr ⟨?_, lifetimes.once⟩
    intro mo' later name name' h v v' gives
    exact (watches h v _ (gives.tracks n')).2 mo' later name' v'

theorem made_le_creates (act : Act) (reply : Option (Except Refusal Reply)) (w' : Workspace) :
    Moment.made ⟨w, act, reply, w'⟩ ≤ if act.creates then 1 else 0 := by
  cases reply with
  | none => exact Nat.zero_le _
  | some result => exact Nat.le_refl _

theorem history_watched (sound : w.Sound n) (acts : List Act)
    (few : n + acts.countP Act.creates < UInt64.size) :
    ∃ history, w.history acts = .ok history ∧ Lifetimes history ∧ w.Watches n history := by
  induction acts generalizing w n with
  | nil =>
    refine ⟨[], rfl, ⟨by simp, by simp, .nil⟩, fun h v spot tracks => ⟨tracks.sees sound, ?_⟩⟩
    simp
  | cons act rest ih =>
    obtain ⟨reply, w', eq, fair⟩ := step_fair sound.held act
    have made := made_le_creates (w := w) act reply w'
    rw [List.countP_cons] at few
    obtain ⟨history, eq', lifetimes, watches⟩ := ih (fair.sound sound (by omega)) (by omega)
    refine ⟨⟨w, act, reply, w'⟩ :: history, ?_, lifetimes_cons fair sound watches lifetimes,
      watches_cons fair sound (by omega) watches⟩
    simp [Workspace.history, eq, eq', bind, Except.bind]

theorem handles_name_one_node (acts : List Act) (few : acts.countP Act.creates < UInt64.size) :
    ∃ history, empty.history acts = .ok history ∧ Lifetimes history := by
  obtain ⟨history, eq, lifetimes, -⟩ := history_watched sound_empty acts (by omega)
  exact ⟨history, eq, lifetimes⟩

theorem handles_name_one_node_of_copied :
    [Act.create "a" .standard, .perform "a" (.pushBack "x") .unlimited, .copy "a" "b",
      .perform "a" .clear .unlimited].countP Act.creates < UInt64.size ∧
    ∃ history, empty.history
      [.create "a" .standard, .perform "a" (.pushBack "x") .unlimited, .copy "a" "b",
        .perform "a" .clear .unlimited] = .ok history ∧ Lifetimes history :=
  ⟨by decide, handles_name_one_node _ (by decide)⟩

end Workspace
end StringChain
