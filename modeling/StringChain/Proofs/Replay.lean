import Mathlib.Data.Finset.Card
import Mathlib.Data.Finset.Dedup
import StringChain.Proofs.Chronicle

namespace StringChain

namespace Log.Record

variable {r : Record} {i : Nat}

def number? (r : Record) (name : String) : Option Nat :=
  match r.fields.lookup name with
  | some (.number n) => some n
  | _ => none

def Tells (r : Record) (message : String) (i : Nat) : Prop :=
  r.message = message ∧ r.number? "index" = some i

def replay (s : Finset Nat) (r : Record) : Finset Nat :=
  match r.number? "index" with
  | some i =>
    if r.message = "inserted node" then insert i s
    else if r.message = "deleted node" then s.erase i else s
  | none => s

structure Agrees (s : Finset Nat) (r : Record) : Prop where
  inserted : ∀ i, r.Tells "inserted node" i → i ∉ s
  deleted : ∀ i, r.Tells "deleted node" i → i ∈ s
  size : ∀ n, r.number? "size" = some n → n = (replay s r).card

def Agree (s : Finset Nat) : List Record → Prop
  | [] => True
  | r :: rest => r.Agrees s ∧ Agree (r.replay s) rest

theorem agree_append {s : Finset Nat} {first others : List Record} :
    Agree s (first ++ others) ↔ Agree s first ∧ Agree (first.foldl replay s) others := by
  induction first generalizing s with
  | nil => simp [Agree]
  | cons r rest ih => simp [Agree, ih, and_assoc]

end Log.Record

open Log (Record)

namespace Event

variable {id : ChainId} {i n : Nat} {s : Finset Nat} {event : Event}

theorem tells_inserted :
    (event.record id).Tells "inserted node" i ↔ ∃ n, event = .inserted i n := by
  cases event <;> simp [Record.Tells, Record.number?, record, message, fields, List.lookup_cons]

theorem tells_deleted : (event.record id).Tells "deleted node" i ↔ ∃ n, event = .deleted i n := by
  cases event <;> simp [Record.Tells, Record.number?, record, message, fields, List.lookup_cons]

theorem tells_retired :
    (event.record id).Tells "slot generation exhausted, retiring" i ↔ event = .retired i := by
  cases event <;> simp [Record.Tells, Record.number?, record, message, fields, List.lookup_cons]

theorem size?_eq_some : (event.record id).number? "size" = some n ↔
    ∃ i, event = .inserted i n ∨ event = .deleted i n := by
  cases event <;> simp [Record.number?, record, fields, List.lookup_cons]

theorem agrees_inserted (fresh : i ∉ s) (size : n = s.card + 1) :
    ((inserted i n).record id).Agrees s where
  inserted j told := by
    obtain ⟨_, ⟨⟩⟩ := tells_inserted.mp told
    exact fresh
  deleted j told := by
    obtain ⟨_, ⟨⟩⟩ := tells_deleted.mp told
  size k told := by
    obtain ⟨_, e | e⟩ := size?_eq_some.mp told
    all_goals cases e
    exact size.trans (Finset.card_insert_of_notMem fresh).symm

theorem agrees_deleted (inside : i ∈ s) (size : n + 1 = s.card) :
    ((deleted i n).record id).Agrees s where
  inserted j told := by
    obtain ⟨_, ⟨⟩⟩ := tells_inserted.mp told
  deleted j told := by
    obtain ⟨_, ⟨⟩⟩ := tells_deleted.mp told
    exact inside
  size k told := by
    obtain ⟨_, e | e⟩ := size?_eq_some.mp told
    all_goals cases e
    have left : (s.erase i).card + 1 = s.card := Finset.card_erase_add_one inside
    exact Nat.succ.inj (size.trans left.symm)

def quiet : Event → Bool
  | inserted _ _ => false
  | deleted _ _ => false
  | _ => true

theorem agrees_of_quiet (silent : event.quiet = true) : (event.record id).Agrees s where
  inserted j told := by
    obtain ⟨_, rfl⟩ := tells_inserted.mp told
    cases silent
  deleted j told := by
    obtain ⟨_, rfl⟩ := tells_deleted.mp told
    cases silent
  size k told := by
    obtain ⟨_, rfl | rfl⟩ := size?_eq_some.mp told
    · cases silent
    · cases silent

theorem replay_of_quiet (silent : event.quiet = true) : (event.record id).replay s = s := by
  cases event with
  | inserted i n => cases silent
  | deleted i n => cases silent
  | _ => rfl

end Event

variable {id : ChainId} {s s' s'' : Finset Nat} {i n : Nat} {event : Event}

structure Told (id : ChainId) (s : Finset Nat) (events : List Event) (s' : Finset Nat) : Prop where
  agree : Record.Agree s (events.map (Event.record id))
  leads : (events.map (Event.record id)).foldl Record.replay s = s'

namespace Told

theorem append {first others : List Event} (told : Told id s first s')
    (told' : Told id s' others s'') : Told id s (first ++ others) s'' where
  agree := by
    rw [List.map_append, Record.agree_append, told.leads]
    exact ⟨told.agree, told'.agree⟩
  leads := by rw [List.map_append, List.foldl_append, told.leads, told'.leads]

theorem of_quiet (id : ChainId) (s : Finset Nat) {events : List Event}
    (silent : ∀ event ∈ events, event.quiet = true) : Told id s events s := by
  induction events with
  | nil => exact ⟨trivial, rfl⟩
  | cons event rest ih =>
    obtain ⟨first, others⟩ := List.forall_mem_cons.mp silent
    have still : (event.record id).replay s = s := Event.replay_of_quiet first
    obtain ⟨agree, leads⟩ := ih others
    refine ⟨⟨Event.agrees_of_quiet first, ?_⟩, ?_⟩
    · rw [still]
      exact agree
    · rw [List.map_cons, List.foldl_cons, still, leads]

theorem inserted (id : ChainId) (fresh : i ∉ s) (size : n = s.card + 1) :
    Told id s [.inserted i n] (insert i s) :=
  ⟨⟨Event.agrees_inserted fresh size, trivial⟩, rfl⟩

theorem deleted (id : ChainId) (fresh : i ∉ s) (size : n = s.card) :
    Told id (insert i s) [.deleted i n] s where
  agree := by
    have card : n + 1 = (insert i s).card := by rw [Finset.card_insert_of_notMem fresh, size]
    exact ⟨Event.agrees_deleted (Finset.mem_insert_self i s) card, trivial⟩
  leads := Finset.erase_insert fresh

end Told

namespace Chain

variable {c d : Chain} {l f l' f' before after : List Nat} {call : Call}
  {result : Except Refusal Reply} {events : List Event}

theorem toFinset_middle (before after : List Nat) (i : Nat) :
    (before ++ i :: after).toFinset = insert i (before ++ after).toFinset := by
  simp [List.toFinset_append, List.toFinset_cons, Finset.union_insert]

theorem Intact.card_toFinset (intact : c.Intact l f) : l.toFinset.card = c.size := by
  rw [List.toFinset_card_of_nodup intact.nodup, intact.size]

theorem Intact.not_mem_middle (intact : c.Intact (before ++ i :: after) f) :
    i ∉ (before ++ after).toFinset := by
  rw [List.mem_toFinset]
  exact (List.nodup_middle.mp intact.nodup).notMem

theorem Intact.size_middle (intact : c.Intact (before ++ i :: after) f) :
    c.size = (before ++ after).toFinset.card + 1 := by
  rw [← intact.card_toFinset, toFinset_middle, Finset.card_insert_of_notMem intact.not_mem_middle]

theorem Effect.told (effect : Effect c l f call result d l' f') (single : call.single = true)
    (stays : call ≠ .clear) (intact : c.Intact l f) (id : ChainId) :
    Told id l.toFinset (Turn.due ⟨c, call, result, d⟩) l'.toFinset := by
  cases effect with
  | @refuse _ _ _ _ r n =>
    refine .of_quiet id _ fun event told => ?_
    rcases Turn.rejected_of_due told with rfl | rfl
    · rfl
    · rfl
  | pass => exact .of_quiet id _ (by simp [Turn.due, Call.discards?])
  | fill _ intact' _ =>
    rw [toFinset_middle]
    exact .inserted id intact'.not_mem_middle intact'.size_middle
  | @vacate _ _ _ _ _ _ _ h _ discards silent _ _ intact' _ =>
    rw [Turn.due_of_removed discards silent, toFinset_middle]
    have deleted := Told.deleted id intact.not_mem_middle intact'.card_toFinset.symm
    by_cases retired : d.retiredAt h.index = true
    · rw [if_pos retired]
      exact (Told.of_quiet id _ (by simp [Event.quiet])).append deleted
    · rw [if_neg retired]
      exact deleted
  | clear _ _ => exact absurd rfl stays
  | extendDone => cases single
  | extendNext _ _ _ => cases single

theorem Pushes.told {result : Except Refusal Unit} (pushes : Pushes c l f events result d l' f')
    (intact : c.Intact l f) (id : ChainId) : Told id l.toFinset events l'.toFinset := by
  induction pushes with
  | done => exact .of_quiet id _ (by simp)
  | stopped n r => exact .of_quiet id _ (by simp [Event.quiet])
  | next effect _ ih =>
    have first := effect.told rfl (by simp) intact id
    exact first.append (ih (effect.intact intact))

theorem Tale.told (tale : Tale c l f call result d l' f' events) (stays : call ≠ .clear)
    (intact : c.Intact l f) (id : ChainId) : Told id l.toFinset events l'.toFinset := by
  cases tale with
  | single single effect => exact effect.told single stays intact id
  | extend pushes => exact pushes.told intact id

theorem Tale.cleared {reply : Reply} (tale : Tale c l f .clear (.ok reply) d l' f' events) :
    l' = [] := by
  cases tale with
  | single _ effect =>
    cases effect with
    | fill inserts _ _ => cases inserts
    | vacate discards _ _ _ _ _ => cases discards
    | clear _ _ => rfl

def occupied (c : Chain) : Finset Nat := (c.arena.positions fun s => s.content?.isSome).toFinset

theorem Intact.occupied_eq (intact : c.Intact l f) : c.occupied = l.toFinset := by
  ext i
  simp [occupied, Arena.mem_positions, intact.mem_iff_occupied i, Option.isSome_iff_exists,
    Slot.content?_eq_some]

end Chain

def rejection (id : ChainId) (message : String) (refusal : Refusal) : Record :=
  ⟨.debug, "stringlist::list", message,
    [("list", .number id.toNat), ("error", .text refusal.message)]⟩

structure Turn.Reports (turn : Turn) (records : List Record) : Prop where
  single : turn.call.single = true → records = turn.due.map (Event.record turn.before.id)
  insertRejected : ∀ value refusal, turn.call.value? = some value → turn.result = .error refusal →
    records = [rejection turn.before.id "insert rejected" refusal]
  deleteRejected : ∀ h refusal, turn.call.discards? = some h → turn.result = .error refusal →
    records = [rejection turn.before.id "delete rejected" refusal]
  extended : ∀ values, turn.call = .extend values → ∃ told,
    (∀ r ∈ told, ∃ i n, r = (Event.inserted i n).record turn.before.id) ∧
    records = told ++ match turn.result with
      | .error refusal => [rejection turn.before.id "insert rejected" refusal]
      | .ok _ => []
  misread : ∀ target bytes n, turn.call = .insertBytes target bytes →
    turn.result = .error (.invalidArgument (.notUtf8 n)) → records = []
  idle : turn.call = .delete none ∨ turn.call = .clear → records = []
  retiring : ∀ i, (∃ r ∈ records, r.Tells "slot generation exhausted, retiring" i) ↔ turn.Retires i

namespace Chain

variable {c d : Chain} {l f l' f' : List Nat} {call : Call} {result : Except Refusal Reply}
  {events : List Event} {m m' : Memory}

theorem retiring_iff (id : ChainId) (events : List Event) (i : Nat) :
    (∃ r ∈ events.map (Event.record id), r.Tells "slot generation exhausted, retiring" i) ↔
      .retired i ∈ events := by
  simp [Event.tells_retired]

theorem Pushes.reports {values : List String} {result : Except Refusal Unit}
    (pushes : Pushes c l f events result d l' f') :
    Turn.Reports ⟨c, .extend values, result.map fun _ => .done, d⟩
      (events.map (Event.record c.id)) where
  single single := by cases single
  insertRejected _ _ inserts := by cases inserts
  deleteRejected _ _ discards := by cases discards
  extended _ _ := by
    obtain ⟨inserted, only, rfl⟩ := pushes.events_eq
    refine ⟨inserted.map (Event.record c.id), ?_, ?_⟩
    · intro r told
      obtain ⟨event, member, rfl⟩ := List.mem_map.mp told
      obtain ⟨i, n, rfl⟩ := only event member
      exact ⟨i, n, rfl⟩
    · rw [List.map_append]
      cases result <;> rfl
  misread _ _ _ reads := by cases reads
  idle idles := by
    rcases idles with e | e
    · cases e
    · cases e
  retiring i := by
    rw [retiring_iff]
    obtain ⟨inserted, only, rfl⟩ := pushes.events_eq
    refine iff_of_false (fun told => ?_) fun ⟨discards, _⟩ => by cases discards
    rcases List.mem_append.mp told with told | told
    · obtain ⟨_, _, e⟩ := only _ told
      cases e
    · cases result with
      | error r => cases List.mem_singleton.mp told
      | ok _ => cases told

theorem Effect.reports (effect : Effect c l f call result d l' f')
    (idles : call = .delete none ∨ call = .clear → result = .ok .done)
    (misreads : ∀ target bytes n, call = .insertBytes target bytes →
      result = .error (.invalidArgument (.notUtf8 n)) → call.value? = none)
    (single : call.single = true) :
    Turn.Reports ⟨c, call, result, d⟩
      ((Turn.due ⟨c, call, result, d⟩).map (Event.record c.id)) where
  single _ := rfl
  insertRejected value refusal inserts failed := by
    cases failed
    rw [Turn.due_of_value? inserts]
    rfl
  deleteRejected h refusal discards failed := by
    cases failed
    rw [Turn.due_of_discards? discards]
    rfl
  extended values extension := by
    cases extension
    cases single
  misread target bytes n reads failed := by
    have inserts := misreads target bytes n reads failed
    cases reads
    cases failed
    rw [Turn.due_of_misread inserts rfl]
    rfl
  idle idle := by
    have done := idles idle
    rcases idle with rfl | rfl
    all_goals
      cases done
      rfl
  retiring i := by rw [retiring_iff, effect.retired_iff]

theorem Ground.readable {target : Option Handle} {value : String} {n k : Nat} {r : Refusal}
    (ground : Ground c target value n k r) (p : Nat) : r ≠ .invalidArgument (.notUtf8 p) := by
  cases ground <;> simp [Refusal.foreignNode, Refusal.staleNode]

theorem insertBefore_readable {target : Option Handle} {value : String} {o : Outcome Handle}
    {p : Nat} (eq : c.insertBefore target value m = .ok (o, m')) :
    o.result ≠ .error (.invalidArgument (.notUtf8 p)) := by
  intro failed
  rcases (insertBefore_eq_ok eq).2 _ failed with rejected | allocation
  · rcases accept_cases c target value 0 with ⟨r, rejected', k, ground, -⟩ | ⟨⟨place, accepted⟩, -⟩
    · cases rejected.symm.trans rejected'
      exact ground.readable p rfl
    · cases accepted.symm.trans rejected
  · cases allocation

theorem perform_readable {target : Option Handle} {bytes : ByteArray} {o : Outcome Reply} {p : Nat}
    (eq : c.perform (.insertBytes target bytes) m = .ok (o, m'))
    (failed : o.result = .error (.invalidArgument (.notUtf8 p))) :
    Call.value? (.insertBytes target bytes) = none := by
  cases hb : String.fromUTF8? (Text.untilNul bytes) with
  | none => exact hb
  | some value =>
    rw [perform, insertBytes_of_some hb] at eq
    obtain ⟨first, inserted, rfl⟩ := issued_eq_ok eq
    exact absurd (Outcome.error_of_map failed) (insertBefore_readable inserted)

theorem perform_idle {o : Outcome Reply} (eq : c.perform call m = .ok (o, m'))
    (idles : call = .delete none ∨ call = .clear) : o.result = .ok .done := by
  rcases idles with rfl | rfl
  all_goals
    cases eq
    rfl

theorem perform_reports {o : Outcome Reply} (eq : c.perform call m = .ok (o, m'))
    (tale : Tale c l f call o.result o.chain l' f' o.events) :
    Turn.Reports ⟨c, call, o.result, o.chain⟩ (o.events.map (Event.record c.id)) := by
  have idles := perform_idle eq
  have misreads : ∀ target bytes n, call = .insertBytes target bytes →
      o.result = .error (.invalidArgument (.notUtf8 n)) → call.value? = none := by
    rintro target bytes n rfl failed
    exact perform_readable eq failed
  generalize o.events = events at tale
  generalize o.result = result at tale idles misreads
  cases tale with
  | single single effect => exact effect.reports idles misreads single
  | extend pushes => exact pushes.reports

end Chain

structure Episode extends Turn where
  records : List Record

-- A call that clears the chain tells nothing of it.
def Episode.replay (s : Finset Nat) (e : Episode) : Finset Nat :=
  match e.call with
  | .clear => ∅
  | _ => e.records.foldl Record.replay s

def Replays (s : Finset Nat) : List Episode → Prop
  | [] => True
  | e :: rest =>
    Record.Agree s e.records ∧ e.replay s = e.after.occupied ∧ Replays (e.replay s) rest

def Sealed (stream : List Record) : Prop :=
  ∀ earlier r later i, stream = earlier ++ r :: later →
    r.Tells "slot generation exhausted, retiring" i →
    (∃ next others, later = next :: others ∧ next.Tells "deleted node" i) ∧
    ∀ r' ∈ later, ¬ r'.Tells "inserted node" i

namespace Chain

variable {c d : Chain} {l f l' f' : List Nat} {call : Call} {result : Except Refusal Reply}
  {events : List Event}

def chronicle (c : Chain) : List (Call × Memory) → Checked (List Episode × Chain)
  | [] => .ok ([], c)
  | (call, m) :: rest => do
    let (o, _) ← c.perform call m
    let (episodes, d) ← o.chain.chronicle rest
    .ok (⟨⟨c, call, o.result, o.chain⟩, o.events.map (Event.record c.id)⟩ :: episodes, d)

theorem Seals.sealed_records (seals : Seals c events d) (id : ChainId) :
    Sealed (events.map (Event.record id)) := by
  intro earlier r later i split told
  obtain ⟨before, rest, rfl, rfl, tail⟩ := List.map_eq_append_iff.mp split
  obtain ⟨event, after, rfl, rfl, rfl⟩ := List.map_eq_cons_iff.mp tail
  obtain rfl := Event.tells_retired.mp told
  obtain ⟨⟨n, others, rfl⟩, never, -⟩ := seals.sealed before i after rfl
  refine ⟨⟨_, _, rfl, Event.tells_deleted.mpr ⟨n, rfl⟩⟩, fun r' member inserted => ?_⟩
  obtain ⟨event, member', rfl⟩ := List.mem_map.mp member
  obtain ⟨k, rfl⟩ := Event.tells_inserted.mp inserted
  exact never k member'

theorem Tale.replays {reply : Except Refusal Reply}
    (tale : Tale c l f call reply d l' f' events) (clears : call = .clear → reply = .ok .done)
    (intact : c.Intact l f) :
    Record.Agree c.occupied (events.map (Event.record c.id)) ∧
      Episode.replay c.occupied ⟨⟨c, call, reply, d⟩, events.map (Event.record c.id)⟩ =
        d.occupied := by
  rw [intact.occupied_eq, (tale.intact intact).occupied_eq]
  by_cases clear : call = .clear
  · subst clear
    obtain rfl := clears rfl
    obtain rfl := tale.cleared
    cases tale with
    | single _ _ => exact ⟨trivial, rfl⟩
  · have told := tale.told clear intact c.id
    refine ⟨told.agree, ?_⟩
    rw [← told.leads]
    cases call with
    | clear => exact absurd rfl clear
    | _ => rfl

theorem chronicle_replays (intact : c.Intact l f) (calls : List (Call × Memory)) :
    ∃ episodes d events, c.chronicle calls = .ok (episodes, d) ∧ Replays c.occupied episodes ∧
      (∀ e ∈ episodes, e.Reports e.records) ∧ Seals c events d ∧
      episodes.flatMap Episode.records = events.map (Event.record c.id) := by
  induction calls generalizing c l f with
  | nil => exact ⟨[], c, [], rfl, trivial, by simp, .of_plain (fun _ kept => kept) (by simp), rfl⟩
  | cons entry rest ih =>
    obtain ⟨call, m⟩ := entry
    obtain ⟨o, m', l₁, f₁, eq, tale⟩ := perform_tale intact call m
    have intact₁ := tale.intact intact
    obtain ⟨episodes, d, events, eq', replays, reports, seals, stream⟩ := ih intact₁
    obtain ⟨agree, leads⟩ := tale.replays (fun clears => perform_idle eq (.inr clears)) intact
    have id : o.chain.id = c.id := by
      obtain ⟨_, _, _, _, same, effect⟩ := perform_effect intact call m
      cases eq.symm.trans same
      exact effect.id_eq
    refine ⟨⟨⟨c, call, o.result, o.chain⟩, o.events.map (Event.record c.id)⟩ :: episodes, d,
      o.events ++ events, ?_, ⟨agree, leads, leads.symm ▸ replays⟩,
      List.forall_mem_cons.mpr ⟨perform_reports eq tale, reports⟩,
      (tale.seals intact).trans seals, ?_⟩
    · simp [chronicle, eq, eq', bind, Except.bind]
    · rw [List.flatMap_cons, stream, id, List.map_append]

theorem log_replays_chain (id : ChainId) (policy : Policy) (calls : List (Call × Memory)) :
    ∃ episodes c, (Chain.empty id policy).chronicle calls = .ok (episodes, c) ∧
      Replays ∅ episodes ∧ (∀ e ∈ episodes, e.Reports e.records) ∧
      Sealed (episodes.flatMap Episode.records) := by
  have intact := empty_intact id policy
  obtain ⟨episodes, c, events, eq, replays, reports, seals, stream⟩ :=
    chronicle_replays intact calls
  rw [intact.occupied_eq] at replays
  exact ⟨episodes, c, eq, replays, reports, stream ▸ seals.sealed_records id⟩

end Chain
end StringChain
