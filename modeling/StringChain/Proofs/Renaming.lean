import Mathlib.Data.List.Find
import StringChain.Proofs.Faultless

namespace StringChain

def Handle.moved (old new : ChainId) (h : Handle) : Handle :=
  if h.chain = old then { h with chain := new } else h

section Rename

variable (g : Handle → Handle)

def Call.rename : Call → Call
  | insertBefore target value => insertBefore (target.map g) value
  | insertBytes target bytes => insertBytes (target.map g) bytes
  | pushBack value => pushBack value
  | pushFront value => pushFront value
  | extend values => extend values
  | delete target => delete (target.map g)
  | remove h => remove (g h)
  | clear => clear

def Reply.rename : Reply → Reply
  | handle h => handle (g h)
  | value v => value v
  | done => done

def Query.rename : Query → Query
  | head => head
  | tail => tail
  | has h => has (g h)
  | get h => get (g h)
  | next h => next (g h)
  | prev h => prev (g h)
  | find value => find value
  | rfind value => rfind value
  | contains value => contains value
  | size => size
  | isEmpty => isEmpty
  | handles => handles
  | values => values

def Finding.rename : Finding → Finding
  | handle? h? => handle? (h?.map g)
  | value? v? => value? v?
  | flag b => flag b
  | count n => count n
  | handles hs => handles (hs.map g)
  | values vs => values vs

def Operation.rename : Operation → Operation
  | perform call m => perform (call.rename g) m
  | ask query => ask (query.rename g)
  | walkValues script => walkValues script
  | walkHandles script => walkHandles script
  | format spec => format spec
  | write sink => write sink
  | compare other known => compare other known
  | copy id => copy id

def Report.rename : Report → Report
  | reply result events => reply (result.map (·.rename g)) events
  | finding x => finding (x.rename g)
  | values answers? => values answers?
  | handles answers? => handles (answers?.map (·.map (·.map g)))
  | text t => text t
  | written result sink => written result sink
  | same b => same b
  | copied c => copied c

end Rename

def Call.named : Call → List Handle
  | insertBefore target _ => target.toList
  | insertBytes target _ => target.toList
  | pushBack _ => []
  | pushFront _ => []
  | extend _ => []
  | delete target => target.toList
  | remove h => [h]
  | clear => []

def Query.named : Query → List Handle
  | head => []
  | tail => []
  | has h => [h]
  | get h => [h]
  | next h => [h]
  | prev h => [h]
  | find _ => []
  | rfind _ => []
  | contains _ => []
  | size => []
  | isEmpty => []
  | handles => []
  | values => []

def Operation.named : Operation → List Handle
  | perform call _ => call.named
  | ask query => query.named
  | walkValues _ => []
  | walkHandles _ => []
  | format _ => []
  | write _ => []
  | compare _ _ => []
  | copy _ => []

section Commutes

variable {α β γ δ : Type} {x : Checked α} {k : α → Checked γ} {q : γ → δ}

theorem bind_of_commutes {k' : α → Checked δ} (commutes : ∀ a, k' a = (k a).map q) :
    (x >>= k') = (x >>= k).map q := by
  cases x with
  | error e => rfl
  | ok a => exact commutes a

theorem map_bind_of_commutes {p : α → β} {k' : β → Checked δ}
    (commutes : ∀ a, k' (p a) = (k a).map q) : (x.map p >>= k') = (x >>= k).map q := by
  cases x with
  | error e => rfl
  | ok a => exact commutes a

theorem mapM_of_commutes {at? : α → Checked γ} {at?' : α → Checked δ}
    (commutes : ∀ a, at?' a = (at? a).map q) (l : List α) :
    l.mapM at?' = (l.mapM at?).map (List.map q) := by
  induction l with
  | nil => rfl
  | cons a rest ih =>
    rw [List.mapM_cons, List.mapM_cons, commutes, ih]
    refine map_bind_of_commutes fun y => map_bind_of_commutes fun ys => rfl

theorem map_of_commutes {p : α → β} {r : α → γ} {r' : β → δ}
    (commutes : ∀ a, r' (p a) = q (r a)) : r' <$> x.map p = (r <$> x).map q := by
  cases x with
  | error e => rfl
  | ok a => exact congrArg Except.ok (commutes a)

end Commutes

namespace Walk

variable {β γ : Type} {at? : Nat → Checked β} {at?' : Nat → Checked γ} {g : β → γ} {c : Chain}

theorem itemAt?_of_commutes (commutes : ∀ i, at?' i = (at? i).map g) (i? : Option Nat) :
    itemAt? at?' i? = (itemAt? at? i?).map (Option.map g) := by
  cases i? with
  | none => rfl
  | some i =>
    simp only [itemAt?, commutes]
    exact map_bind_of_commutes fun x => rfl

theorem step_of_commutes (commutes : ∀ i, at?' i = (at? i).map g) (w : Walk)
    (command : Command) :
    w.step c at?' command =
      (w.step c at? command).map (Option.map fun answered => (answered.1.map g, answered.2)) := by
  have item := itemAt?_of_commutes commutes
  cases command with
  | take side =>
    refine bind_of_commutes fun ⟨i?, k⟩ => ?_
    simp only [item]
    exact map_bind_of_commutes fun x? => rfl
  | nth side m =>
    refine bind_of_commutes fun ⟨i?, k⟩ => ?_
    simp only [item]
    exact map_bind_of_commutes fun x? => rfl
  | length => rfl
  | hint => rfl
  | fork => rfl
  | join =>
    obtain ⟨cursor, forks⟩ := w
    cases forks <;> rfl
  | rest side =>
    refine bind_of_commutes fun l => ?_
    rw [mapM_of_commutes commutes]
    exact map_bind_of_commutes fun xs => rfl
  | count => exact bind_of_commutes fun l => rfl
  | last =>
    refine bind_of_commutes fun l => ?_
    rw [item]
    exact map_bind_of_commutes fun x? => rfl

theorem run_of_commutes (commutes : ∀ i, at?' i = (at? i).map g) (w : Walk)
    (script : List Command) :
    w.run c at?' script = (w.run c at? script).map (Option.map (List.map (Answer.map g))) := by
  induction script generalizing w with
  | nil => rfl
  | cons command rest ih =>
    unfold run
    rw [step_of_commutes commutes]
    refine map_bind_of_commutes fun answered => ?_
    cases answered with
    | none => rfl
    | some answered =>
      simp only [Option.map_some, ih]
      refine map_bind_of_commutes fun answers? => ?_
      cases answers? <;> rfl

end Walk

namespace Chain

def twin (c : Chain) (id : ChainId) (n : Nat) : Chain := (c.copy id).withCapacity n

variable {c : Chain} {id : ChainId} {n : Nat} {h : Handle} {side : Side}

theorem twin_headIndex : (c.twin id n).headIndex = c.headIndex := rfl

theorem twin_tailIndex : (c.twin id n).tailIndex = c.tailIndex := rfl

theorem twin_handleAt (i : Nat) :
    (c.twin id n).handleAt i = (c.handleAt i).map (Handle.moved c.id id) := by
  refine bind_of_commutes (x := c.arena.slotAt i) fun s => ?_
  simp [Except.map, Handle.moved, twin, copy, withCapacity, withArena]

theorem twin_handleAt? (i? : Option Nat) :
    (c.twin id n).handleAt? i? = (c.handleAt? i?).map (Option.map (Handle.moved c.id id)) := by
  cases i? with
  | none => rfl
  | some i =>
    simp only [handleAt?, twin_handleAt]
    exact map_bind_of_commutes fun k => rfl

theorem twin_resolve (other : h.chain ≠ id) :
    (c.twin id n).resolve (h.moved c.id id) = c.resolve h := by
  by_cases own : h.chain = c.id
  · have moved : h.moved c.id id = { h with chain := id } := if_pos own
    rw [moved]
    unfold resolve
    rw [if_pos own]
    exact if_pos rfl
  · have kept : h.moved c.id id = h := if_neg own
    rw [kept, resolve_of_foreign own]
    exact resolve_of_foreign other

theorem twin_has (other : h.chain ≠ id) : (c.twin id n).has (h.moved c.id id) = c.has h := by
  unfold has
  rw [twin_resolve other]

theorem twin_node? (other : h.chain ≠ id) :
    (c.twin id n).node? (h.moved c.id id) = c.node? h := by
  unfold node?
  rw [twin_resolve other]
  rfl

theorem twin_get? (other : h.chain ≠ id) :
    (c.twin id n).get? (h.moved c.id id) = c.get? h := by
  unfold get?
  rw [twin_node? other]

theorem twin_next (other : h.chain ≠ id) :
    (c.twin id n).next (h.moved c.id id) =
      (c.next h).map (Option.map (Handle.moved c.id id)) := by
  unfold next
  rw [twin_node? other, twin_handleAt?]

theorem twin_prev (other : h.chain ≠ id) :
    (c.twin id n).prev (h.moved c.id id) =
      (c.prev h).map (Option.map (Handle.moved c.id id)) := by
  unfold prev
  rw [twin_node? other, twin_handleAt?]

theorem twin_take (k : Cursor) (side : Side) : k.take side (c.twin id n) = k.take side c := rfl

theorem twin_nth (k : Cursor) (side : Side) (m : Nat) :
    k.nth side m (c.twin id n) = k.nth side m c := by
  induction m generalizing k with
  | zero => rfl
  | succ m ih =>
    unfold Cursor.nth
    rw [twin_take]
    congr 1
    funext taken
    obtain ⟨i?, k'⟩ := taken
    cases i? with
    | none => rfl
    | some i => exact ih k'

theorem twin_upTo (k : Cursor) (side : Side) (m : Nat) :
    k.upTo side m (c.twin id n) = k.upTo side m c := by
  induction m generalizing k with
  | zero => rfl
  | succ m ih =>
    unfold Cursor.upTo
    rw [twin_take]
    congr 1
    funext taken
    obtain ⟨i?, k'⟩ := taken
    cases i? with
    | none => rfl
    | some i =>
      simp only
      rw [ih k']

theorem twin_rest (k : Cursor) (side : Side) : k.rest side (c.twin id n) = k.rest side c :=
  twin_upTo k side k.remaining

theorem twin_indices (side : Side) : (c.twin id n).indices side = c.indices side :=
  twin_rest c.cursor side

theorem twin_valuesFrom (side : Side) : (c.twin id n).valuesFrom side = c.valuesFrom side := by
  unfold valuesFrom
  rw [twin_indices]
  rfl

theorem twin_handlesFrom (side : Side) :
    (c.twin id n).handlesFrom side =
      (c.handlesFrom side).map (List.map (Handle.moved c.id id)) := by
  unfold handlesFrom
  rw [twin_indices]
  exact bind_of_commutes fun l => mapM_of_commutes twin_handleAt l

theorem own_of_mapM {l : List Nat} {hs : List Handle} (eq : l.mapM c.handleAt = .ok hs) :
    ∀ h ∈ hs, h.chain = c.id := by
  induction l generalizing hs with
  | nil =>
    cases eq
    simp
  | cons i rest ih =>
    rw [List.mapM_cons] at eq
    obtain ⟨first, found, eq⟩ := ok_of_bind_eq_ok eq
    obtain ⟨others, eq', eq⟩ := ok_of_bind_eq_ok eq
    cases eq
    obtain ⟨s, -, own⟩ := ok_of_bind_eq_ok found
    cases own
    exact List.forall_mem_cons.mpr ⟨rfl, ih eq'⟩

-- The handles searched are the chain's own, so none of them already bears the other identity.
theorem twin_findFrom (fresh : id ≠ c.id) (side : Side) (value : String) :
    (c.twin id n).findFrom side value =
      (c.findFrom side value).map (Option.map (Handle.moved c.id id)) := by
  unfold findFrom
  rw [twin_handlesFrom]
  cases found : c.handlesFrom side with
  | error e => rfl
  | ok hs =>
    obtain ⟨l, -, eq⟩ := ok_of_bind_eq_ok found
    have same : ∀ h ∈ hs, ((c.twin id n).get? (h.moved c.id id) == some value) =
        (c.get? h == some value) := by
      intro h inside
      have own : h.chain = c.id := own_of_mapM eq h inside
      rw [twin_get? fun e => fresh (e.symm.trans own)]
    simp only [Except.map, bind, Except.bind, List.find?_map, Except.ok.injEq]
    congr 1
    exact List.find?_congr same

theorem twin_ask (fresh : id ≠ c.id) {query : Query} (fits : ∀ h ∈ query.named, h.chain ≠ id) :
    (c.twin id n).ask (query.rename (Handle.moved c.id id)) =
      (c.ask query).map (Finding.rename (Handle.moved c.id id)) := by
  cases query with
  | head =>
    simp only [Query.rename, ask, Chain.head, twin_headIndex, twin_handleAt?]
    exact map_of_commutes fun _ => rfl
  | tail =>
    simp only [Query.rename, ask, Chain.tail, twin_tailIndex, twin_handleAt?]
    exact map_of_commutes fun _ => rfl
  | has h =>
    simp only [Query.rename, ask, twin_has (fits h List.mem_cons_self)]
    rfl
  | get h =>
    simp only [Query.rename, ask, twin_get? (fits h List.mem_cons_self)]
    rfl
  | next h =>
    simp only [Query.rename, ask, twin_next (fits h List.mem_cons_self)]
    exact map_of_commutes fun _ => rfl
  | prev h =>
    simp only [Query.rename, ask, twin_prev (fits h List.mem_cons_self)]
    exact map_of_commutes fun _ => rfl
  | find value =>
    simp only [Query.rename, ask, find, twin_findFrom fresh]
    exact map_of_commutes fun _ => rfl
  | rfind value =>
    simp only [Query.rename, ask, rfind, twin_findFrom fresh]
    exact map_of_commutes fun _ => rfl
  | contains value =>
    simp only [Query.rename, ask, contains, values, twin_valuesFrom]
    cases c.valuesFrom .front <;> rfl
  | size => rfl
  | isEmpty => rfl
  | handles =>
    simp only [Query.rename, ask, handles, twin_handlesFrom]
    exact map_of_commutes fun _ => rfl
  | values =>
    simp only [Query.rename, ask, values, twin_valuesFrom]
    cases c.valuesFrom .front <;> rfl

theorem twin_step {β : Type} {at? : Nat → Checked β} (w : Walk) (command : Command) :
    w.step (c.twin id n) at? command = w.step c at? command := by
  cases command with
  | nth side m => simp only [Walk.step, twin_nth]
  | rest side => simp only [Walk.step, twin_rest]
  | count => simp only [Walk.step, twin_rest]
  | last => simp only [Walk.step, twin_rest]
  | _ => rfl

theorem twin_run {β : Type} {at? : Nat → Checked β} (w : Walk) (script : List Command) :
    w.run (c.twin id n) at? script = w.run c at? script := by
  induction script generalizing w with
  | nil => rfl
  | cons command rest ih => simp only [Walk.run, twin_step, ih]

theorem twin_walkValues (script : List Command) :
    (c.twin id n).walkValues script = c.walkValues script :=
  twin_run (Walk.ofChain c) script

theorem twin_walkHandles (script : List Command) :
    (c.twin id n).walkHandles script =
      (c.walkHandles script).map (Option.map (List.map (Answer.map (Handle.moved c.id id)))) :=
  (twin_run (Walk.ofChain c) script).trans (Walk.run_of_commutes twin_handleAt _ script)

theorem twin_values : (c.twin id n).values = c.values := by
  unfold values
  rw [twin_valuesFrom]

theorem twin_format (spec : FormatSpec) : (c.twin id n).format spec = c.format spec := by
  unfold format formatHiding display pieces debug debugLines
  rw [twin_values]

theorem twin_write (sink : Sink) : (c.twin id n).write sink = c.write sink := by
  unfold write pieces
  rw [twin_values]

theorem twin_sameValues (d : Chain) : (c.twin id n).sameValues d = c.sameValues d := by
  unfold sameValues
  rw [twin_values]
  rfl

theorem twin_reading (fresh : id ≠ c.id) {op : Operation} (reads : ∀ call m, op ≠ .perform call m)
    (fits : ∀ h ∈ op.named, h.chain ≠ id) :
    (c.twin id n).operate (op.rename (Handle.moved c.id id)) =
      (c.operate op).map fun answered =>
        (answered.1.rename (Handle.moved c.id id), answered.2.twin id n) := by
  cases op with
  | perform call m => exact absurd rfl (reads call m)
  | ask query =>
    simp only [Operation.rename, operate, twin_ask fresh fits]
    exact map_bind_of_commutes fun _ => rfl
  | walkValues script =>
    simp only [Operation.rename, operate, twin_walkValues]
    exact bind_of_commutes fun _ => rfl
  | walkHandles script =>
    simp only [Operation.rename, operate, twin_walkHandles]
    exact map_bind_of_commutes fun _ => rfl
  | format spec =>
    simp only [Operation.rename, operate, twin_format]
    exact bind_of_commutes fun _ => rfl
  | write sink =>
    simp only [Operation.rename, operate, twin_write]
    exact bind_of_commutes fun _ => rfl
  | compare other known =>
    simp only [Operation.rename, operate, twin_sameValues]
    exact bind_of_commutes fun _ => rfl
  | copy other => rfl

end Chain
end StringChain
