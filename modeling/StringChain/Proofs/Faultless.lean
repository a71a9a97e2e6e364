import StringChain.Chain.Output
import StringChain.Proofs.Display
import StringChain.Proofs.DoubleEnded
import StringChain.Proofs.Grounds

namespace StringChain

inductive Operation where
  | perform (call : Call) (m : Memory)
  | ask (query : Query)
  | walkValues (script : List Command)
  | walkHandles (script : List Command)
  | format (spec : FormatSpec)
  | write (sink : Sink)
  | compare (other : Chain) (known : other.Reachable)
  | copy (id : ChainId)

theorem Operation.performs_or_reads (op : Operation) :
    (∃ call m, op = .perform call m) ∨ ∀ call m, op ≠ .perform call m := by
  cases op with
  | perform call m => exact .inl ⟨call, m, rfl⟩
  | _ => exact .inr (by simp)

inductive Report where
  | reply (result : Except Refusal Reply) (events : List Event)
  | finding (finding : Finding)
  | values (answers? : Option (List (Answer String)))
  | handles (answers? : Option (List (Answer Handle)))
  | text (text : String)
  | written (result : Except WriteError Unit) (sink : Sink)
  | same (b : Bool)
  | copied (copy : Chain)

namespace Chain

def operate (c : Chain) : Operation → Checked (Report × Chain)
  | .perform call m => do
    let (o, _) ← c.perform call m
    .ok (.reply o.result o.events, o.chain)
  | .ask query => do .ok (.finding (← c.ask query), c)
  | .walkValues script => do .ok (.values (← c.walkValues script), c)
  | .walkHandles script => do .ok (.handles (← c.walkHandles script), c)
  | .format spec => do .ok (.text (← c.format spec), c)
  | .write sink => do
    let (result, sink) ← c.write sink
    .ok (.written result sink, c)
  | .compare other _ => do .ok (.same (← c.sameValues other), c)
  | .copy id => .ok (.copied (c.copy id), c)

variable {c d : Chain} {l f l' f' : List Nat} {seq : Listing}

theorem Shows.format (shows : c.Shows seq) (spec : FormatSpec) :
    ∃ text, c.format spec = .ok text := by
  cases style : spec.style with
  | plain => exact ⟨_, shows.format_plain spec style⟩
  | quoted => exact ⟨_, shows.format_quoted _ style⟩

theorem Shows.write (shows : c.Shows seq) (sink : Sink) : ∃ written, c.write sink = .ok written :=
  ⟨_, by simp [Chain.write, pieces, shows.values, bind, Except.bind]; rfl⟩

structure Advances (c d : Chain) : Prop where
  id : d.id = c.id
  size : d.arena.size < UInt64.size → d.size < UInt64.size
  generation : ∀ i s, c.arena.slot? i = some s → ∃ t, d.arena.slot? i = some t ∧
    (t.generation.toNat = s.generation.toNat ∨ t.generation.toNat = s.generation.toNat + 1)

theorem Intact.advances_refl (intact : c.Intact l f) : c.Advances c where
  id := rfl
  size fits := Nat.lt_of_le_of_lt intact.size_le fits
  generation _ s hs := ⟨s, hs, .inl rfl⟩

theorem Effect.advances {call : Call} {result : Except Refusal Reply}
    (effect : Effect c l f call result d l' f') (intact : c.Intact l f) : c.Advances d where
  id := effect.id_eq
  size fits := Nat.lt_of_le_of_lt (effect.intact intact).size_le fits
  generation i s hs := by
    obtain ⟨t, ht⟩ := effect.keeps_slots hs
    have before := intact.toNat_generation hs
    have after := (effect.intact intact).toNat_generation ht
    rw [effect.vacations_eq intact i] at after
    refine ⟨t, ht, ?_⟩
    split at after <;> omega

theorem Intact.reading (intact : c.Intact l f) {op : Operation}
    (reads : ∀ call m, op ≠ .perform call m) : ∃ report, c.operate op = .ok (report, c) := by
  obtain ⟨seq, lists⟩ := intact.exists_listing
  have shows : c.Shows seq := intact.shows lists
  cases op with
  | perform call m => exact absurd rfl (reads call m)
  | ask query =>
    obtain ⟨finding, eq, -⟩ := shows.ask shows query
    exact ⟨.finding finding, by simp [operate, eq, bind, Except.bind]⟩
  | walkValues script =>
    have eq := intact.walkValues_eq lists script
    exact ⟨.values _, by simp [operate, eq, bind, Except.bind]; rfl⟩
  | walkHandles script =>
    have eq := intact.walkHandles_eq lists script
    exact ⟨.handles _, by simp [operate, eq, bind, Except.bind]; rfl⟩
  | format spec =>
    obtain ⟨text, eq⟩ := shows.format spec
    exact ⟨.text text, by simp [operate, eq, bind, Except.bind]⟩
  | write sink =>
    obtain ⟨⟨result, sink'⟩, eq⟩ := shows.write sink
    exact ⟨.written result sink', by simp [operate, eq, bind, Except.bind]⟩
  | compare other known =>
    obtain ⟨l', f', intact'⟩ := known.intact
    obtain ⟨seq', lists'⟩ := intact'.exists_listing
    have eq := shows.sameValues_eq (intact'.shows lists')
    exact ⟨.same _, by simp [operate, eq, bind, Except.bind]; rfl⟩
  | copy id => exact ⟨.copied (c.copy id), rfl⟩

theorem Intact.changing (intact : c.Intact l f) (call : Call) (m : Memory) :
    ∃ report d l' f' result, c.operate (.perform call m) = .ok (report, d) ∧
      Effect c l f call result d l' f' := by
  obtain ⟨o, m', l', f', eq, effect⟩ := perform_effect intact call m
  exact ⟨.reply o.result o.events, o.chain, l', f', o.result,
    by simp [operate, eq, bind, Except.bind], effect⟩

theorem operate_advances (intact : c.Intact l f) (op : Operation) :
    ∃ report d l' f', c.operate op = .ok (report, d) ∧ d.Intact l' f' ∧ c.Advances d := by
  rcases op.performs_or_reads with ⟨call, m, rfl⟩ | reads
  · obtain ⟨report, d, l', f', result, eq, effect⟩ := intact.changing call m
    exact ⟨report, d, l', f', eq, effect.intact intact, effect.advances intact⟩
  · obtain ⟨report, eq⟩ := intact.reading reads
    exact ⟨report, c, l, f, eq, intact, intact.advances_refl⟩

theorem node?_of_resolve {h : Handle} {i : Nat} (resolved : c.resolve h = .ok i) :
    ∃ n, c.arena.contentAt i = .ok n ∧ c.node? h = some n := by
  obtain ⟨-, -, s, n, hs, -, hn⟩ := resolve_eq_ok.mp resolved
  have content : c.arena.content? i = some n := Arena.content?_eq_some.mpr ⟨s, hs, hn⟩
  exact ⟨n, Arena.contentAt_eq_ok.mpr content, by simp [node?, resolved, content]⟩

def Serves (c : Chain) (k : Cursor) (side : Side) : Prop :=
  (k.remaining = 0 ∧ k.take side c = .ok (none, k)) ∨
    ∃ i k' v h, k.take side c = .ok (some i, k') ∧ k.remaining = k'.remaining + 1 ∧
      c.valueAt i = .ok v ∧ c.handleAt i = .ok h

theorem serves_of_spans {k : Cursor} {m : List Nat} (spans : k.Spans c m) (side : Side) :
    c.Serves k side := by
  obtain ⟨k', taken, spans'⟩ := spans.take side
  cases hm : side.orient m with
  | nil =>
    obtain rfl : m = [] := (Side.orient_eq_iff.mp hm).trans side.orient_nil
    exact .inl ⟨spans.remaining, Cursor.take_of_none_remaining spans.remaining side c⟩
  | cons i rest =>
    rw [hm] at taken spans'
    obtain ⟨node, content⟩ := spans.content (Side.mem_orient.mp (hm ▸ List.mem_cons_self))
    obtain ⟨h, handle⟩ := handleAt_of_content content
    refine .inr ⟨i, k', node.value, h, taken, ?_, valueAt_of_content content, handle⟩
    rw [spans.remaining, spans'.remaining, ← side.length_orient m, hm, side.length_orient]
    rfl

theorem accept_none_error {value : String} {r : Refusal}
    (rejected : c.accept none value = .error r) : r ≠ .foreignNode ∧ r ≠ .staleNode := by
  rw [accept_of_placed (.inl ⟨rfl, rfl⟩)] at rejected
  rcases objection?_cases c.policy value with ⟨_, objects, -⟩ | ⟨_, objects, -⟩ | ⟨objects, -⟩
  all_goals
    rw [objects] at rejected
    cases rejected
  all_goals simp [Refusal.foreignNode, Refusal.staleNode]

theorem pushFront_never_foreign (intact : c.Intact l f) (value : String) (m : Memory) :
    ∃ o m', c.pushFront value m = .ok (o, m') ∧ o.result ≠ .error .foreignNode ∧
      o.result ≠ .error .staleNode := by
  obtain ⟨target, front, head⟩ := pushFront_eq intact value m
  obtain ⟨o, m', l', f', eq, -⟩ := insertBefore_effect intact (.pushFront value) rfl target m
  have clean : ∀ r, o.result = .error r → r ≠ .foreignNode ∧ r ≠ .staleNode := by
    intro r failed
    rcases (insertBefore_eq_ok eq).2 r failed with rejected | allocation
    · rw [head] at rejected
      cases ha : c.accept none value with
      | error refusal =>
        rw [ha] at rejected
        cases rejected
        exact accept_none_error ha
      | ok place =>
        rw [ha] at rejected
        cases rejected
    · constructor
      · rintro rfl
        cases allocation
      · rintro rfl
        cases allocation
  exact ⟨o, m', front.trans eq, fun failed => (clean _ failed).1 rfl,
    fun failed => (clean _ failed).2 rfl⟩

structure Faultless (c : Chain) : Prop where
  operate : ∀ op, ∃ report d, c.operate op = .ok (report, d) ∧ c.Advances d
  node : ∀ h i, c.resolve h = .ok i → ∃ n, c.arena.contentAt i = .ok n ∧ c.node? h = some n
  take : ∀ k, Cursor.Walks c k → ∀ side, c.Serves k side
  pushFront : ∀ value m, ∃ o m', c.pushFront value m = .ok (o, m') ∧
    o.result ≠ .error .foreignNode ∧ o.result ≠ .error .staleNode

theorem Intact.faultless (intact : c.Intact l f) : c.Faultless where
  operate op := by
    obtain ⟨report, d, -, -, eq, -, advances⟩ := operate_advances intact op
    exact ⟨report, d, eq, advances⟩
  node _ _ := node?_of_resolve
  take k walks side := by
    obtain ⟨m, spans⟩ := walks.spans intact
    exact serves_of_spans spans side
  pushFront := pushFront_never_foreign intact

theorem runs_never_fault (id : ChainId) (policy : Policy) (actions : List Action) :
    ∃ c, (Chain.empty id policy).run actions = .ok c ∧ c.Faultless := by
  obtain ⟨c, l, f, eq, intact⟩ := run_intact (empty_intact id policy) actions
  exact ⟨c, eq, intact.faultless⟩

end Chain
end StringChain
