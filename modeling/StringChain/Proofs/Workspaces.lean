import StringChain.Proofs.Refinement
import StringChain.Workspace

namespace StringChain

inductive Act where
  | create (name : String) (policy : Policy)
  | copy (source target : String)
  | move (source target : String)
  | exchange (a b : String)
  | drop (name : String)
  | perform (name : String) (call : Call) (m : Memory)

namespace Act

def makes : Act → Option String
  | create name _ => some name
  | copy _ target => some target
  | move _ _ => none
  | exchange _ _ => none
  | drop _ => none
  | perform _ _ _ => none

def goes (name : String) : Act → Option String
  | create target _ => if name = target then none else some name
  | copy _ target => if name = target then none else some name
  | move source target =>
    if name = source then some target else if name = target then none else some name
  | exchange a b => if name = a then some b else if name = b then some a else some name
  | drop target => if name = target then none else some name
  | perform _ _ _ => some name

def creates (act : Act) : Bool := act.makes.isSome

end Act

namespace Workspace

def move? (w : Workspace) (source target : String) : Option Workspace :=
  (w.chain? source).map ((w.drop source).put target)

def settle (w : Workspace) : Option Workspace → Option (Except Refusal Reply) × Workspace
  | some w' => (some (.ok .done), w')
  | none => (none, w)

def step (w : Workspace) : Act → Checked (Option (Except Refusal Reply) × Workspace)
  | .create name policy => .ok (some (.ok .done), w.create name policy)
  | .copy source target => .ok (w.settle (w.copy? source target))
  | .move source target => .ok (w.settle (w.move? source target))
  | .exchange a b => .ok (w.settle (w.exchange? a b))
  | .drop name => .ok (some (.ok .done), w.drop name)
  | .perform name call m => do
    match ← w.perform? name call m with
    | some (o, w') => .ok (some o.result, w')
    | none => .ok (none, w)

theorem chain?_put (w : Workspace) (name : String) (c : Chain) (other : String) :
    (w.put name c).chain? other = if other = name then some c else w.chain? other := by
  split
  · next same => rw [same, chain?_put_same]
  · next differ => exact chain?_put_other differ c

theorem chain?_drop (w : Workspace) (name other : String) :
    (w.drop name).chain? other = if other = name then none else w.chain? other := by
  split
  · next same =>
    subst same
    apply List.lookup_eq_none_iff.mpr
    intro entry kept
    have hne : entry.1 ≠ other := by simpa using (List.mem_filter.mp kept).2
    simpa using hne.symm
  · next differ => exact lookup_filter_other differ w.chains

theorem chain?_issue (w : Workspace) (name : String) (make : ChainId → Chain) (other : String) :
    (w.issue name make).chain? other =
      if other = name then some (make w.nextId) else w.chain? other :=
  chain?_put w name (make w.nextId) other

theorem chain?_move {w w' : Workspace} {source target : String}
    (h : w.move? source target = some w') (name : String) :
    w'.chain? name = if name = target then w.chain? source else
      if name = source then none else w.chain? name := by
  obtain ⟨c, hc, rfl⟩ := Option.map_eq_some_iff.mp h
  rw [chain?_put, chain?_drop, hc]

theorem chain?_exchange {w w' : Workspace} {a b : String} (h : w.exchange? a b = some w')
    (name : String) :
    w'.chain? name = if name = b then w.chain? a else
      if name = a then w.chain? b else w.chain? name := by
  unfold exchange? at h
  split at h
  · next c d hc hd =>
    cases h
    rw [chain?_put, chain?_put, hc, hd]
  · cases h

theorem nextId_exchange {w w' : Workspace} {a b : String} (h : w.exchange? a b = some w') :
    w'.nextId = w.nextId := by
  unfold exchange? at h
  split at h
  · cases h
    rfl
  · cases h

theorem nextId_move {w w' : Workspace} {source target : String}
    (h : w.move? source target = some w') : w'.nextId = w.nextId := by
  obtain ⟨c, -, rfl⟩ := Option.map_eq_some_iff.mp h
  rfl

def Held (w : Workspace) : Prop := ∀ name c, w.chain? name = some c → ∃ seq, c.Holds seq

end Workspace

structure Moment where
  before : Workspace
  act : Act
  reply : Option (Except Refusal Reply)
  after : Workspace

namespace Moment

def goes (mo : Moment) (name : String) : Option String :=
  match mo.reply with
  | some _ => mo.act.goes name
  | none => some name

def makes (mo : Moment) : Option String :=
  match mo.reply with
  | some _ => mo.act.makes
  | none => none

inductive Treats (mo : Moment) (name : String) (c : Chain) : Chain → Prop where
  | spares : (∀ call m, mo.act ≠ .perform name call m) → Treats mo name c c
  | performs {call : Call} {m m' : Memory} {o : Outcome Reply} :
      mo.act = .perform name call m → mo.reply = some o.result →
      c.perform call m = .ok (o, m') → Treats mo name c o.chain

structure Fair (mo : Moment) : Prop where
  served : ∀ name call m, mo.act = .perform name call m → mo.reply.isSome →
    ∃ c, mo.before.chain? name = some c
  nextId : mo.after.nextId = if mo.makes.isSome then mo.before.nextId + 1 else mo.before.nextId
  kept : ∀ old name c, mo.goes old = some name → mo.before.chain? old = some c →
    ∃ d, mo.after.chain? name = some d ∧ mo.Treats old c d
  origin : ∀ name d, mo.after.chain? name = some d →
    (∃ old c, mo.goes old = some name ∧ mo.before.chain? old = some c ∧ mo.Treats old c d) ∨
    (mo.makes = some name ∧ d.id = mo.before.nextId ∧ ∃ seq, d.Holds seq)

end Moment

namespace Workspace

variable {w w' : Workspace}

theorem fair_missing {act : Act} (other : ∀ name call m c, act = .perform name call m →
    w.chain? name ≠ some c) : Moment.Fair ⟨w, act, none, w⟩ where
  served := by simp
  nextId := rfl
  kept := by
    intro old name c goes hc
    cases goes
    exact ⟨c, hc, .spares fun call m performs => other old call m c performs hc⟩
  origin := by
    intro name d hd
    exact .inl ⟨name, d, rfl, hd, .spares fun call m performs => other name call m d performs hd⟩

theorem fair_renamed {act : Act} {result : Except Refusal Reply}
    (other : ∀ name call m, act ≠ .perform name call m) (makes : act.makes = none)
    (nextId : w'.nextId = w.nextId)
    (chains : ∀ name d, w'.chain? name = some d ↔
      ∃ old, act.goes old = some name ∧ w.chain? old = some d) :
    Moment.Fair ⟨w, act, some result, w'⟩ where
  served name call m e _ := absurd e (other name call m)
  nextId := by
    simp only [Moment.makes, makes]
    exact nextId
  kept := by
    intro old name c goes hc
    exact ⟨c, (chains name c).mpr ⟨old, goes, hc⟩, .spares (other old)⟩
  origin := by
    intro name d hd
    obtain ⟨old, goes, hc⟩ := (chains name d).mp hd
    exact .inl ⟨old, d, goes, hc, .spares (other old)⟩

theorem fair_issue {act : Act} {result : Except Refusal Reply} {target : String}
    {make : ChainId → Chain} (other : ∀ name call m, act ≠ .perform name call m)
    (makes : act.makes = some target)
    (goes : ∀ name, act.goes name = if name = target then none else some name)
    (id : ∀ id, (make id).id = id) (holds : ∀ id, ∃ seq, (make id).Holds seq) :
    Moment.Fair ⟨w, act, some result, w.issue target make⟩ where
  served name call m e _ := absurd e (other name call m)
  nextId := by
    simp only [Moment.makes, makes]
    rfl
  kept := by
    intro old name c kept hc
    simp only [Moment.goes, goes] at kept
    split at kept
    · cases kept
    · next differ =>
      cases kept
      exact ⟨c, by rw [chain?_issue, if_neg differ, hc], .spares (other old)⟩
  origin := by
    intro name d hd
    rw [chain?_issue] at hd
    split at hd
    · next same =>
      cases hd
      exact .inr ⟨by rw [same]; exact makes, id _, holds _⟩
    · next differ =>
      refine .inl ⟨name, d, ?_, hd, .spares (other name)⟩
      simp [Moment.goes, goes, differ]

theorem fair_perform {name : String} {call : Call} {m m' : Memory} {c : Chain}
    {o : Outcome Reply} (hc : w.chain? name = some c) (performs : c.perform call m = .ok (o, m')) :
    Moment.Fair ⟨w, .perform name call m, some o.result, w.put name o.chain⟩ where
  served := by
    intro _ _ _ e _
    cases e
    exact ⟨c, hc⟩
  nextId := rfl
  kept := by
    intro old other d goes hd
    obtain rfl : old = other := Option.some.inj goes
    by_cases same : old = name
    · subst same
      obtain rfl : c = d := Option.some.inj (hc.symm.trans hd)
      exact ⟨o.chain, chain?_put_same w old o.chain, .performs rfl rfl performs⟩
    · refine ⟨d, by rw [chain?_put, if_neg same, hd], .spares ?_⟩
      intro call m e
      cases e
      exact same rfl
  origin := by
    intro other d hd
    rw [chain?_put] at hd
    split at hd
    · next same =>
      cases hd
      exact .inl ⟨name, c, by rw [same]; rfl, hc, .performs rfl rfl performs⟩
    · next differ =>
      refine .inl ⟨other, d, rfl, hd, .spares ?_⟩
      intro call m e
      cases e
      exact differ rfl

theorem fair_move {source target : String} (h : w.move? source target = some w') :
    Moment.Fair ⟨w, .move source target, some (.ok .done), w'⟩ := by
  apply fair_renamed (by simp) rfl (nextId_move h)
  intro name d
  rw [chain?_move h]
  constructor
  · intro hd
    split at hd
    · next same => exact ⟨source, by simp [Act.goes, same], hd⟩
    · next notTarget =>
      split at hd
      · cases hd
      · next notSource => exact ⟨name, by simp [Act.goes, notTarget, notSource], hd⟩
  · rintro ⟨old, goes, hd⟩
    simp only [Act.goes] at goes
    split at goes
    · next fromSource =>
      cases goes
      rw [if_pos rfl, ← fromSource, hd]
    · next notSource =>
      split at goes
      · cases goes
      · next notTarget =>
        cases goes
        rw [if_neg notTarget, if_neg notSource, hd]

theorem fair_exchange {a b : String} (h : w.exchange? a b = some w') :
    Moment.Fair ⟨w, .exchange a b, some (.ok .done), w'⟩ := by
  apply fair_renamed (by simp) rfl (nextId_exchange h)
  intro name d
  rw [chain?_exchange h]
  constructor
  · intro hd
    split at hd
    · next same => exact ⟨a, by simp [Act.goes, same], hd⟩
    · next notB =>
      split at hd
      · next same =>
        refine ⟨b, ?_, hd⟩
        by_cases equal : b = a
        · exact absurd (same.trans equal.symm) notB
        · simp [Act.goes, equal, same]
      · next notA => exact ⟨name, by simp [Act.goes, notA, notB], hd⟩
  · rintro ⟨old, goes, hd⟩
    simp only [Act.goes] at goes
    split at goes
    · next isA =>
      cases goes
      rw [if_pos rfl, ← isA, hd]
    · next notA =>
      split at goes
      · next isB =>
        cases goes
        have differ : a ≠ b := fun e => notA (isB.trans e.symm)
        rw [if_neg differ, if_pos rfl, ← isB, hd]
      · next notB =>
        cases goes
        rw [if_neg notB, if_neg notA, hd]

theorem fair_drop (target : String) :
    Moment.Fair ⟨w, .drop target, some (.ok .done), w.drop target⟩ := by
  refine fair_renamed (by simp) rfl rfl ?_
  intro name d
  rw [chain?_drop]
  constructor
  · intro hd
    split at hd
    · cases hd
    · next differ => exact ⟨name, by simp [Act.goes, differ], hd⟩
  · rintro ⟨old, goes, hd⟩
    simp only [Act.goes] at goes
    split at goes
    · cases goes
    · next differ =>
      cases goes
      rw [if_neg differ, hd]

theorem step_fair (held : w.Held) (act : Act) :
    ∃ reply w', w.step act = .ok (reply, w') ∧ Moment.Fair ⟨w, act, reply, w'⟩ := by
  cases act with
  | create name policy =>
    exact ⟨_, _, rfl, fair_issue (by simp) rfl (fun _ => rfl) (fun _ => rfl)
      fun id => ⟨[], Chain.holds_empty id policy⟩⟩
  | copy source target =>
    cases hc : w.chain? source with
    | none => exact ⟨none, w, by simp [step, copy?, hc, settle], fair_missing (by simp)⟩
    | some c =>
      obtain ⟨seq, holds⟩ := held source c hc
      exact ⟨some (.ok .done), w.issue target c.copy, by simp [step, copy?, hc, settle],
        fair_issue (by simp) rfl (fun _ => rfl) (fun _ => rfl) fun id => ⟨_, holds.copy id⟩⟩
  | move source target =>
    cases hw : w.move? source target with
    | none => exact ⟨none, w, by simp [step, hw, settle], fair_missing (by simp)⟩
    | some w' => exact ⟨some (.ok .done), w', by simp [step, hw, settle], fair_move hw⟩
  | exchange a b =>
    cases hw : w.exchange? a b with
    | none => exact ⟨none, w, by simp [step, hw, settle], fair_missing (by simp)⟩
    | some w' => exact ⟨some (.ok .done), w', by simp [step, hw, settle], fair_exchange hw⟩
  | drop name => exact ⟨_, _, rfl, fair_drop name⟩
  | perform name call m =>
    cases hc : w.chain? name with
    | none =>
      refine ⟨none, w, by simp [step, perform?, hc, bind, Except.bind], fair_missing ?_⟩
      intro other call' m' c e
      cases e
      simp [hc]
    | some c =>
      obtain ⟨seq, holds⟩ := held name c hc
      obtain ⟨o, m', -, performs, -⟩ := Chain.perform_step holds call m
      exact ⟨some o.result, w.put name o.chain,
        by simp [step, perform?, hc, performs, bind, Except.bind], fair_perform hc performs⟩

structure Sound (w : Workspace) (n : Nat) : Prop where
  held : w.Held
  nextId : w.nextId = UInt64.ofNat (n + 1)
  known : ∀ name c, w.chain? name = some c → 0 < c.id.toNat ∧ c.id.toNat ≤ n
  distinct : ∀ a b c d, w.chain? a = some c → w.chain? b = some d → c.id = d.id → a = b

theorem sound_empty : empty.Sound 0 where
  held := by simp [Held, chain?, empty]
  nextId := rfl
  known := by simp [chain?, empty]
  distinct := by simp [chain?, empty]

theorem Sound.toNat_nextId {n : Nat} (sound : w.Sound n) (few : n + 1 < UInt64.size) :
    w.nextId.toNat = n + 1 := by
  rw [sound.nextId]
  exact UInt64.toNat_ofNat_of_lt' few

end Workspace

namespace Moment

variable {mo : Moment} {name : String} {c d : Chain} {n : Nat}

theorem Treats.evolves {seq : Listing} (h : mo.Treats name c d) (holds : c.Holds seq) :
    (∃ seq', d.Holds seq') ∧ c.Evolves d := by
  cases h with
  | spares _ => exact ⟨⟨seq, holds⟩, .refl c⟩
  | @performs call m _ _ _ _ performs =>
    obtain ⟨o, m', seq', eq, -, holds', evolves⟩ := Chain.perform_step holds call m
    cases eq.symm.trans performs
    exact ⟨⟨seq', holds'⟩, evolves⟩

def made (mo : Moment) : Nat := if mo.makes.isSome then 1 else 0

theorem Fair.origin_id (fair : mo.Fair) (sound : mo.before.Sound n)
    (few : n + mo.made < UInt64.size) (hd : mo.after.chain? name = some d) :
    (∃ old c, mo.goes old = some name ∧ mo.before.chain? old = some c ∧ d.id = c.id ∧
      0 < d.id.toNat ∧ d.id.toNat ≤ n) ∨
    (mo.makes = some name ∧ mo.made = 1 ∧ d.id.toNat = n + 1) := by
  rcases fair.origin name d hd with ⟨old, c, goes, hc, treats⟩ | ⟨makes, fresh, -⟩
  · obtain ⟨seq, holds⟩ := sound.held old c hc
    have same : d.id = c.id := (treats.evolves holds).2.id
    exact .inl ⟨old, c, goes, hc, same, same ▸ sound.known old c hc⟩
  · have made : mo.made = 1 := by simp [Moment.made, makes]
    exact .inr ⟨makes, made, by rw [fresh, sound.toNat_nextId (by omega)]⟩

theorem Fair.sound (fair : mo.Fair) (sound : mo.before.Sound n) (few : n + mo.made < UInt64.size) :
    mo.after.Sound (n + mo.made) where
  held name d hd := by
    rcases fair.origin name d hd with ⟨old, c, -, hc, treats⟩ | ⟨-, -, holds⟩
    · obtain ⟨seq, holds⟩ := sound.held old c hc
      exact (treats.evolves holds).1
    · exact holds
  nextId := by
    rw [fair.nextId, sound.nextId, made]
    split
    · exact (UInt64.ofNat_add (n + 1) 1).symm
    · rfl
  known name d hd := by
    rcases fair.origin_id sound few hd with ⟨_, _, -, -, -, positive, bound⟩ | ⟨-, made, fresh⟩
    · omega
    · omega
  distinct a b x y hx hy same := by
    rcases fair.origin_id sound few hx with ⟨oldA, c, goesA, hc, idA, -, boundA⟩ |
      ⟨makesA, -, freshA⟩
    · rcases fair.origin_id sound few hy with ⟨oldB, d, goesB, hd, idB, -⟩ | ⟨-, -, freshB⟩
      · obtain rfl := sound.distinct oldA oldB c d hc hd (by rw [← idA, ← idB, same])
        exact Option.some.inj (goesA.symm.trans goesB)
      · rw [same] at boundA
        omega
    · rcases fair.origin_id sound few hy with ⟨_, _, -, -, -, -, boundB⟩ | ⟨makesB, -, -⟩
      · rw [← same] at boundB
        omega
      · exact Option.some.inj (makesA.symm.trans makesB)

end Moment
end StringChain
