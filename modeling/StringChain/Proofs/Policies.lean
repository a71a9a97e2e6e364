import StringChain.Proofs.Grounds

namespace StringChain

structure Policy.Allows (p : Policy) (bytes : ByteArray) : Prop where
  clean : ∀ i : Nat, bytes.data[i]? ≠ some 0
  text : bytes.IsValidUTF8
  short : ∀ limit, p.maxValueLength = some limit → bytes.size ≤ limit

theorem Policy.objection?_eq_none_iff_allows {p : Policy} {value : String} :
    p.objection? value = none ↔ p.Allows value.toByteArray := by
  rcases Chain.objection?_cases p value with ⟨_, objects, zero, -⟩ |
    ⟨_, objects, -, limited, long⟩ | ⟨objects, clean, short⟩
  · rw [objects]
    exact ⟨fun e => (nomatch e), fun allows => absurd zero (allows.clean _)⟩
  · rw [objects]
    refine ⟨fun e => (nomatch e), fun allows => ?_⟩
    exact absurd (allows.short _ limited) (Nat.not_le_of_lt long)
  · exact ⟨fun _ => ⟨clean, value.isValidUTF8, short⟩, fun _ => objects⟩

namespace Chain

variable {c d : Chain} {l f : List Nat} {p : Policy}

def Upholds (c : Chain) (p : Policy) : Prop :=
  c.policy = p ∧ ∀ i v, c.valueAt? i = some v → p.objection? v = none

theorem upholds_empty (id : ChainId) (p : Policy) : (Chain.empty id p).Upholds p :=
  ⟨rfl, fun _ _ value => (nomatch value)⟩

theorem kept_upholds (p : Policy) : Kept (Upholds · p) where
  insert := by
    intro c l f target value m o m' intact ⟨policy, values⟩ eq
    obtain ⟨_, _, eq', ends⟩ := insertBefore_ends intact target value m
    cases eq.symm.trans eq'
    cases ends with
    | unaccepted _ => exact ⟨policy, values⟩
    | noNode _ _ => exact ⟨policy, values⟩
    | noValue _ _ _ => exact ⟨policy, values⟩
    | linked _ accepted _ _ _ becomes =>
      refine ⟨becomes.policy.trans policy, fun i v found => ?_⟩
      rw [valueAt?_of_cells becomes.cells i] at found
      split at found
      · cases found
        exact policy ▸ (accept_eq_ok.mp accepted).1
      · exact values i v found
  remove := by
    intro c l f h o intact ⟨policy, values⟩ eq
    rcases remove_cases intact h with ⟨_, -, eq'⟩ | ⟨_, _, d, _, -, -, -, eq', -, becomes⟩
    · cases eq.symm.trans eq'
      exact ⟨policy, values⟩
    · cases eq.symm.trans eq'
      refine ⟨becomes.policy.trans policy, fun i v found => ?_⟩
      rw [valueAt?_of_cells becomes.cells i, Slot.content?_vacate] at found
      split at found
      · cases found
      · exact values i v found
  clear := by
    intro c l f intact ⟨policy, values⟩
    refine ⟨policy, fun i v found => ?_⟩
    have gone : i ∈ [] := ((clear_intact intact).1.live i).mpr ⟨v, found⟩
    cases gone

theorem setGeneration_upholds {h h' : Handle} {g : UInt32}
    (eq : c.setGeneration h g = .ok (d, h')) (upholds : c.Upholds p) : d.Upholds p := by
  have contents := content?_setGeneration eq
  obtain ⟨_, _, -, -, rfl⟩ := setGeneration_eq_ok eq
  refine ⟨upholds.1, fun i v found => upholds.2 i v ?_⟩
  rwa [valueAt?_eq, contents, ← valueAt?_eq] at found

theorem run_upholds (id : ChainId) (policy : Policy) {actions : List Action}
    (eq : (Chain.empty id policy).run actions = .ok c) : c.Upholds policy :=
  (kept_upholds policy).run (fun _ upholds => upholds) setGeneration_upholds
    (empty_intact id policy) (upholds_empty id policy) eq

structure Guarded (c : Chain) : Prop where
  stored : ∀ i node, c.arena.content? i = some node → c.policy.Allows node.value.toByteArray
  admits : ∀ target value (m : Memory), (∀ h ∈ target, c.has h) →
    c.policy.Allows value.toByteArray → m.Ample →
      ∃ h d events m', c.insertBefore target value m = .ok (⟨.ok h, d, events⟩, m')

theorem accept_of_allows {target : Option Handle} {value : String} (live : ∀ h ∈ target, c.has h)
    (allows : c.policy.Allows value.toByteArray) : ∃ place, c.accept target value = .ok place := by
  have objects := Policy.objection?_eq_none_iff_allows.mpr allows
  cases target with
  | none => exact ⟨none, accept_eq_ok.mpr ⟨objects, .inl ⟨rfl, rfl⟩⟩⟩
  | some h =>
    have has := live h rfl
    unfold Chain.has at has
    cases resolved : c.resolve h with
    | error r => simp [resolved] at has
    | ok i => exact ⟨some i, accept_eq_ok.mpr ⟨objects, .inr ⟨h, i, rfl, resolved, rfl⟩⟩⟩

theorem Upholds.guarded (upholds : c.Upholds p) (intact : c.Intact l f) : c.Guarded where
  stored i node content := by
    have found : c.valueAt? i = some node.value := by rw [valueAt?_eq, content]; rfl
    exact upholds.1 ▸ Policy.objection?_eq_none_iff_allows.mp (upholds.2 i node.value found)
  admits target value m live allows ample := by
    obtain ⟨place, accepted⟩ := accept_of_allows live allows
    obtain ⟨_, _, _, d, m', -, -, -, eq, -⟩ := insertBefore_of_ample intact ample accepted
    exact ⟨_, d, _, m', eq⟩

def Founded (c : Chain) (p : Policy) : Prop := (∃ l f, c.Intact l f) ∧ c.Upholds p

end Chain

def Act.founds (policies : String → Option Policy) : Act → String → Option Policy
  | create name policy => Function.update policies name (some policy)
  | copy source target =>
    match policies source with
    | some p => Function.update policies target (some p)
    | none => policies
  | move source target =>
    match policies source with
    | some p => Function.update (Function.update policies source none) target (some p)
    | none => policies
  | exchange a b =>
    match policies a, policies b with
    | some p, some q => Function.update (Function.update policies a (some q)) b (some p)
    | _, _ => policies
  | drop name => Function.update policies name none
  | perform _ _ _ => policies

namespace Workspace

variable {w : Workspace} {policies : String → Option Policy} {name : String} {c : Chain}
  {p : Policy}

def Founded (w : Workspace) (policies : String → Option Policy) : Prop :=
  ∀ name, Option.Rel Chain.Founded (w.chain? name) (policies name)

theorem founded_empty : empty.Founded fun _ => none := fun _ => .none

theorem Founded.put (founded : w.Founded policies) (name : String) (holds : c.Founded p) :
    (w.put name c).Founded (Function.update policies name (some p)) := by
  intro other
  rw [chain?_put, Function.update_apply]
  split
  · exact .some holds
  · exact founded other

theorem Founded.drop (founded : w.Founded policies) (name : String) :
    (w.drop name).Founded (Function.update policies name none) := by
  intro other
  rw [chain?_drop, Function.update_apply]
  split
  · exact .none
  · exact founded other

theorem Founded.issue (founded : w.Founded policies) (name : String) {make : ChainId → Chain}
    (holds : (make w.nextId).Founded p) :
    (w.issue name make).Founded (Function.update policies name (some p)) :=
  founded.put name holds

theorem Founded.cases (founded : w.Founded policies) (name : String) :
    (w.chain? name = none ∧ policies name = none) ∨
      ∃ c p, w.chain? name = some c ∧ policies name = some p ∧ c.Founded p := by
  have related := founded name
  cases hc : w.chain? name with
  | none =>
    rw [hc] at related
    cases hp : policies name with
    | none => exact .inl ⟨rfl, rfl⟩
    | some p =>
      rw [hp] at related
      cases related
  | some c =>
    rw [hc] at related
    cases hp : policies name with
    | none =>
      rw [hp] at related
      cases related
    | some p =>
      rw [hp] at related
      cases related with
      | some holds => exact .inr ⟨c, p, rfl, rfl, holds⟩

theorem Founded.perform (founded : w.Founded policies) (hp : policies name = some p)
    (holds : c.Founded p) (call : Call) (m : Memory) :
    ∃ o m', c.perform call m = .ok (o, m') ∧ (w.put name o.chain).Founded policies := by
  obtain ⟨⟨l, f, intact⟩, upholds⟩ := holds
  obtain ⟨o, m', l', f', performed, effect⟩ := Chain.perform_effect intact call m
  have upholds' := (Chain.kept_upholds p).perform intact upholds performed
  have holds' : o.chain.Founded p := ⟨⟨l', f', effect.intact intact⟩, upholds'⟩
  have put := founded.put name holds'
  rw [← hp, Function.update_eq_self] at put
  exact ⟨o, m', performed, put⟩

theorem step_founded (founded : w.Founded policies) (act : Act) :
    ∃ reply w', w.step act = .ok (reply, w') ∧ w'.Founded (act.founds policies) := by
  cases act with
  | create name policy =>
    refine ⟨_, _, rfl, founded.issue name ?_⟩
    exact ⟨⟨[], [], Chain.empty_intact _ policy⟩, Chain.upholds_empty _ policy⟩
  | copy source target =>
    rcases founded.cases source with ⟨hc, hp⟩ | ⟨c, p, hc, hp, ⟨l, f, intact⟩, upholds⟩
    · exact ⟨none, w, by simp [step, copy?, hc, settle], by simpa [Act.founds, hp] using founded⟩
    · refine ⟨some (.ok .done), w.issue target c.copy, by simp [step, copy?, hc, settle], ?_⟩
      simp only [Act.founds, hp]
      exact founded.issue target ⟨⟨l, f, Chain.copy_intact intact _⟩, upholds⟩
  | move source target =>
    rcases founded.cases source with ⟨hc, hp⟩ | ⟨c, p, hc, hp, holds⟩
    · exact ⟨none, w, by simp [step, move?, hc, settle], by simpa [Act.founds, hp] using founded⟩
    · refine ⟨some (.ok .done), (w.drop source).put target c,
        by simp [step, move?, hc, settle], ?_⟩
      simp only [Act.founds, hp]
      exact (founded.drop source).put target holds
  | exchange a b =>
    rcases founded.cases a with ⟨hc, hp⟩ | ⟨c, p, hc, hp, holds⟩
    · exact ⟨none, w, by simp [step, exchange?, hc, settle],
        by simpa [Act.founds, hp] using founded⟩
    · rcases founded.cases b with ⟨hd, hq⟩ | ⟨d, q, hd, hq, holds'⟩
      · exact ⟨none, w, by simp [step, exchange?, hd, settle],
          by simpa [Act.founds, hq] using founded⟩
      · refine ⟨some (.ok .done), (w.put a d).put b c,
          by simp [step, exchange?, hc, hd, settle], ?_⟩
        simp only [Act.founds, hp, hq]
        exact (founded.put a holds').put b holds
  | drop name => exact ⟨_, _, rfl, founded.drop name⟩
  | perform name call m =>
    rcases founded.cases name with ⟨hc, -⟩ | ⟨c, p, hc, hp, holds⟩
    · exact ⟨none, w, by simp [step, perform?, hc, bind, Except.bind], founded⟩
    · obtain ⟨o, m', performed, founded'⟩ := founded.perform hp holds call m
      exact ⟨some o.result, w.put name o.chain,
        by simp [step, perform?, hc, performed, bind, Except.bind], founded'⟩

theorem Founded.policy (founded : w.Founded policies) (name : String) :
    (w.chain? name).map Chain.policy = policies name := by
  rcases founded.cases name with ⟨hc, hp⟩ | ⟨c, p, hc, hp, -, policy, -⟩
  · rw [hc, hp]
    rfl
  · rw [hc, hp]
    exact congrArg some policy

theorem Founded.guarded (founded : w.Founded policies) (hc : w.chain? name = some c) :
    c.Guarded := by
  rcases founded.cases name with ⟨hc', -⟩ | ⟨_, p, hc', -, ⟨l, f, intact⟩, upholds⟩
  · cases hc.symm.trans hc'
  · cases hc.symm.trans hc'
    exact upholds.guarded intact

def Guards (policies : String → Option Policy) : List Moment → Prop
  | [] => True
  | mo :: rest =>
    (∀ name, (mo.after.chain? name).map Chain.policy = mo.act.founds policies name) ∧
    (∀ name c, mo.after.chain? name = some c → c.Guarded) ∧
    Guards (mo.act.founds policies) rest

theorem history_guards (founded : w.Founded policies) (acts : List Act) :
    ∃ history, w.history acts = .ok history ∧ Guards policies history := by
  induction acts generalizing w policies with
  | nil => exact ⟨[], rfl, trivial⟩
  | cons act rest ih =>
    obtain ⟨reply, w', eq, founded'⟩ := step_founded founded act
    obtain ⟨history, eq', guards⟩ := ih founded'
    refine ⟨⟨w, act, reply, w'⟩ :: history, ?_, founded'.policy,
      fun _ _ => founded'.guarded, guards⟩
    simp [Workspace.history, eq, eq', bind, Except.bind]

theorem policies_hold_throughout (acts : List Act) :
    ∃ history, empty.history acts = .ok history ∧ Guards (fun _ => none) history :=
  history_guards founded_empty acts

end Workspace
end StringChain
