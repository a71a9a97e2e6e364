import StringChain.Proofs.Effects
import StringChain.Proofs.Failure

namespace StringChain.Chain

variable {P : Chain → Prop} {c d : Chain} {l f : List Nat}

structure Kept (P : Chain → Prop) : Prop where
  insert : ∀ {c l f target value m o m'}, c.Intact l f → P c →
    c.insertBefore target value m = .ok (o, m') → P o.chain
  remove : ∀ {c l f h o}, c.Intact l f → P c → c.remove h = .ok o → P o.chain
  clear : ∀ {c l f}, c.Intact l f → P c → P c.clear

namespace Kept

theorem issued (kept : Kept P) (intact : c.Intact l f) (holds : P c) {target : Option Handle}
    {value : String} {m m' : Memory} {o : Outcome Reply}
    (eq : perform.issued (c.insertBefore target value m) = .ok (o, m')) : P o.chain := by
  obtain ⟨first, inserted, rfl⟩ := issued_eq_ok eq
  exact kept.insert intact holds inserted

theorem extend (kept : Kept P) (intact : c.Intact l f) (holds : P c) {values : List String}
    {m m' : Memory} {o : Outcome Unit} (eq : c.extend values m = .ok (o, m')) : P o.chain := by
  induction values generalizing c l f m o with
  | nil =>
    cases eq
    exact holds
  | cons value rest ih =>
    obtain ⟨first, m₁, l₁, f₁, inserted, effect⟩ :=
      insertBefore_effect intact (.pushBack value) rfl none m
    have intact₁ := effect.intact intact
    have holds₁ := kept.insert intact holds inserted
    cases result : first.result with
    | error r =>
      cases eq.symm.trans (extend_of_error inserted result)
      exact holds₁
    | ok k =>
      obtain ⟨others, m₂, _, _, extended, -⟩ := extend_effect intact₁ rest m₁
      cases eq.symm.trans (extend_of_ok inserted result extended)
      have held : P others.chain := ih intact₁ holds₁ extended
      exact held

theorem perform (kept : Kept P) (intact : c.Intact l f) (holds : P c) {call : Call}
    {m m' : Memory} {o : Outcome Reply} (eq : c.perform call m = .ok (o, m')) : P o.chain := by
  cases intact.shape call with
  | inserts _ _ form =>
    exact kept.issued intact holds ((form c.arena.capacity m).symm.trans eq)
  | removes _ _ _ form =>
    obtain ⟨first, removed, e⟩ := ok_of_map_eq_ok ((form c.arena.capacity m).symm.trans eq)
    cases e
    exact kept.remove intact holds removed
  | appends =>
    obtain ⟨⟨o₁, m₁⟩, extended, eq⟩ := ok_of_bind_eq_ok eq
    cases eq
    exact kept.extend intact holds extended
  | ignores =>
    cases eq
    exact holds
  | misreads unreadable =>
    cases eq.symm.trans (perform_misread unreadable m)
    exact holds
  | clears =>
    cases eq
    exact kept.clear intact holds

theorem run (kept : Kept P) (copy : ∀ {c : Chain} (id : ChainId), P c → P (c.copy id))
    (setGeneration : ∀ {c d : Chain} {h h' : Handle} {g : UInt32},
      c.setGeneration h g = .ok (d, h') → P c → P d)
    (intact : c.Intact l f) (holds : P c) {actions : List Action}
    (eq : c.run actions = .ok d) : P d := by
  induction actions generalizing c l f with
  | nil =>
    cases eq
    exact holds
  | cons action rest ih =>
    obtain ⟨e, l₁, f₁, acted, intact₁⟩ := act_intact intact action
    obtain ⟨_, acted', rested⟩ := ok_of_bind_eq_ok eq
    cases acted.symm.trans acted'
    refine ih intact₁ ?_ rested
    cases action with
    | perform call m =>
      obtain ⟨⟨o, m'⟩, performed, acted⟩ := ok_of_bind_eq_ok acted
      cases acted
      exact kept.perform intact holds performed
    | copy id =>
      cases acted
      exact copy id holds
    | setGeneration handle generation =>
      cases restamped : c.setGeneration handle generation with
      | error r =>
        simp only [act, restamped, Except.ok.injEq] at acted
        exact acted ▸ holds
      | ok answered =>
        simp only [act, restamped, Except.ok.injEq] at acted
        exact acted ▸ setGeneration restamped holds

end Kept
end StringChain.Chain
