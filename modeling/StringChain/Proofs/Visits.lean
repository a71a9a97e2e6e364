import Mathlib.Data.List.Nodup
import StringChain.Slot

namespace StringChain

inductive Visits (follow : Nat → Option (Option Nat)) : Option Nat → List Nat → Prop where
  | done : Visits follow none []
  | step {i : Nat} {next : Option Nat} {rest : List Nat} :
      follow i = some next → Visits follow next rest → Visits follow (some i) (i :: rest)

namespace Visits

variable {follow follow' : Nat → Option (Option Nat)} {start : Option Nat} {l l' : List Nat}

theorem start_eq (h : Visits follow start l) : start = l.head? := by
  cases h <;> rfl

theorem congr (h : Visits follow start l) (same : ∀ i ∈ l, follow' i = follow i) :
    Visits follow' start l := by
  induction h with
  | done => exact .done
  | @step j next rest hj _ ih =>
    have hj' : follow' j = some next := (same j (by simp)).trans hj
    exact .step hj' (ih fun i hi => same i (List.mem_cons_of_mem j hi))

theorem unique (h : Visits follow start l) (h' : Visits follow start l') : l = l' := by
  induction h generalizing l' with
  | done => cases h'; rfl
  | @step j next rest hj _ ih =>
    cases h' with
    | step hj' hrest =>
      obtain rfl : next = _ := Option.some.inj (hj.symm.trans hj')
      rw [ih hrest]

theorem of_append {before after : List Nat} {i : Nat}
    (h : Visits follow start (before ++ i :: after)) : Visits follow (some i) (i :: after) := by
  induction before generalizing start with
  | nil =>
    obtain rfl : start = some i := h.start_eq
    exact h
  | cons j before ih =>
    cases h with
    | step _ hrest => exact ih hrest

-- A position met twice would start two visits of different lengths.
theorem nodup (h : Visits follow start l) : l.Nodup := by
  induction h with
  | done => exact List.nodup_nil
  | @step j next rest hj hrest ih =>
    refine List.nodup_cons.mpr ⟨?_, ih⟩
    intro hmem
    obtain ⟨before, after, rfl⟩ := List.append_of_mem hmem
    have twice : j :: after = j :: (before ++ j :: after) :=
      hrest.of_append.unique (.step hj hrest)
    have lengths := congrArg List.length twice
    simp only [List.length_cons, List.length_append] at lengths
    omega

theorem tail {i : Nat} {next : Option Nat} {rest : List Nat}
    (h : Visits follow (some i) (i :: rest)) (hi : follow i = some next) :
    Visits follow next rest := by
  cases h with
  | step hi' hrest =>
    obtain rfl : next = _ := Option.some.inj (hi.symm.trans hi')
    exact hrest

end Visits
end StringChain
