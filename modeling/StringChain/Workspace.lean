import StringChain.Chain.Call

namespace StringChain

structure Workspace where
  nextId : ChainId
  chains : List (String × Chain)

namespace Workspace

def empty : Workspace := ⟨1, []⟩

def chain? (w : Workspace) (name : String) : Option Chain := w.chains.lookup name

def put (w : Workspace) (name : String) (c : Chain) : Workspace :=
  { w with chains := (name, c) :: w.chains.filter (·.1 != name) }

def drop (w : Workspace) (name : String) : Workspace :=
  { w with chains := w.chains.filter (·.1 != name) }

def issue (w : Workspace) (name : String) (make : ChainId → Chain) : Workspace :=
  { w.put name (make w.nextId) with nextId := w.nextId + 1 }

def create (w : Workspace) (name : String) (policy : Policy) : Workspace :=
  w.issue name (Chain.empty · policy)

def copy? (w : Workspace) (source target : String) : Option Workspace :=
  (w.chain? source).map fun c => w.issue target c.copy

def exchange? (w : Workspace) (a b : String) : Option Workspace :=
  match w.chain? a, w.chain? b with
  | some c, some d => some ((w.put a d).put b c)
  | _, _ => none

def perform? (w : Workspace) (name : String) (call : Call) (m : Memory) :
    Checked (Option (Outcome Reply × Workspace)) :=
  match w.chain? name with
  | some c => do
    let (o, _) ← c.perform call m
    .ok (some (o, w.put name o.chain))
  | none => .ok none

theorem chain?_put_same (w : Workspace) (name : String) (c : Chain) :
    (w.put name c).chain? name = some c := by
  simp [chain?, put]

theorem lookup_filter_other {name other : String} (h : other ≠ name) (l : List (String × Chain)) :
    (l.filter (·.1 != name)).lookup other = l.lookup other := by
  induction l with
  | nil => rfl
  | cons entry rest ih =>
    obtain ⟨key, c⟩ := entry
    by_cases hk : key = name
    · have hne : (other == key) = false := by simp [hk, h]
      rw [List.filter_cons_of_neg (by simp [hk]), List.lookup_cons, hne]
      exact ih
    · rw [List.filter_cons_of_pos (by simp [hk]), List.lookup_cons, List.lookup_cons, ih]

theorem chain?_put_other {w : Workspace} {name other : String} (h : other ≠ name) (c : Chain) :
    (w.put name c).chain? other = w.chain? other := by
  have hne : (other == name) = false := by simp [h]
  simp only [chain?, put, List.lookup_cons, hne]
  exact lookup_filter_other h w.chains

end Workspace
end StringChain
