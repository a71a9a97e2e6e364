import StringChain.Proofs.Walks

namespace StringChain

def Answer.map {β γ : Type} (g : β → γ) : Answer β → Answer γ
  | item x? => item (x?.map g)
  | items xs => items (xs.map g)
  | number n => number n
  | bounds lower upper => bounds lower upper
  | done => done

variable {β γ : Type}

structure Deque (β : Type) where
  front : List β
  items : List β
  back : List β

namespace Deque

def of (xs : List β) : Deque β := ⟨[], xs, []⟩

def whole (q : Deque β) : List β := q.front ++ q.items ++ q.back.reverse

def portion (q : Deque β) (side : Side) (n : Nat) : List β := (side.orient q.items).take n

def draw (q : Deque β) (side : Side) (n : Nat) : Deque β :=
  let left := side.orient ((side.orient q.items).drop n)
  match side with
  | .front => ⟨q.front ++ q.portion .front n, left, q.back⟩
  | .back => ⟨q.front, left, q.back ++ q.portion .back n⟩

def taken (q : Deque β) : Side → List β
  | .front => q.front
  | .back => q.back

def map (g : β → γ) (q : Deque β) : Deque γ := ⟨q.front.map g, q.items.map g, q.back.map g⟩

theorem whole_of (xs : List β) : (of xs).whole = xs := by simp [of, whole]

theorem items_draw (q : Deque β) (side : Side) (n : Nat) :
    (q.draw side n).items = side.orient ((side.orient q.items).drop n) := by
  cases side <;> rfl

theorem whole_draw (q : Deque β) (side : Side) (n : Nat) : (q.draw side n).whole = q.whole := by
  cases side with
  | front =>
    have split : q.items.take n ++ q.items.drop n = q.items := List.take_append_drop n q.items
    simp only [whole, draw, portion, Side.orient, List.append_assoc]
    rw [← List.append_assoc (q.items.take n), split]
  | back =>
    have split :
        (q.items.reverse.drop n).reverse ++ (q.items.reverse.take n).reverse = q.items := by
      rw [← List.reverse_append, List.take_append_drop, List.reverse_reverse]
    simp only [whole, draw, portion, Side.orient, List.reverse_append, List.append_assoc]
    rw [← List.append_assoc (q.items.reverse.drop n).reverse, split]

theorem taken_draw (q : Deque β) (side : Side) (n : Nat) (other : Side) :
    (q.draw side n).taken other =
      q.taken other ++ if side = other then q.portion side n else [] := by
  cases side <;> cases other <;> simp [draw, taken]

theorem portion_one (q : Deque β) (side : Side) :
    q.portion side 1 = (q.portion side 1)[0]?.toList := by
  unfold portion
  cases side.orient q.items <;> rfl

theorem portion_of_empty {q : Deque β} (empty : q.items = []) (side : Side) (n : Nat) :
    q.portion side n = [] := by
  rw [portion, empty, side.orient_nil, List.take_nil]

theorem draw_of_empty {q : Deque β} (empty : q.items = []) (side : Side) (n : Nat) :
    q.draw side n = q := by
  obtain ⟨front, items, back⟩ := q
  obtain rfl : items = [] := empty
  cases side <;> simp [draw, portion, Side.orient]

theorem portion_map (g : β → γ) (q : Deque β) (side : Side) (n : Nat) :
    (q.map g).portion side n = (q.portion side n).map g := by
  cases side <;> simp [map, portion, Side.orient, List.map_take, List.map_reverse]

theorem draw_map (g : β → γ) (q : Deque β) (side : Side) (n : Nat) :
    (q.map g).draw side n = (q.draw side n).map g := by
  cases side <;> simp [map, draw, portion, Side.orient]

end Deque

def Command.draws : Command → Bool
  | take _ => true
  | nth _ _ => true
  | _ => false

def yielded (side : Side) : List Command → List (Answer β) → List β
  | .take place :: script, .item x? :: answers =>
    (if place = side then x?.toList else []) ++ yielded side script answers
  | _ :: script, _ :: answers => yielded side script answers
  | _, _ => []

structure Lineup (β : Type) where
  queue : Deque β
  forks : List (Deque β)

namespace Lineup

def of (xs : List β) : Lineup β := ⟨.of xs, []⟩

def drawn (s : Lineup β) (side : Side) (n : Nat) : Lineup β :=
  { s with queue := s.queue.draw side n }

def step (s : Lineup β) : Command → Option (Answer β × Lineup β)
  | .take side => some (.item (s.queue.portion side 1)[0]?, s.drawn side 1)
  | .nth side n => some (.item (s.queue.portion side (n + 1))[n]?, s.drawn side (n + 1))
  | .length => some (.number s.queue.items.length, s)
  | .hint => some (.bounds s.queue.items.length s.queue.items.length, s)
  | .fork => some (.done, { s with forks := s.queue :: s.forks })
  | .join =>
    match s.forks with
    | queue :: forks => some (.done, ⟨queue, forks⟩)
    | [] => none
  | .rest side => some (.items (side.orient s.queue.items), s)
  | .count => some (.number s.queue.items.length, s)
  | .last => some (.item s.queue.items.getLast?, s)

def run (s : Lineup β) : List Command → Option (List (Answer β) × Lineup β)
  | [] => some ([], s)
  | command :: rest => do
    let (answer, s) ← s.step command
    let (answers, s) ← s.run rest
    some (answer :: answers, s)

def answers (s : Lineup β) (script : List Command) : Option (List (Answer β)) :=
  (s.run script).map Prod.fst

variable {s s' : Lineup β} {xs : List β}

theorem run_cons (s : Lineup β) (command : Command) (rest : List Command) :
    s.run (command :: rest) = (s.step command).bind fun first =>
      (first.2.run rest).map fun others => (first.1 :: others.1, others.2) := by
  rw [run]
  cases s.step command with
  | none => rfl
  | some first => cases h : first.2.run rest <;> simp [h]

theorem run_append (s : Lineup β) (script more : List Command) :
    s.run (script ++ more) = (s.run script).bind fun first =>
      (first.2.run more).map fun others => (first.1 ++ others.1, others.2) := by
  induction script generalizing s with
  | nil => simp [run]
  | cons command rest ih =>
    rw [List.cons_append, run_cons, run_cons]
    cases s.step command with
    | none => rfl
    | some first =>
      simp only [Option.bind_some, ih, Option.bind_map]
      cases first.2.run rest with
      | none => rfl
      | some others => simp [Function.comp_def]

def above (s : Lineup β) (base : List (Deque β)) : Lineup β := ⟨s.queue, s.forks ++ base⟩

theorem step_above {answer : Answer β} (base : List (Deque β)) {command : Command}
    (eq : s.step command = some (answer, s')) :
    (s.above base).step command = some (answer, s'.above base) := by
  cases command with
  | join =>
    obtain ⟨queue, forks⟩ := s
    cases forks with
    | nil => cases eq
    | cons fork others =>
      cases eq
      rfl
  | _ =>
    cases eq
    rfl

theorem run_above {answers : List (Answer β)} (base : List (Deque β)) {script : List Command}
    (eq : s.run script = some (answers, s')) :
    (s.above base).run script = some (answers, s'.above base) := by
  induction script generalizing s answers with
  | nil =>
    cases eq
    rfl
  | cons command rest ih =>
    rw [run_cons] at eq
    obtain ⟨⟨answer, s₁⟩, first, eq⟩ := Option.bind_eq_some_iff.mp eq
    obtain ⟨⟨others, s₂⟩, rested, e⟩ := Option.map_eq_some_iff.mp eq
    cases e
    rw [run_cons, step_above base first, Option.bind_some, ih rested]
    rfl

def Keeps (s : Lineup β) (xs : List β) : Prop := ∀ q ∈ s.queue :: s.forks, q.whole = xs

theorem keeps_of (xs : List β) : (of xs).Keeps xs := by
  intro q member
  obtain rfl := List.mem_singleton.mp member
  exact Deque.whole_of xs

theorem Keeps.drawn (keeps : s.Keeps xs) (side : Side) (n : Nat) : (s.drawn side n).Keeps xs := by
  obtain ⟨queue, forks⟩ := List.forall_mem_cons.mp keeps
  exact List.forall_mem_cons.mpr ⟨(s.queue.whole_draw side n).trans queue, forks⟩

theorem Keeps.step {answer : Answer β} {command : Command} (keeps : s.Keeps xs)
    (eq : s.step command = some (answer, s')) : s'.Keeps xs := by
  cases command with
  | take side =>
    cases eq
    exact keeps.drawn side 1
  | nth side n =>
    cases eq
    exact keeps.drawn side (n + 1)
  | fork =>
    cases eq
    exact List.forall_mem_cons.mpr ⟨keeps s.queue List.mem_cons_self, keeps⟩
  | join =>
    obtain ⟨queue, forks⟩ := s
    cases forks with
    | nil => cases eq
    | cons fork others =>
      cases eq
      exact (List.forall_mem_cons.mp keeps).2
  | _ =>
    cases eq
    exact keeps

theorem Keeps.run {answers : List (Answer β)} {script : List Command} (keeps : s.Keeps xs)
    (eq : s.run script = some (answers, s')) : s'.Keeps xs := by
  induction script generalizing s answers with
  | nil =>
    cases eq
    exact keeps
  | cons command rest ih =>
    rw [run_cons] at eq
    obtain ⟨⟨answer, s₁⟩, first, eq⟩ := Option.bind_eq_some_iff.mp eq
    obtain ⟨⟨others, s₂⟩, rested, e⟩ := Option.map_eq_some_iff.mp eq
    cases e
    exact ih (keeps.step first) rested

theorem taken_of_run {answers : List (Answer β)} {script : List Command}
    (takes : ∀ command ∈ script, ∃ side, command = .take side)
    (eq : s.run script = some (answers, s')) (side : Side) :
    s'.queue.taken side = s.queue.taken side ++ yielded side script answers := by
  induction script generalizing s answers with
  | nil =>
    cases eq
    simp [yielded]
  | cons command rest ih =>
    obtain ⟨⟨place, rfl⟩, others⟩ := List.forall_mem_cons.mp takes
    rw [run_cons] at eq
    obtain ⟨⟨answer, s₁⟩, first, eq⟩ := Option.bind_eq_some_iff.mp eq
    obtain ⟨⟨later, s₂⟩, rested, e⟩ := Option.map_eq_some_iff.mp eq
    cases e
    cases first
    have drawn := s.queue.taken_draw place 1 side
    rw [s.queue.portion_one place] at drawn
    rw [ih others rested, yielded, ← List.append_assoc]
    exact congrArg (· ++ _) drawn

theorem drawn_of_empty (empty : s.queue.items = []) (side : Side) (n : Nat) :
    s.drawn side n = s := by
  rw [drawn, Deque.draw_of_empty empty]

theorem step_of_empty (empty : s.queue.items = []) {command : Command}
    (draws : command.draws = true) : s.step command = some (.item none, s) := by
  cases command with
  | take side => simp [step, Deque.portion_of_empty empty, drawn_of_empty empty]
  | nth side n => simp [step, Deque.portion_of_empty empty, drawn_of_empty empty]
  | _ => cases draws

theorem run_of_empty (empty : s.queue.items = []) {script : List Command}
    (draws : ∀ command ∈ script, command.draws = true) :
    s.run script = some (script.map fun _ => .item none, s) := by
  induction script with
  | nil => rfl
  | cons command rest ih =>
    obtain ⟨first, others⟩ := List.forall_mem_cons.mp draws
    rw [run_cons, step_of_empty empty first, Option.bind_some, ih others]
    rfl

def map (g : β → γ) (s : Lineup β) : Lineup γ := ⟨s.queue.map g, s.forks.map (Deque.map g)⟩

theorem step_map (g : β → γ) (s : Lineup β) (command : Command) :
    (s.map g).step command =
      (s.step command).map fun answered => (answered.1.map g, answered.2.map g) := by
  have portion := Deque.portion_map g s.queue
  have draw := Deque.draw_map g s.queue
  cases command with
  | take side => simp [step, map, drawn, portion, draw, Answer.map]
  | nth side n => simp [step, map, drawn, portion, draw, Answer.map]
  | length => simp [step, map, Deque.map, Answer.map]
  | hint => simp [step, map, Deque.map, Answer.map]
  | fork => rfl
  | join =>
    obtain ⟨queue, forks⟩ := s
    cases forks <;> rfl
  | rest side => cases side <;> simp [step, map, Deque.map, Answer.map, Side.orient]
  | count => simp [step, map, Deque.map, Answer.map]
  | last => simp [step, map, Deque.map, Answer.map]

theorem run_map (g : β → γ) (s : Lineup β) (script : List Command) :
    (s.map g).run script =
      (s.run script).map fun r => (r.1.map (Answer.map g), r.2.map g) := by
  induction script generalizing s with
  | nil => rfl
  | cons command rest ih =>
    rw [run_cons, run_cons, step_map]
    cases s.step command with
    | none => rfl
    | some first =>
      simp only [Option.map_some, Option.bind_some, ih]
      cases first.2.run rest <;> rfl

theorem answers_map (g : β → γ) (xs : List β) (script : List Command) :
    (of (xs.map g)).answers script =
      ((of xs).answers script).map (List.map (Answer.map g)) := by
  have start : of (xs.map g) = (of xs).map g := rfl
  rw [start, answers, answers, run_map, Option.map_map, Option.map_map]
  rfl

end Lineup
end StringChain
