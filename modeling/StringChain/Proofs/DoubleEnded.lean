import StringChain.Proofs.Deques
import StringChain.Proofs.Reachable

namespace StringChain

variable {β : Type} {at? : Nat → Checked β} {l : List Nat} {xs : List β}

def Cursor.Mirrors (k : Cursor) (c : Chain) (at? : Nat → Checked β) (xs : List β) : Prop :=
  ∃ l, k.Spans c l ∧ Yields at? l xs

structure Walk.Mirrors (w : Walk) (c : Chain) (at? : Nat → Checked β) (s : Lineup β) : Prop where
  cursor : w.cursor.Mirrors c at? s.queue.items
  forks : List.Forall₂ (fun k q => k.Mirrors c at? q.items) w.forks s.forks

variable {c : Chain} {k : Cursor} {q : Deque β} {w : Walk} {s : Lineup β}

theorem Deque.item_portion (q : Deque β) (side : Side) (n : Nat) :
    (q.portion side (n + 1))[n]? = (side.orient q.items)[n]? :=
  List.getElem?_take_of_succ

theorem Cursor.Mirrors.nth (mirrors : k.Mirrors c at? q.items) (side : Side) (n : Nat) :
    ∃ i? k', k.nth side n c = .ok (i?, k') ∧
      Walk.itemAt? at? i? = .ok (q.portion side (n + 1))[n]? ∧
      k'.Mirrors c at? (q.draw side (n + 1)).items := by
  obtain ⟨l, spans, yields⟩ := mirrors
  obtain ⟨k', taken, spans'⟩ := spans.nth side n
  refine ⟨_, k', taken, ?_, _, spans', ?_⟩
  · rw [q.item_portion]
    exact (yields.orient side).item n
  · rw [q.items_draw]
    exact ((yields.orient side).drop (n + 1)).orient side

namespace Walk

theorem Mirrors.step (mirrors : w.Mirrors c at? s) (command : Command) :
    ∃ next, w.step c at? command = .ok next ∧
      Option.Rel (fun a b => a.1 = b.1 ∧ a.2.Mirrors c at? b.2) next (s.step command) := by
  obtain ⟨cursor, forks⟩ := mirrors
  obtain ⟨l, spans, yields⟩ := cursor
  have remaining : w.cursor.remaining = s.queue.items.length :=
    spans.remaining.trans yields.length_eq
  have count : l.length = s.queue.items.length := yields.length_eq
  cases command with
  | take side =>
    obtain ⟨i?, k', taken, read, cursor'⟩ := Cursor.Mirrors.nth ⟨l, spans, yields⟩ side 0
    have taken' : w.cursor.take side c = .ok (i?, k') := taken
    refine ⟨_, by simp [Walk.step, taken', read, bind, Except.bind]; rfl, .some ⟨rfl, ?_⟩⟩
    exact ⟨cursor', forks⟩
  | nth side n =>
    obtain ⟨i?, k', taken, read, cursor'⟩ := Cursor.Mirrors.nth ⟨l, spans, yields⟩ side n
    refine ⟨_, by simp [Walk.step, taken, read, bind, Except.bind]; rfl, .some ⟨rfl, ?_⟩⟩
    exact ⟨cursor', forks⟩
  | length => exact ⟨_, rfl, .some ⟨by rw [remaining], ⟨l, spans, yields⟩, forks⟩⟩
  | hint => exact ⟨_, rfl, .some ⟨by rw [remaining], ⟨l, spans, yields⟩, forks⟩⟩
  | fork =>
    exact ⟨_, rfl, .some ⟨rfl, ⟨l, spans, yields⟩, .cons ⟨l, spans, yields⟩ forks⟩⟩
  | join =>
    obtain ⟨cursor, copies⟩ := w
    obtain ⟨queue, queues⟩ := s
    cases forks with
    | nil => exact ⟨none, rfl, .none⟩
    | cons first others => exact ⟨_, rfl, .some ⟨rfl, first, others⟩⟩
  | rest side =>
    have read := (yields.orient side).mapM
    refine ⟨_, by simp [Walk.step, spans.rest, read, bind, Except.bind]; rfl, .some ⟨rfl, ?_⟩⟩
    exact ⟨⟨l, spans, yields⟩, forks⟩
  | count =>
    have read : w.cursor.rest .front c = .ok l := spans.rest .front
    refine ⟨_, by simp [Walk.step, read, count, bind, Except.bind]; rfl, .some ⟨rfl, ?_⟩⟩
    exact ⟨⟨l, spans, yields⟩, forks⟩
  | last =>
    have read : w.cursor.rest .front c = .ok l := spans.rest .front
    have last : itemAt? at? l.getLast? = .ok s.queue.items.getLast? := by
      have item := (yields.orient .back).item 0
      rwa [← List.head?_eq_getElem?, ← List.head?_eq_getElem?, Side.orient, Side.orient,
        List.head?_reverse, List.head?_reverse] at item
    refine ⟨_, by simp [Walk.step, read, last, bind, Except.bind]; rfl, .some ⟨rfl, ?_⟩⟩
    exact ⟨⟨l, spans, yields⟩, forks⟩

theorem Mirrors.run (mirrors : w.Mirrors c at? s) (script : List Command) :
    w.run c at? script = .ok (s.answers script) := by
  induction script generalizing w s with
  | nil => rfl
  | cons command rest ih =>
    obtain ⟨next, stepped, related⟩ := mirrors.step command
    rw [Walk.run, stepped, Lineup.answers, Lineup.run_cons]
    generalize s.step command = next' at related
    cases related with
    | none => rfl
    | @some answered answered' same =>
      obtain ⟨answer, w'⟩ := answered
      obtain ⟨answer', s'⟩ := answered'
      obtain ⟨rfl, mirrors'⟩ := same
      have rested := ih mirrors'
      simp [rested, Lineup.answers, bind, Except.bind, Function.comp_def]

end Walk

namespace Chain

variable {f : List Nat} {seq : Listing}

theorem Intact.walk_mirrors (intact : c.Intact l f) (yields : Yields at? l xs) :
    (Walk.ofChain c).Mirrors c at? (.of xs) :=
  ⟨⟨l, intact.spans, yields⟩, .nil⟩

theorem Intact.walkValues_eq (intact : c.Intact l f) (lists : c.Lists l seq)
    (script : List Command) :
    c.walkValues script = .ok ((Lineup.of (seq.map Prod.snd)).answers script) :=
  (intact.walk_mirrors lists.yields_valueAt).run script

theorem Intact.walkHandles_eq (intact : c.Intact l f) (lists : c.Lists l seq)
    (script : List Command) :
    c.walkHandles script = .ok ((Lineup.of (seq.map Prod.fst)).answers script) :=
  (intact.walk_mirrors lists.yields_handleAt).run script

end Chain

structure Plays (walk : List Command → Checked (Option (List (Answer β)))) (xs : List β) :
    Prop where
  answers : ∀ script, walk script = .ok ((Lineup.of xs).answers script)
  conserves : ∀ script answers s, (Lineup.of xs).run script = some (answers, s) →
    walk (script ++ [.rest .front, .length, .hint]) = .ok (some (answers ++
      [.items s.queue.items, .number s.queue.items.length,
        .bounds s.queue.items.length s.queue.items.length])) ∧
      s.queue.front ++ s.queue.items ++ s.queue.back.reverse = xs
  yields : ∀ script answers s, (Lineup.of xs).run script = some (answers, s) →
    (∀ command ∈ script, ∃ side, command = .take side) →
      yielded .front script answers = s.queue.front ∧ yielded .back script answers = s.queue.back
  exhausted : ∀ script answers s, (Lineup.of xs).run script = some (answers, s) →
    s.queue.items = [] → ∀ more, (∀ command ∈ more, Command.draws command = true) →
      walk (script ++ more) = .ok (some (answers ++ more.map fun _ => .item none))
  forked : ∀ script answers s, (Lineup.of xs).run script = some (answers, s) →
    ∀ inner answers' q, (Lineup.mk s.queue []).run inner = some (answers', ⟨q, []⟩) →
      ∀ more, walk (script ++ .fork :: inner ++ .join :: more) =
        .ok ((s.answers more).map fun others => answers ++ .done :: answers' ++ .done :: others)

theorem Lineup.answers_append {answers : List (Answer β)} {s s' : Lineup β} {script : List Command}
    (eq : s.run script = some (answers, s')) (more : List Command) :
    s.answers (script ++ more) = (s'.answers more).map (answers ++ ·) := by
  simp [Lineup.answers, run_append, eq, Function.comp_def]

theorem Lineup.run_forked {answers : List (Answer β)} {s : Lineup β} {q : Deque β}
    {inner : List Command} (eq : (Lineup.mk s.queue []).run inner = some (answers, ⟨q, []⟩)) :
    s.run (.fork :: inner ++ [.join]) = some (.done :: answers ++ [.done], s) := by
  have frame := run_above (s.queue :: s.forks) eq
  have base : (Lineup.mk s.queue []).above (s.queue :: s.forks) =
    ⟨s.queue, s.queue :: s.forks⟩ := rfl
  rw [base] at frame
  rw [List.cons_append, run_cons]
  simp [step, run_append, frame, above, run]

theorem plays_of_answers {walk : List Command → Checked (Option (List (Answer β)))}
    (eq : ∀ script, walk script = .ok ((Lineup.of xs).answers script)) : Plays walk xs where
  answers := eq
  conserves script answers s led := by
    refine ⟨?_, (Lineup.keeps_of xs).run led s.queue List.mem_cons_self⟩
    rw [eq, Lineup.answers_append led]
    rfl
  yields script answers s led takes :=
    ⟨(Lineup.taken_of_run takes led .front).symm, (Lineup.taken_of_run takes led .back).symm⟩
  exhausted script answers s led empty more draws := by
    rw [eq, Lineup.answers_append led, Lineup.answers, Lineup.run_of_empty empty draws]
    rfl
  forked script answers s led inner answers' q cloned more := by
    have back := Lineup.run_forked cloned
    rw [eq]
    have grouped : script ++ .fork :: inner ++ .join :: more =
      script ++ ((.fork :: inner ++ [.join]) ++ more) := by simp
    rw [grouped, Lineup.answers_append led, Lineup.answers_append back, Option.map_map]
    simp [Function.comp_def]

namespace Chain

structure DoubleEnded (c : Chain) (seq : Listing) : Prop where
  values : Plays c.walkValues (seq.map Prod.snd)
  handles : Plays c.walkHandles (seq.map Prod.fst)
  aligned : ∀ script,
    (c.walkHandles script).map (Option.map (List.map (Answer.map c.get?))) =
      (c.walkValues script).map (Option.map (List.map (Answer.map some)))

variable {f : List Nat} {seq : Listing}

theorem Intact.doubleEnded (intact : c.Intact l f) (lists : c.Lists l seq) :
    c.DoubleEnded seq where
  values := plays_of_answers (intact.walkValues_eq lists)
  handles := plays_of_answers (intact.walkHandles_eq lists)
  aligned script := by
    have same : (seq.map Prod.fst).map c.get? = (seq.map Prod.snd).map some := by
      rw [List.map_map, List.map_map]
      refine List.map_congr_left fun p member => ?_
      exact ((intact.shows lists).get p.1 p.2).mpr member
    rw [intact.walkHandles_eq lists, intact.walkValues_eq lists]
    simp only [Except.map, ← Lineup.answers_map, same]

theorem walks_are_double_ended (id : ChainId) (policy : Policy) (actions : List Action) :
    ∃ c seq, (Chain.empty id policy).run actions = .ok c ∧ c.Shows seq ∧ c.DoubleEnded seq := by
  obtain ⟨c, l, f, eq, intact⟩ := run_intact (empty_intact id policy) actions
  obtain ⟨seq, lists⟩ := intact.exists_listing
  exact ⟨c, seq, eq, intact.shows lists, intact.doubleEnded lists⟩

end Chain
end StringChain
