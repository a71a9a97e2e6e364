import StringChain.Chain.Script
import StringChain.Proofs.Intact

namespace StringChain

def Side.orient {β : Type} (side : Side) (l : List β) : List β :=
  match side with
  | .front => l
  | .back => l.reverse

theorem Side.orient_nil {β : Type} (side : Side) : side.orient ([] : List β) = [] := by
  cases side <;> rfl

theorem Side.orient_orient {β : Type} (side : Side) (l : List β) :
    side.orient (side.orient l) = l := by
  cases side with
  | front => rfl
  | back => exact List.reverse_reverse l

theorem Side.length_orient {β : Type} (side : Side) (l : List β) :
    (side.orient l).length = l.length := by
  cases side with
  | front => rfl
  | back => exact List.length_reverse

theorem Side.mem_orient {β : Type} {side : Side} {l : List β} {x : β} :
    x ∈ side.orient l ↔ x ∈ l := by
  cases side with
  | front => exact Iff.rfl
  | back => exact List.mem_reverse

theorem Side.orient_eq_iff {β : Type} {side : Side} {l m : List β} :
    side.orient l = m ↔ l = side.orient m := by
  constructor
  · rintro rfl
    exact (side.orient_orient l).symm
  · rintro rfl
    exact side.orient_orient m

variable {c : Chain} {l f : List Nat}

namespace Cursor

variable {k : Cursor} {side : Side}

-- `l` is what is left to take, from the front position to the back one.
structure Spans (k : Cursor) (c : Chain) (l : List Nat) : Prop where
  remaining : k.remaining = l.length
  position : l ≠ [] → ∀ side, k.position side = (side.orient l).head?
  within : ∃ before after, c.Ring (before ++ l ++ after)

theorem Spans.content (spans : k.Spans c l) {i : Nat} (hi : i ∈ l) :
    ∃ node, c.arena.content? i = some node := by
  obtain ⟨before, after, ring⟩ := spans.within
  obtain ⟨left, right, rfl⟩ := List.append_of_mem hi
  have cut : c.Ring ((before ++ left) ++ i :: (right ++ after)) := by simpa using ring
  obtain ⟨node, content, -⟩ := Chain.nextOf_some_eq_ok.mp cut.nextOf_eq
  exact ⟨node, content⟩

theorem take_of_content {i n : Nat} {node : Node} (remaining : k.remaining = n + 1)
    (position : k.position side = some i) (content : c.arena.content? i = some node) :
    k.take side c = .ok (some i, k.advance side node n) := by
  simp [take, remaining, position, Arena.contentAt_eq_ok.mpr content, bind, Except.bind]

theorem Spans.take_front {i : Nat} {rest : List Nat} (spans : k.Spans c (i :: rest)) :
    ∃ k', k.take .front c = .ok (some i, k') ∧ k'.Spans c rest := by
  obtain ⟨before, after, ring⟩ := spans.within
  have cut : c.Ring (before ++ i :: (rest ++ after)) := by simpa using ring
  obtain ⟨node, content, next⟩ := Chain.nextOf_some_eq_ok.mp cut.nextOf_eq
  have ends := spans.position (by simp)
  refine ⟨_, take_of_content spans.remaining (ends .front) content, rfl, ?_, ?_⟩
  · intro more side
    obtain ⟨j, others, rfl⟩ := List.exists_cons_of_ne_nil more
    cases side with
    | front => exact next
    | back =>
      have last := ends .back
      rw [Side.orient, List.head?_reverse, List.getLast?_cons_cons] at last
      rw [Side.orient, List.head?_reverse]
      exact last
  · exact ⟨before ++ [i], after, by simpa using ring⟩

theorem Spans.take_back {i : Nat} {rest : List Nat} (spans : k.Spans c (rest ++ [i])) :
    ∃ k', k.take .back c = .ok (some i, k') ∧ k'.Spans c rest := by
  obtain ⟨before, after, ring⟩ := spans.within
  have cut : c.Ring ((before ++ rest) ++ i :: after) := by simpa using ring
  obtain ⟨node, content, prev⟩ := Chain.prevOf_some_eq_ok.mp cut.prevOf_eq
  have ends := spans.position (by simp)
  have remaining : k.remaining = rest.length + 1 := by simpa using spans.remaining
  have last : k.position .back = some i := by simpa [Side.orient] using ends .back
  refine ⟨_, take_of_content remaining last content, rfl, ?_, ?_⟩
  · intro more side
    cases side with
    | front =>
      have first : k.front = rest.head? := by
        have head := ends .front
        rwa [Side.orient, List.head?_append_of_ne_nil _ more] at head
      exact first
    | back =>
      have left : (before ++ rest).getLast? = rest.getLast? :=
        List.getLast?_append_of_ne_nil before more
      rw [Side.orient, List.head?_reverse, ← left, ← prev]
      rfl
  · exact ⟨before, i :: after, by simpa using ring⟩

theorem Spans.take (spans : k.Spans c l) (side : Side) :
    ∃ k', k.take side c = .ok ((side.orient l).head?, k') ∧
      k'.Spans c (side.orient (side.orient l).tail) := by
  cases hl : side.orient l with
  | nil =>
    obtain rfl : l = [] := (Side.orient_eq_iff.mp hl).trans side.orient_nil
    refine ⟨k, take_of_none_remaining spans.remaining side c, ?_⟩
    rwa [List.tail_nil, side.orient_nil]
  | cons i rest =>
    obtain rfl := Side.orient_eq_iff.mp hl
    cases side with
    | front => exact spans.take_front
    | back => exact Spans.take_back (by simpa [Side.orient] using spans)

theorem Spans.nth (spans : k.Spans c l) (side : Side) (n : Nat) :
    ∃ k', k.nth side n c = .ok ((side.orient l)[n]?, k') ∧
      k'.Spans c (side.orient ((side.orient l).drop (n + 1))) := by
  induction n generalizing k l with
  | zero =>
    obtain ⟨k', taken, spans'⟩ := spans.take side
    rw [List.head?_eq_getElem?] at taken
    exact ⟨k', taken, by rwa [List.drop_one]⟩
  | succ n ih =>
    obtain ⟨k₁, taken, spans₁⟩ := spans.take side
    cases hl : side.orient l with
    | nil =>
      rw [hl] at taken spans₁
      exact ⟨k₁, by simp [Cursor.nth, taken, bind, Except.bind], by simpa using spans₁⟩
    | cons i rest =>
      rw [hl] at taken spans₁
      obtain ⟨k', taken', spans'⟩ := ih spans₁
      rw [List.tail_cons, side.orient_orient] at taken' spans'
      exact ⟨k', by simp [Cursor.nth, taken, taken', bind, Except.bind], spans'⟩

theorem Spans.upTo (spans : k.Spans c l) (side : Side) :
    k.upTo side l.length c = .ok (side.orient l) := by
  generalize hm : side.orient l = m
  induction m generalizing k l with
  | nil =>
    obtain rfl : l = [] := (Side.orient_eq_iff.mp hm).trans side.orient_nil
    rfl
  | cons i rest ih =>
    obtain ⟨k₁, taken, spans₁⟩ := spans.take side
    rw [hm] at taken spans₁
    have others := ih spans₁ (side.orient_orient rest)
    have length : l.length = (side.orient rest).length + 1 := by
      rw [← side.length_orient l, hm, side.length_orient]
      rfl
    rw [length]
    rw [List.tail_cons] at others
    simp [Cursor.upTo, taken, others, bind, Except.bind]

theorem Spans.rest (spans : k.Spans c l) (side : Side) : k.rest side c = .ok (side.orient l) := by
  rw [Cursor.rest, spans.remaining]
  exact spans.upTo side

inductive Walks (c : Chain) : Cursor → Prop where
  | start : Walks c c.cursor
  | take {k k' : Cursor} {side : Side} {i? : Option Nat} :
      Walks c k → k.take side c = .ok (i?, k') → Walks c k'

end Cursor

theorem Chain.Intact.spans (intact : c.Intact l f) : c.cursor.Spans c l where
  remaining := intact.size
  position _ side := by
    cases side with
    | front => exact intact.ring.headIndex_eq
    | back => exact intact.ring.tailIndex_eq.trans List.head?_reverse.symm
  within := ⟨[], [], by simpa using intact.ring⟩

theorem Cursor.Walks.spans {k : Cursor} (walks : Walks c k) (intact : c.Intact l f) :
    ∃ m, k.Spans c m := by
  induction walks with
  | start => exact ⟨l, intact.spans⟩
  | @take k k' side i? _ taken ih =>
    obtain ⟨m, spans⟩ := ih
    obtain ⟨k₁, taken₁, spans₁⟩ := spans.take side
    cases taken.symm.trans taken₁
    exact ⟨_, spans₁⟩

namespace Chain

theorem valueAt_of_content {i : Nat} {node : Node} (content : c.arena.content? i = some node) :
    c.valueAt i = .ok node.value := by
  simp [valueAt, Arena.contentAt_eq_ok.mpr content, bind, Except.bind]

theorem handleAt_of_content {i : Nat} {node : Node} (content : c.arena.content? i = some node) :
    ∃ h, c.handleAt i = .ok h := by
  obtain ⟨s, hs, -⟩ := Arena.content?_eq_some.mp content
  exact ⟨⟨c.id, i, s.generation⟩, by simp [handleAt, Arena.slotAt, hs, bind, Except.bind]⟩

end Chain

variable {β : Type} {at? : Nat → Checked β} {xs : List β}

def Yields (at? : Nat → Checked β) (l : List Nat) (xs : List β) : Prop :=
  l.map at? = xs.map .ok

namespace Yields

theorem length_eq (yields : Yields at? l xs) : l.length = xs.length := by
  simpa using congrArg List.length yields

theorem drop (yields : Yields at? l xs) (n : Nat) : Yields at? (l.drop n) (xs.drop n) := by
  rw [Yields, List.map_drop, List.map_drop, yields]

theorem orient (yields : Yields at? l xs) (side : Side) :
    Yields at? (side.orient l) (side.orient xs) := by
  cases side with
  | front => exact yields
  | back => simpa [Yields, Side.orient] using congrArg List.reverse yields

theorem item (yields : Yields at? l xs) (n : Nat) : Walk.itemAt? at? l[n]? = .ok xs[n]? := by
  have nth : l[n]?.map at? = xs[n]?.map .ok := by
    rw [← List.getElem?_map, ← List.getElem?_map, yields]
  cases hl : l[n]? with
  | none =>
    rw [hl] at nth
    have absent : xs[n]? = none := Option.map_eq_none_iff.mp nth.symm
    rw [absent]
    rfl
  | some i =>
    rw [hl] at nth
    obtain ⟨x, hx, found⟩ := Option.map_eq_some_iff.mp nth.symm
    rw [hx]
    simp [Walk.itemAt?, ← found, bind, Except.bind]

theorem mapM (yields : Yields at? l xs) : l.mapM at? = .ok xs := by
  induction l generalizing xs with
  | nil =>
    obtain rfl : xs = [] := List.map_eq_nil_iff.mp yields.symm
    rfl
  | cons i rest ih =>
    obtain ⟨x, others, rfl, first, rested⟩ := List.map_eq_cons_iff.mp yields.symm
    rw [List.mapM_cons, ← first, ih rested.symm]
    rfl

end Yields

end StringChain
