import StringChain.Chain.Cursor

namespace StringChain

inductive Command where
  | take (side : Side)
  | nth (side : Side) (n : Nat)
  | length
  | hint
  | fork
  | join
  | rest (side : Side)
  | count
  | last
deriving DecidableEq, Repr

inductive Answer (β : Type) where
  | item (x? : Option β)
  | items (xs : List β)
  | number (n : Nat)
  | bounds (lower upper : Nat)
  | done
deriving DecidableEq, Repr

structure Walk where
  cursor : Cursor
  forks : List Cursor

namespace Walk

def ofChain (c : Chain) : Walk := ⟨c.cursor, []⟩

variable {β : Type}

def itemAt? (at? : Nat → Checked β) : Option Nat → Checked (Option β)
  | some i => do .ok (some (← at? i))
  | none => .ok none

def step (w : Walk) (c : Chain) (at? : Nat → Checked β) :
    Command → Checked (Option (Answer β × Walk))
  | .take side => do
    let (i?, cursor) ← w.cursor.take side c
    .ok (some (.item (← itemAt? at? i?), { w with cursor }))
  | .nth side n => do
    let (i?, cursor) ← w.cursor.nth side n c
    .ok (some (.item (← itemAt? at? i?), { w with cursor }))
  | .length => .ok (some (.number w.cursor.remaining, w))
  | .hint => .ok (some (.bounds w.cursor.remaining w.cursor.remaining, w))
  | .fork => .ok (some (.done, { w with forks := w.cursor :: w.forks }))
  | .join =>
    match w.forks with
    | cursor :: forks => .ok (some (.done, ⟨cursor, forks⟩))
    | [] => .ok none
  | .rest side => do .ok (some (.items (← (← w.cursor.rest side c).mapM at?), w))
  | .count => do .ok (some (.number (← w.cursor.rest .front c).length, w))
  | .last => do .ok (some (.item (← itemAt? at? (← w.cursor.rest .front c).getLast?), w))

def run (w : Walk) (c : Chain) (at? : Nat → Checked β) :
    List Command → Checked (Option (List (Answer β)))
  | [] => .ok (some [])
  | command :: rest => do
    match ← w.step c at? command with
    | some (answer, w) => .ok ((← w.run c at? rest).map (answer :: ·))
    | none => .ok none

end Walk

namespace Chain

def walkValues (c : Chain) (script : List Command) : Checked (Option (List (Answer String))) :=
  (Walk.ofChain c).run c c.valueAt script

def walkHandles (c : Chain) (script : List Command) : Checked (Option (List (Answer Handle))) :=
  (Walk.ofChain c).run c c.handleAt script

end Chain
end StringChain
