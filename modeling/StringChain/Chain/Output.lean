import StringChain.Chain.Format

namespace StringChain

-- `appetite n k` bounds what is taken of `k` bytes offered at call number `n`, and `room` what is
-- still taken in all. A sink that can take nothing answers with its complaint, or with a count of
-- zero if it has none.
structure Sink where
  appetite : Nat → Nat → Nat
  room : Option Nat
  complaint : Option String
  calls : Nat
  taken : Array UInt8

inductive WriteError where
  | writeZero
  | brokenPipe (complaint : String)
deriving DecidableEq, Repr

def WriteError.message : WriteError → String
  | writeZero => "failed to write whole buffer"
  | brokenPipe complaint => complaint

namespace Sink

def ofLimits (chunk room : Option Nat) (complaint : Option String) : Sink :=
  ⟨fun _ offered => chunk.getD offered, room, complaint, 0, #[]⟩

def unlimited : Sink := ofLimits none none none

def share (s : Sink) (offered : Nat) : Nat :=
  let n := min (s.appetite s.calls offered) offered
  match s.room with
  | some room => min n room
  | none => n

def refusal (s : Sink) : WriteError :=
  match s.complaint with
  | some complaint => .brokenPipe complaint
  | none => .writeZero

def accept (s : Sink) (bytes : List UInt8) : Sink :=
  { s with room := s.room.map (· - bytes.length), calls := s.calls + 1, taken := s.taken ++ bytes }

def writeAll (s : Sink) (bytes : List UInt8) : Except WriteError Unit × Sink :=
  match bytes with
  | [] => (.ok (), s)
  | first :: others =>
    match s.share (others.length + 1) with
    | 0 => (.error s.refusal, { s with calls := s.calls + 1 })
    | n + 1 =>
      (s.accept (first :: others.take n)).writeAll (others.drop n)
termination_by bytes.length
decreasing_by
  simp only [List.length_drop, List.length_cons]
  omega

theorem share_le (s : Sink) (offered : Nat) : s.share offered ≤ offered := by
  unfold share
  cases s.room with
  | none => exact Nat.min_le_right _ _
  | some room => exact Nat.le_trans (Nat.min_le_left _ _) (Nat.min_le_right _ _)

theorem writeAll_nil (s : Sink) : s.writeAll [] = (.ok (), s) := by
  rw [writeAll]

theorem writeAll_of_share_eq_zero {s : Sink} {bytes : List UInt8} (offered : bytes ≠ [])
    (full : s.share bytes.length = 0) :
    s.writeAll bytes = (.error s.refusal, { s with calls := s.calls + 1 }) := by
  cases bytes with
  | nil => exact absurd rfl offered
  | cons first others =>
    have none_left : s.share (others.length + 1) = 0 := full
    rw [writeAll, none_left]

theorem writeAll_of_share_pos {s : Sink} {bytes : List UInt8} (taking : 0 < s.share bytes.length) :
    s.writeAll bytes =
      (s.accept (bytes.take (s.share bytes.length))).writeAll
        (bytes.drop (s.share bytes.length)) := by
  cases bytes with
  | nil => exact absurd (Nat.lt_of_lt_of_le taking (s.share_le 0)) (Nat.lt_irrefl 0)
  | cons first others =>
    obtain ⟨n, hn⟩ := Nat.exists_eq_succ_of_ne_zero (Nat.ne_of_gt taking)
    have some_left : s.share (others.length + 1) = n + 1 := hn
    rw [writeAll, some_left, hn]
    rfl

def writePieces (s : Sink) : List String → Except WriteError Unit × Sink
  | [] => (.ok (), s)
  | piece :: rest =>
    match s.writeAll piece.toByteArray.data.toList with
    | (.ok _, s) => s.writePieces rest
    | (.error e, s) => (.error e, s)

end Sink

namespace Chain

def write (c : Chain) (s : Sink) : Checked (Except WriteError Unit × Sink) := do
  .ok (s.writePieces ((← c.pieces) ++ ["\n"]))

end Chain
end StringChain
