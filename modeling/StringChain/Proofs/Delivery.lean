import StringChain.Chain.Output
import StringChain.Proofs.Display

namespace StringChain

def utf8 (text : String) : List UInt8 := text.toByteArray.data.toList

theorem utf8_append (text other : String) : utf8 (text ++ other) = utf8 text ++ utf8 other := by
  simp [utf8, String.toByteArray_append]

theorem flatMap_utf8 (pieces : List String) :
    pieces.flatMap utf8 = utf8 (String.join pieces) := by
  induction pieces with
  | nil => rfl
  | cons piece rest ih => rw [List.flatMap_cons, String.join_cons, utf8_append, ih]

-- Takes at least one byte of what it is offered until it has taken `room` bytes in all. Call number
-- `n` takes `bite n k` of `k` bytes, or all of them if that is more. Once full it refuses with its
-- complaint, or by taking nothing if it has none.
structure Writer where
  bite : Nat → Nat → Nat
  bite_pos : ∀ n k, 0 < k → 0 < bite n k
  room : Nat
  complaint : Option String

def Writer.sink (w : Writer) : Sink := ⟨w.bite, some w.room, w.complaint, 0, #[]⟩

namespace Sink

variable {s s' s'' : Sink} {room : Nat} {bytes more : List UInt8}
  {result : Except WriteError Unit} {e : WriteError}

structure Takes (s : Sink) (room : Nat) : Prop where
  left : s.room = some room
  hungry : ∀ n k, 0 < k → 0 < s.appetite n k

theorem Takes.share_le (takes : s.Takes room) (offered : Nat) : s.share offered ≤ room := by
  unfold share
  rw [takes.left]
  exact Nat.min_le_right _ _

theorem Takes.share_pos {offered : Nat} (takes : s.Takes room) (some_left : 0 < room)
    (some_offered : 0 < offered) : 0 < s.share offered := by
  have bite := takes.hungry s.calls offered some_offered
  unfold share
  rw [takes.left]
  exact Nat.lt_min.mpr ⟨Nat.lt_min.mpr ⟨bite, some_offered⟩, some_left⟩

structure Delivers (s : Sink) (room : Nat) (bytes : List UInt8) (result : Except WriteError Unit)
    (s' : Sink) : Prop where
  taken : s'.taken.toList = s.taken.toList ++ bytes.take room
  refusal : s'.refusal = s.refusal
  ending : (bytes.length ≤ room ∧ result = .ok () ∧ s'.Takes (room - bytes.length)) ∨
    (room < bytes.length ∧ result = .error s.refusal)

theorem Delivers.nil (takes : s.Takes room) : s.Delivers room [] (.ok ()) s where
  taken := by simp
  refusal := rfl
  ending := .inl ⟨Nat.zero_le _, rfl, takes⟩

theorem Delivers.accept (takes : s.Takes room) (fits : bytes.length ≤ room) :
    s.Delivers room bytes (.ok ()) (s.accept bytes) where
  taken := by simp [Sink.accept, List.take_of_length_le fits]
  refusal := rfl
  ending := .inl ⟨fits, rfl, by simp [Sink.accept, takes.left], takes.hungry⟩

theorem Delivers.full (offered : bytes ≠ []) :
    s.Delivers 0 bytes (.error s.refusal) { s with calls := s.calls + 1 } where
  taken := by simp
  refusal := rfl
  ending := .inr ⟨List.length_pos_iff.mpr offered, rfl⟩

theorem Delivers.ok (first : s.Delivers room bytes (.ok ()) s') :
    bytes.length ≤ room ∧ s'.Takes (room - bytes.length) := by
  obtain ⟨fits, -, takes⟩ | ⟨-, failed⟩ := first.ending
  · exact ⟨fits, takes⟩
  · exact nomatch failed

theorem Delivers.error (first : s.Delivers room bytes (.error e) s') :
    room < bytes.length ∧ e = s.refusal := by
  obtain ⟨-, went, -⟩ | ⟨beyond, failed⟩ := first.ending
  · exact nomatch went
  · exact ⟨beyond, Except.error.inj failed⟩

theorem Delivers.append (first : s.Delivers room bytes (.ok ()) s')
    (second : s'.Delivers (room - bytes.length) more result s'') :
    s.Delivers room (bytes ++ more) result s'' where
  taken := by
    rw [second.taken, first.taken, List.append_assoc, List.take_append]
  refusal := second.refusal.trans first.refusal
  ending := by
    have fits := first.ok.1
    rw [← first.refusal, List.length_append]
    obtain ⟨fits', went, takes⟩ | ⟨beyond, failed⟩ := second.ending
    · refine .inl ⟨by omega, went, ?_⟩
      rwa [Nat.sub_add_eq]
    · exact .inr ⟨by omega, failed⟩

theorem Delivers.append_of_error (first : s.Delivers room bytes (.error e) s') (more : List UInt8) :
    s.Delivers room (bytes ++ more) (.error e) s' := by
  obtain ⟨beyond, rfl⟩ := first.error
  refine ⟨?_, first.refusal, .inr ⟨?_, rfl⟩⟩
  · rw [first.taken, List.take_append_of_le_length (Nat.le_of_lt beyond)]
  · rw [List.length_append]
    exact Nat.lt_add_right _ beyond

-- By the number of bytes left to offer: each call either takes a first part of them or ends it.
theorem Takes.writeAll (takes : s.Takes room) :
    s.Delivers room bytes (s.writeAll bytes).1 (s.writeAll bytes).2 := by
  induction hn : bytes.length using Nat.strongRecOn generalizing s room bytes with
  | ind n ih =>
    subst hn
    by_cases offered : bytes = []
    · rw [offered, writeAll_nil]
      exact .nil takes
    · obtain rfl | some_left := Nat.eq_zero_or_pos room
      · rw [writeAll_of_share_eq_zero offered (Nat.le_zero.mp (takes.share_le _))]
        exact .full offered
      · have taking := takes.share_pos some_left (List.length_pos_iff.mpr offered)
        rw [writeAll_of_share_pos taking]
        have first := Delivers.accept takes
          (Nat.le_trans (List.length_take_le (s.share bytes.length) bytes) (takes.share_le _))
        have shorter : (bytes.drop (s.share bytes.length)).length < bytes.length := by
          rw [List.length_drop]
          have := List.length_pos_iff.mpr offered
          omega
        have both := first.append (ih _ shorter first.ok.2 rfl)
        rwa [List.take_append_drop] at both

theorem Takes.writePieces (pieces : List String) (takes : s.Takes room) :
    s.Delivers room (pieces.flatMap utf8) (s.writePieces pieces).1 (s.writePieces pieces).2 := by
  induction pieces generalizing s room with
  | nil => exact .nil takes
  | cons piece rest ih =>
    rw [List.flatMap_cons, Sink.writePieces]
    have first : s.Delivers room (utf8 piece) _ _ := takes.writeAll
    unfold utf8 at first
    cases written : s.writeAll piece.toByteArray.data.toList with
    | mk result s' =>
      rw [written] at first
      cases result with
      | ok _ => exact first.append (ih first.ok.2)
      | error e => exact first.append_of_error _

end Sink

namespace Chain

theorem writing_delivers_a_prefix (id : ChainId) (policy : Policy) (actions : List Action)
    (w : Writer) : ∃ c text result s,
      (Chain.empty id policy).run actions = .ok c ∧ c.display = .ok text ∧
      c.write w.sink = .ok (result, s) ∧
      s.taken.toList = (utf8 (text ++ "\n")).take w.room ∧
      (result = .ok () ↔ (utf8 (text ++ "\n")).length ≤ w.room) ∧
      (w.room < (utf8 (text ++ "\n")).length → result = .error w.sink.refusal) := by
  obtain ⟨c, seq, ran, holds⟩ := run_holds id policy actions
  have cut := holds.shows.pieces_eq
  generalize spread 0 (seq.map Prod.snd) = pieces at cut
  have bytes : (pieces ++ ["\n"]).flatMap utf8 = utf8 (String.join pieces ++ "\n") := by
    rw [flatMap_utf8, String.join_append]
    simp
  have takes : w.sink.Takes w.room := ⟨rfl, w.bite_pos⟩
  have delivers := takes.writePieces (pieces ++ ["\n"])
  rw [bytes] at delivers
  refine ⟨c, String.join pieces, (w.sink.writePieces (pieces ++ ["\n"])).1,
    (w.sink.writePieces (pieces ++ ["\n"])).2, ran, ?_, ?_, ?_, ?_⟩
  · rw [display, cut]
    rfl
  · rw [write, cut]
    rfl
  · rw [delivers.taken]
    rfl
  · obtain ⟨fits, went, -⟩ | ⟨beyond, failed⟩ := delivers.ending
    · exact ⟨by simp [went, fits], fun beyond => absurd beyond (Nat.not_lt.mpr fits)⟩
    · exact ⟨by simp [failed, beyond], fun _ => failed⟩

end Chain
end StringChain
