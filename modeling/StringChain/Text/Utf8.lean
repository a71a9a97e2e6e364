namespace StringChain.Text

def untilNul (bytes : ByteArray) : ByteArray := ⟨bytes.data.takeWhile (· != 0)⟩

def wellFormedEnd (bytes : ByteArray) (i : Nat) : Nat :=
  match _decoded : bytes.utf8DecodeChar? i with
  | some c => wellFormedEnd bytes (i + c.utf8Size)
  | none => i
termination_by bytes.size - i
decreasing_by
  have inside : i < bytes.size :=
    ByteArray.lt_size_of_isSome_utf8DecodeChar? (by simp [_decoded])
  have positive := c.utf8Size_pos
  omega

def validUpTo (bytes : ByteArray) : Nat := wellFormedEnd bytes 0

theorem wellFormedEnd_of_some {bytes : ByteArray} {i : Nat} {c : Char}
    (h : bytes.utf8DecodeChar? i = some c) :
    wellFormedEnd bytes i = wellFormedEnd bytes (i + c.utf8Size) := by
  rw [wellFormedEnd]
  split
  · next d hd =>
    rw [h] at hd
    cases hd
    rfl
  · next hd => simp [h] at hd

theorem le_wellFormedEnd (bytes : ByteArray) (i : Nat) : i ≤ wellFormedEnd bytes i := by
  fun_induction wellFormedEnd bytes i with
  | case1 i c h ih => omega
  | case2 i h => exact Nat.le_refl i

end StringChain.Text
