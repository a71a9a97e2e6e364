import Mathlib.Data.List.TakeWhile
import Mathlib.Order.Bounds.Basic
import StringChain.Proofs.Grounds

namespace StringChain

namespace Text

variable {bytes text : ByteArray}

structure Terminated (text bytes : ByteArray) : Prop where
  clean : 0 ∉ text.data
  shape : bytes = text ∨ ∃ rest, bytes = text ++ ⟨#[0]⟩ ++ rest

theorem untilNul_of_terminated (terminated : Terminated text bytes) : untilNul bytes = text := by
  have kept : ∀ byte ∈ text.data.toList, (byte != 0) = true := by
    intro byte inside
    refine bne_iff_ne.mpr ?_
    rintro rfl
    exact terminated.clean (Array.mem_toList_iff.mp inside)
  refine ByteArray.ext (Array.toList_inj.mp ?_)
  rcases terminated.shape with rfl | ⟨rest, rfl⟩
  · simpa [untilNul] using List.takeWhile_eq_self_iff.mpr kept
  · simp [untilNul, ByteArray.data_append, List.takeWhile_append_of_pos kept]

theorem toList_untilNul (bytes : ByteArray) :
    (untilNul bytes).data.toList = bytes.data.toList.takeWhile (· != 0) := by
  simp [untilNul]

theorem terminated_untilNul (bytes : ByteArray) : Terminated (untilNul bytes) bytes := by
  have cut := List.takeWhile_append_dropWhile (p := (· != 0)) (l := bytes.data.toList)
  rw [← toList_untilNul] at cut
  refine ⟨?_, ?_⟩
  · intro inside
    rw [← Array.mem_toList_iff, toList_untilNul] at inside
    have other := List.all_eq_true.mp List.all_takeWhile _ inside
    simp at other
  · cases behind : bytes.data.toList.dropWhile (· != 0) with
    | nil =>
      refine .inl (ByteArray.ext (Array.toList_inj.mp ?_))
      rw [← cut, behind, List.append_nil]
    | cons byte rest =>
      have stop := List.head?_dropWhile_not (· != 0) bytes.data.toList
      rw [behind] at stop
      obtain rfl : byte = 0 := by simpa using stop
      refine .inr ⟨⟨rest.toArray⟩, ByteArray.ext (Array.toList_inj.mp ?_)⟩
      rw [← cut, behind]
      simp [ByteArray.data_append]

theorem extract_of_decode {i : Nat} {c : Char} (decoded : bytes.utf8DecodeChar? i = some c) :
    bytes.extract i (i + c.utf8Size) = [c].utf8Encode := by
  have bound := ByteArray.le_size_of_utf8DecodeChar?_eq_some decoded
  rw [ByteArray.utf8DecodeChar?_eq_utf8DecodeChar?_extract] at decoded
  have first := String.toByteArray_utf8EncodeChar_of_utf8DecodeChar?_eq_some decoded
  rw [List.utf8Encode_singleton, first, ByteArray.extract_extract, Nat.min_eq_left bound,
    Nat.add_zero]

theorem decode_of_extract {i n : Nat} {c : Char} {cs : List Char} (bound : n ≤ bytes.size)
    (encoded : bytes.extract i n = (c :: cs).utf8Encode) :
    bytes.utf8DecodeChar? i = some c ∧ bytes.extract (i + c.utf8Size) n = cs.utf8Encode := by
  have size : n - i = c.utf8Size + cs.utf8Encode.size := by
    have sizes := congrArg ByteArray.size (encoded.trans List.utf8Encode_cons)
    rwa [ByteArray.size_extract, Nat.min_eq_left bound, ByteArray.size_append,
      List.utf8Encode_singleton, List.size_toByteArray, String.length_utf8EncodeChar] at sizes
  have positive := c.utf8Size_pos
  have reaches : i + c.utf8Size ≤ n := by omega
  have decoded : bytes.utf8DecodeChar? i = some c := by
    rw [ByteArray.utf8DecodeChar?_eq_utf8DecodeChar?_extract,
      ByteArray.extract_eq_extract_append_extract n (by omega) bound, encoded]
    exact ByteArray.utf8DecodeChar?_append_eq_some List.utf8DecodeChar?_utf8Encode_cons _
  refine ⟨decoded, ?_⟩
  rw [ByteArray.extract_eq_extract_append_extract (i + c.utf8Size) (Nat.le_add_right _ _) reaches,
    extract_of_decode decoded] at encoded
  exact (ByteArray.append_right_inj _).mp (encoded.trans List.utf8Encode_cons)

theorem isValidUTF8_to_wellFormedEnd (bytes : ByteArray) (i : Nat) :
    (bytes.extract i (wellFormedEnd bytes i)).IsValidUTF8 := by
  fun_induction wellFormedEnd bytes i with
  | case1 i c decoded ih =>
    have reaches := le_wellFormedEnd bytes (i + c.utf8Size)
    rw [ByteArray.extract_eq_extract_append_extract (i + c.utf8Size) (Nat.le_add_right _ _)
      reaches, extract_of_decode decoded]
    exact ByteArray.isValidUTF8_utf8Encode.append ih
  | case2 i _ =>
    rw [ByteArray.extract_same]
    exact ByteArray.isValidUTF8_empty

theorem wellFormedEnd_le_size {i : Nat} (inside : i ≤ bytes.size) :
    wellFormedEnd bytes i ≤ bytes.size := by
  fun_induction wellFormedEnd bytes i with
  | case1 i c decoded ih => exact ih (ByteArray.le_size_of_utf8DecodeChar?_eq_some decoded)
  | case2 i _ => exact inside

theorem le_wellFormedEnd_of_isValidUTF8 {i n : Nat} (bound : n ≤ bytes.size)
    (valid : (bytes.extract i n).IsValidUTF8) : n ≤ wellFormedEnd bytes i := by
  obtain ⟨cs, encoded⟩ := valid
  induction cs generalizing i with
  | nil =>
    have none_left := ByteArray.extract_eq_empty_iff.mp (encoded.trans List.utf8Encode_nil)
    rw [Nat.min_eq_left bound] at none_left
    exact Nat.le_trans none_left (le_wellFormedEnd bytes i)
  | cons c cs ih =>
    obtain ⟨decoded, rested⟩ := decode_of_extract bound encoded
    rw [wellFormedEnd_of_some decoded]
    exact ih rested

theorem isGreatest_validUpTo (bytes : ByteArray) :
    IsGreatest {n | n ≤ bytes.size ∧ (bytes.extract 0 n).IsValidUTF8} (validUpTo bytes) := by
  refine ⟨⟨wellFormedEnd_le_size (Nat.zero_le _), isValidUTF8_to_wellFormedEnd bytes 0⟩, ?_⟩
  rintro n ⟨bound, valid⟩
  exact le_wellFormedEnd_of_isValidUTF8 bound valid

theorem fromUTF8?_eq_some (valid : bytes.IsValidUTF8) :
    ∃ value, String.fromUTF8? bytes = some value ∧ value.toByteArray = bytes :=
  ⟨_, dif_pos valid, rfl⟩

end Text

namespace Chain

variable {c : Chain} {l f : List Nat} {target : Option Handle} {value : String} {m m' : Memory}

theorem insertBefore_of_clean {o : Outcome Handle} (clean : 0 ∉ value.toByteArray.data)
    (eq : c.insertBefore target value m = .ok (o, m')) (offset : Nat) :
    o.result ≠ .error (.invalidArgument (.interiorNul offset)) := by
  intro failed
  rcases (insertBefore_eq_ok eq).2 _ failed with rejected | starved
  · rcases accept_cases c target value 0 with ⟨r, rejected', k, ground, -⟩ | ⟨⟨place, accepted⟩, -⟩
    · cases rejected.symm.trans rejected'
      cases ground with
      | interiorNul zero _ => exact clean (Array.mem_of_getElem? zero)
    · cases rejected.symm.trans accepted
  · cases starved

structure Reads (c : Chain) (target : Option Handle) (m : Memory) (text bytes : ByteArray) :
    Prop where
  alike : ∀ other, Text.Terminated text other →
    c.insertBytes target other m = c.insertBytes target bytes m
  wellFormed : text.IsValidUTF8 → ∃ value o m', value.toByteArray = text ∧
    c.insertBytes target bytes m = .ok (o, m') ∧ c.insertBefore target value m = .ok (o, m') ∧
    ∀ offset, o.result ≠ .error (.invalidArgument (.interiorNul offset))
  malformed : ¬ text.IsValidUTF8 → ∃ v,
    c.insertBytes target bytes m =
      .ok (⟨.error (.invalidArgument (.notUtf8 v)), c, []⟩, m) ∧
    IsGreatest {n | n ≤ text.size ∧ (text.extract 0 n).IsValidUTF8} v

theorem Intact.reads (intact : c.Intact l f) {text bytes : ByteArray}
    (terminated : Text.Terminated text bytes) : c.Reads target m text bytes := by
  have read : Text.untilNul bytes = text := Text.untilNul_of_terminated terminated
  refine ⟨fun other same => ?_, fun valid => ?_, fun invalid => ?_⟩
  · have read' : Text.untilNul other = text := Text.untilNul_of_terminated same
    simp only [insertBytes, read, read']
  · obtain ⟨value, decoded, encoded⟩ := Text.fromUTF8?_eq_some valid
    obtain ⟨o, m', inserted, -⟩ := insertBefore_ends intact target value m
    refine ⟨value, o, m', encoded, ?_, inserted, ?_⟩
    · rw [insertBytes_of_some (read ▸ decoded), inserted]
    · exact insertBefore_of_clean (encoded ▸ terminated.clean) inserted
  · have unreadable : String.fromUTF8? (Text.untilNul bytes) = none := read ▸ dif_neg invalid
    refine ⟨Text.validUpTo text, ?_, Text.isGreatest_validUpTo text⟩
    rw [insertBytes_of_none unreadable, read]

theorem byte_strings_insert_their_text (id : ChainId) (policy : Policy) (actions : List Action) :
    ∃ c, (Chain.empty id policy).run actions = .ok c ∧ ∀ bytes, ∃ text,
      Text.Terminated text bytes ∧ (∀ other, Text.Terminated other bytes → other = text) ∧
      ∀ target m, c.Reads target m text bytes := by
  obtain ⟨c, l, f, eq, intact⟩ := run_intact (empty_intact id policy) actions
  refine ⟨c, eq, fun bytes => ⟨Text.untilNul bytes, Text.terminated_untilNul bytes, ?_, ?_⟩⟩
  · exact fun other terminated => (Text.untilNul_of_terminated terminated).symm
  · exact fun target m => intact.reads (Text.terminated_untilNul bytes)

end Chain
end StringChain
