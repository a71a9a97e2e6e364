import Mathlib.Data.List.Infix
import StringChain.Chain.Format
import StringChain.Proofs.Reachable

namespace StringChain

open String.Slice.Pattern

def Unbordered (sep : List Char) : Prop := ∀ u ∈ sep.tails, u <+: sep → u = [] ∨ u = sep

theorem unbordered_separator : Unbordered separator.toList := by
  unfold Unbordered separator
  decide

-- An occurrence that begins before the next `sep` cannot reach into it.
theorem Unbordered.isPrefix {sep w rest : List Char} (unbordered : Unbordered sep) (begun : w ≠ [])
    (occurs : sep <+: w ++ (sep ++ rest)) : sep <+: w := by
  obtain within | ⟨x, rfl⟩ := List.prefix_or_prefix_of_prefix occurs (List.prefix_append w _)
  · exact within
  · have reaches : x <+: w ++ x ++ rest := (List.prefix_append_right_inj w).mp occurs
    have border : x <+: w ++ x :=
      List.prefix_of_prefix_length_le reaches (List.prefix_append _ rest) (by simp)
    rcases unbordered x ((List.mem_tails _ _).mpr (List.suffix_append w x)) border with rfl | whole
    · simp
    · exact absurd (List.append_left_eq_self.mp whole.symm) begun

section Splitting

variable {sep : String} {s : String.Slice} {start stop p : s.Pos} {before value after : String}

theorem not_matchesAt_of_clean (unbordered : Unbordered sep.toList)
    (clean : ¬ sep.toList <:+: value.toList) (ended : after = "" ∨ ∃ rest, after = sep ++ rest)
    (begins : start.Splits before (value ++ after)) (ends : stop.Splits (before ++ value) after)
    (from_start : start ≤ p) (before_stop : p < stop) : ¬ Model.MatchesAt sep p := by
  intro found
  obtain ⟨t, t', here⟩ := Model.ForwardStringSearcher.matchesAt_iff_splits.mp found
  obtain ⟨u, rfl, -⟩ := (begins.le_iff_exists_eq_append here).mp from_start
  obtain ⟨w, begun, cut, occurs⟩ := (here.lt_iff_exists_eq_append ends).mp before_stop
  obtain rfl : value = u ++ w := by
    rwa [String.append_assoc, String.append_right_inj] at cut
  rw [String.toList_append] at clean
  refine clean (List.IsInfix.trans ?_ (List.suffix_append u.toList w.toList).isInfix)
  have occurs' : sep.toList <+: w.toList ++ after.toList :=
    ⟨t'.toList, by simp only [← String.toList_append, occurs]⟩
  obtain rfl | ⟨rest, rfl⟩ := ended
  · simpa using occurs'.isInfix
  · rw [String.toList_append] at occurs'
    exact (unbordered.isPrefix (by simpa using begun) occurs').isInfix

theorem split_eq_of_clean [Model.StrictPatternModel sep] (unbordered : Unbordered sep.toList)
    (clean : ¬ sep.toList <:+: value.toList) (ended : after = "" ∨ ∃ rest, after = sep ++ rest)
    (begins : start.Splits before (value ++ after)) (ends : stop.Splits (before ++ value) after) :
    ∃ le, Model.split sep start start (Std.le_refl _) = Model.split sep start stop le ∧
      (s.slice start stop le).copy = value := by
  obtain ⟨le, piece⟩ := String.Slice.copy_slice_eq_iff_splits.mpr ⟨before, after, begins, ends⟩
  refine ⟨le, ?_, piece⟩
  exact Model.split_eq_of_not_matchesAt stop le fun p from_start before_stop =>
    not_matchesAt_of_clean unbordered clean ended begins ends from_start before_stop

-- By the values still ahead: no occurrence begins inside the first of them, so that it is the next
-- piece.
theorem split_of_splits [Model.StrictPatternModel sep] (unbordered : Unbordered sep.toList)
    (first : String) (rest : List String) (clean : ∀ v ∈ first :: rest, ¬ sep.toList <:+: v.toList)
    (begins : start.Splits before (sep.intercalate (first :: rest))) :
    (Model.split sep start start (Std.le_refl _)).map (String.Slice.copy ∘ (·.toSlice)) =
      first :: rest := by
  induction rest generalizing first start before with
  | nil =>
    rw [String.intercalate_singleton] at begins
    have ends : s.endPos.Splits (before ++ first) "" := by
      rw [← begins.eq_append]
      exact s.splits_endPos
    rw [← String.append_empty (s := first)] at begins
    obtain ⟨le, skipped, piece⟩ :=
      split_eq_of_clean unbordered (clean first List.mem_cons_self) (.inl rfl) begins ends
    rw [skipped, Model.split_endPos]
    simpa using piece
  | cons next rest ih =>
    rw [String.intercalate_cons_cons, String.append_assoc] at begins
    have ends := begins.splits_rotateRight
    have resumes := ends.splits_rotateRight
    obtain ⟨le, skipped, piece⟩ :=
      split_eq_of_clean unbordered (clean first List.mem_cons_self) (.inr ⟨_, rfl⟩) begins ends
    have found := Model.ForwardStringSearcher.isLongestMatchAt_iff_splits.mpr ⟨_, _, ends, resumes⟩
    rw [skipped, Model.split_eq_of_isLongestMatchAt found, List.map_cons,
      ih next (fun v inside => clean v (List.mem_cons_of_mem _ inside)) resumes]
    simpa using piece

theorem split_intercalate (some_sep : sep ≠ "") (unbordered : Unbordered sep.toList)
    {values : List String} (some_values : values ≠ [])
    (clean : ∀ v ∈ values, ¬ sep.toList <:+: v.toList) :
    ((sep.intercalate values).split sep).toList.map String.Slice.copy = values := by
  have := Model.ForwardStringSearcher.strictPatternModel some_sep
  have := Model.ForwardStringSearcher.lawfulToForwardSearcherModel some_sep
  obtain ⟨first, rest, rfl⟩ := List.exists_cons_of_ne_nil some_values
  rw [String.split_eq_split_toSlice, String.Slice.toList_split_eq_splitToSubslice,
    toList_splitToSubslice_eq_modelSplit, List.map_map]
  have begins : (sep.intercalate (first :: rest)).toSlice.startPos.Splits ""
      (sep.intercalate (first :: rest)) := by
    simp
  exact split_of_splits unbordered first rest clean begins

end Splitting

theorem join_spread_succ (i : Nat) (value : String) (rest : List String) :
    String.join (spread (i + 1) (value :: rest)) =
      separator ++ separator.intercalate (value :: rest) := by
  induction rest generalizing i value with
  | nil => simp [spread]
  | cons next rest ih =>
    have later := ih (i + 1) next
    rw [spread, if_pos (Nat.succ_pos i), String.join_append, later, String.intercalate_cons_cons]
    simp [String.append_assoc]

theorem join_spread (values : List String) :
    String.join (spread 0 values) = separator.intercalate values := by
  cases values with
  | nil => rfl
  | cons value rest =>
    cases rest with
    | nil => simp [spread]
    | cons next rest =>
      rw [spread, if_neg (Nat.lt_irrefl 0), String.join_append, join_spread_succ,
        String.intercalate_cons_cons, String.append_assoc]
      simp

namespace Chain

variable {c : Chain} {seq : Listing}

theorem Shows.pieces_eq (shows : c.Shows seq) :
    c.pieces = .ok (spread 0 (seq.map Prod.snd)) := by
  rw [Chain.pieces, shows.values]
  rfl

theorem Shows.display_eq (shows : c.Shows seq) :
    c.display = .ok (separator.intercalate (seq.map Prod.snd)) := by
  rw [Chain.display, shows.pieces_eq, ← join_spread]
  rfl

theorem Shows.format_plain (shows : c.Shows seq) (spec : FormatSpec) (plain : spec.style = .plain) :
    c.format spec = .ok (separator.intercalate (seq.map Prod.snd)) := by
  rw [Chain.format, formatHiding, plain]
  exact shows.display_eq

theorem Shows.format_quoted (shows : c.Shows seq) (hidden : Char → Bool) {spec : FormatSpec}
    (quoted : spec.style = .quoted) :
    c.formatHiding hidden spec =
      .ok ((if spec.alternate then Text.bracketedLines else Text.bracketed)
        ((seq.map Prod.snd).map (Text.Quoted.encode hidden))) := by
  cases lines : spec.alternate <;>
    simp [Chain.formatHiding, quoted, lines, debug, debugLines, shows.values, bind, Except.bind]

theorem display_can_be_split_back (id : ChainId) (policy : Policy) (actions : List Action) :
    ∃ c seq text, (Chain.empty id policy).run actions = .ok c ∧ c.Shows seq ∧
      (∀ spec, spec.style = .plain → c.format spec = .ok text) ∧
      text = separator.intercalate (seq.map Prod.snd) ∧
      (seq ≠ [] → (∀ v ∈ seq.map Prod.snd, ¬ separator.toList <:+: v.toList) →
        (text.split separator).toList.map String.Slice.copy = seq.map Prod.snd) := by
  obtain ⟨c, seq, ran, holds⟩ := run_holds id policy actions
  refine ⟨c, seq, _, ran, holds.shows, holds.shows.format_plain, rfl, fun some_values clean => ?_⟩
  exact split_intercalate (by decide) unbordered_separator (by simpa using some_values) clean

end Chain
end StringChain
