import Mathlib.Logic.Function.Basic
import StringChain.Proofs.Display
import StringChain.Proofs.Equality

namespace StringChain

def SelfDelimiting {α : Type} (code : α → List Char) : Prop :=
  ∀ a b x y, code a ++ x = code b ++ y → a = b ∧ x = y

namespace SelfDelimiting

variable {α β : Type} {code : α → List Char}

theorem comp (delimits : SelfDelimiting code) {g : β → α} (injective : Function.Injective g) :
    SelfDelimiting fun b => code (g b) := by
  intro a b x y same
  obtain ⟨arguments, rest⟩ := delimits (g a) (g b) x y same
  exact ⟨injective arguments, rest⟩

theorem opened (delimits : SelfDelimiting code) (opening : List Char) :
    SelfDelimiting fun a => opening ++ code a := by
  intro a b x y same
  simp only [List.append_assoc, List.append_cancel_left_eq] at same
  exact delimits a b x y same

theorem closed (delimits : SelfDelimiting code) (closing : List Char) :
    SelfDelimiting fun a => code a ++ closing := by
  intro a b x y same
  simp only [List.append_assoc] at same
  obtain ⟨rfl, rest⟩ := delimits a b _ _ same
  exact ⟨rfl, List.append_cancel_left rest⟩

theorem flatMap_cut (delimits : SelfDelimiting code) {stop : Char}
    (clear : ∀ a x y, code a ++ x ≠ stop :: y) {s t : List α} {x y : List Char}
    (same : s.flatMap code ++ stop :: x = t.flatMap code ++ stop :: y) : s = t ∧ x = y := by
  induction s generalizing t with
  | nil =>
    cases t with
    | nil => exact ⟨rfl, (List.cons.inj same).2⟩
    | cons b t =>
      rw [List.flatMap_cons, List.append_assoc] at same
      exact absurd same.symm (clear b _ x)
  | cons a s ih =>
    rw [List.flatMap_cons, List.append_assoc] at same
    cases t with
    | nil => exact absurd same (clear a _ y)
    | cons b t =>
      rw [List.flatMap_cons, List.append_assoc] at same
      obtain ⟨rfl, later⟩ := delimits a b _ _ same
      obtain ⟨rfl, rest⟩ := ih later
      exact ⟨rfl, rest⟩

theorem flatMap (delimits : SelfDelimiting code) {stop : Char}
    (clear : ∀ a x y, code a ++ x ≠ stop :: y) :
    SelfDelimiting fun s : List α => s.flatMap code ++ [stop] := by
  intro s t x y same
  simp only [List.append_assoc, List.singleton_append] at same
  exact delimits.flatMap_cut clear same

end SelfDelimiting

namespace Text.Quoted

def digitValue (d : Char) : Nat := if d.toNat < 58 then d.toNat - 48 else d.toNat - 87

def hexValue (digits : List Char) : Nat := digits.foldl (fun n d => 16 * n + digitValue d) 0

theorem digitValue_hexDigit : ∀ n < 16, digitValue (hexDigit n) = n := by decide

theorem hexValue_hexDigits (n : Nat) : hexValue (hexDigits n) = n := by
  induction n using hexDigits.induct with
  | case1 n small =>
    rw [hexDigits, if_pos small]
    simp [hexValue, digitValue_hexDigit n small]
  | case2 n large ih =>
    have last := digitValue_hexDigit (n % 16) (Nat.mod_lt n (by decide))
    rw [hexDigits, if_neg large, hexValue, List.foldl_append]
    unfold hexValue at ih
    simp only [ih, List.foldl_cons, List.foldl_nil, last]
    omega

theorem mem_hexDigits {n : Nat} {d : Char} (member : d ∈ hexDigits n) :
    ∃ k < 16, d = hexDigit k := by
  induction n using hexDigits.induct with
  | case1 n small =>
    rw [hexDigits, if_pos small, List.mem_singleton] at member
    exact ⟨n, small, member⟩
  | case2 n large ih =>
    rw [hexDigits, if_neg large, List.mem_append, List.mem_singleton] at member
    rcases member with earlier | last
    · exact ih earlier
    · exact ⟨n % 16, Nat.mod_lt n (by decide), last⟩

theorem hexDigit_ne_brace : ∀ k < 16, hexDigit k ≠ '\x7d' := by decide

theorem hexDigit_ne_newline : ∀ k < 16, hexDigit k ≠ '\n' := by decide

theorem takeWhile_before {stop : Char} {u : List Char} (clear : stop ∉ u) (x : List Char) :
    (u ++ stop :: x).takeWhile (· != stop) = u := by
  have passes : ∀ c ∈ u, (c != stop) = true := fun c inside =>
    bne_iff_ne.mpr fun same => clear (same ▸ inside)
  rw [List.takeWhile_append_of_pos passes, List.takeWhile_cons_of_neg (by simp), List.append_nil]

theorem selfDelimiting_hexDigits : SelfDelimiting fun n => hexDigits n ++ ['\x7d'] := by
  intro m n x y same
  have clear : ∀ n, '\x7d' ∉ hexDigits n := by
    intro n member
    obtain ⟨k, small, brace⟩ := mem_hexDigits member
    exact hexDigit_ne_brace k small brace.symm
  simp only [List.append_assoc, List.singleton_append] at same
  have digits : hexDigits m = hexDigits n := by
    rw [← takeWhile_before (clear m) x, same, takeWhile_before (clear n)]
  obtain rfl : m = n := by
    rw [← hexValue_hexDigits m, digits, hexValue_hexDigits]
  exact ⟨rfl, (List.cons.inj (List.append_cancel_left same)).2⟩

def meaning? : Char → Option Char
  | '0' => some '\x00'
  | 't' => some '\t'
  | 'r' => some '\r'
  | 'n' => some '\n'
  | '"' => some '"'
  | '\\' => some '\\'
  | _ => none

inductive Spelling : Char → List Char → Prop where
  | itself {c : Char} : c ≠ '"' → c ≠ '\\' → c ≠ '\n' → Spelling c [c]
  | letter {c e : Char} : meaning? e = some c → Spelling c ['\\', e]
  | number {c : Char} : Spelling c (['\\', 'u', '\x7b'] ++ (hexDigits c.toNat ++ ['\x7d']))

theorem spelling_encodeChar (hidden : Char → Bool) (c : Char) :
    Spelling c (encodeChar hidden c) := by
  unfold encodeChar
  split
  · exact .letter rfl
  · exact .letter rfl
  · exact .letter rfl
  · exact .letter rfl
  · exact .letter rfl
  · exact .letter rfl
  · next newline quote backslash =>
    split
    · rw [List.append_assoc]
      exact .number
    · exact .itself quote backslash newline

namespace Spelling

variable {c d : Char} {u v x y : List Char}

theorem cancel (spelling : Spelling c u) (spelling' : Spelling d v) (same : u ++ x = v ++ y) :
    c = d ∧ x = y := by
  cases spelling with
  | itself _ plain _ =>
    cases spelling' with
    | itself _ _ _ => exact List.cons.inj same
    | letter _ => exact absurd (List.cons.inj same).1 plain
    | number => exact absurd (List.cons.inj same).1 plain
  | letter means =>
    cases spelling' with
    | itself _ plain _ => exact absurd (List.cons.inj same).1.symm plain
    | letter means' =>
      obtain ⟨-, after⟩ := List.cons.inj same
      obtain ⟨rfl, rest⟩ := List.cons.inj after
      exact ⟨Option.some.inj (means.symm.trans means'), rest⟩
    | number =>
      obtain ⟨-, after⟩ := List.cons.inj same
      obtain ⟨rfl, -⟩ := List.cons.inj after
      cases means
  | number =>
    cases spelling' with
    | itself _ plain _ => exact absurd (List.cons.inj same).1.symm plain
    | letter means =>
      obtain ⟨-, after⟩ := List.cons.inj same
      obtain ⟨rfl, -⟩ := List.cons.inj after
      cases means
    | number =>
      obtain ⟨code, rest⟩ := selfDelimiting_hexDigits c.toNat d.toNat x y (by simpa using same)
      exact ⟨Char.toNat_inj.mp code, rest⟩

theorem ne_quote (spelling : Spelling c u) : u ++ x ≠ '"' :: y := by
  intro same
  cases spelling with
  | itself plain _ _ => exact plain (List.cons.inj same).1
  | letter _ => cases (List.cons.inj same).1
  | number => cases (List.cons.inj same).1

theorem unbroken (spelling : Spelling c u) : '\n' ∉ u := by
  intro member
  cases spelling with
  | itself _ _ plain => exact plain (List.mem_singleton.mp member).symm
  | letter means =>
    simp only [List.mem_cons, List.not_mem_nil, or_false] at member
    rcases member with backslash | rfl
    · cases backslash
    · cases means
  | number =>
    have inside : '\n' ∈ hexDigits c.toNat := by simpa using member
    obtain ⟨k, small, newline⟩ := mem_hexDigits inside
    exact hexDigit_ne_newline k small newline.symm

end Spelling

theorem toList_encode (hidden : Char → Bool) (s : String) :
    (encode hidden s).toList = ['"'] ++ (s.toList.flatMap (encodeChar hidden) ++ ['"']) := by
  simp [encode]

theorem selfDelimiting_encode (hidden : Char → Bool) :
    SelfDelimiting fun s => (encode hidden s).toList := by
  have characters : SelfDelimiting (encodeChar hidden) := fun c d x y same =>
    (spelling_encodeChar hidden c).cancel (spelling_encodeChar hidden d) same
  have body := characters.flatMap fun c x y => (spelling_encodeChar hidden c).ne_quote
  have texts : Function.Injective String.toList := fun _ _ => String.toList_injective
  simpa only [toList_encode] using (body.comp texts).opened ['"']

theorem unbroken_encode (hidden : Char → Bool) (s : String) : '\n' ∉ (encode hidden s).toList := by
  intro member
  have inside : '\n' ∈ s.toList.flatMap (encodeChar hidden) := by
    simpa [toList_encode] using member
  obtain ⟨c, -, broken⟩ := List.mem_flatMap.mp inside
  exact (spelling_encodeChar hidden c).unbroken broken

end Text.Quoted

namespace Text

theorem toList_bracketed_nil : (bracketed []).toList = ['[', ']'] := by decide

theorem toList_bracketedLines_nil : (bracketedLines []).toList = ['[', ']'] := by decide

theorem toList_bracketed_cons (entry : String) (rest : List String) :
    (bracketed (entry :: rest)).toList =
      '[' :: (entry.toList ++ (rest.flatMap (fun e => [',', ' '] ++ e.toList) ++ [']'])) := by
  have joined : (", ".intercalate (entry :: rest)).toList =
      entry.toList ++ rest.flatMap fun e => [',', ' '] ++ e.toList := by
    induction rest generalizing entry with
    | nil => simp
    | cons next rest ih => simp [String.intercalate_cons_cons, ih]
  simp [bracketed, joined]

theorem toList_indented_entry {entry : String} (unbroken : '\n' ∉ entry.toList) :
    (indented (entry ++ ",\n")).toList = [' ', ' ', ' ', ' '] ++ entry.toList ++ [',', '\n'] := by
  have line : (entry ++ ",\n").toList = entry.toList ++ [',', '\n'] := by simp
  rw [indented, String.toList_ofList, line, indent_of_begins (by simp), indent_within_line unbroken,
    List.append_assoc]
  rfl

theorem toList_bracketedLines_cons (entry : String) (rest : List String) :
    (bracketedLines (entry :: rest)).toList =
      '[' :: '\n' ::
        ((entry :: rest).flatMap (fun e => (indented (e ++ ",\n")).toList) ++ [']']) := by
  simp [bracketedLines, List.flatMap_map]

variable {quote : String → String}

theorem eq_of_bracketed (delimits : SelfDelimiting fun v => (quote v).toList)
    (opens : ∀ v x y, (quote v).toList ++ x ≠ ']' :: y) {s t : List String}
    (same : bracketed (s.map quote) = bracketed (t.map quote)) : s = t := by
  have entries := delimits.opened [',', ' ']
  have clear : ∀ v x y, [',', ' '] ++ (quote v).toList ++ x ≠ ']' :: y := by simp
  have texts := congrArg String.toList same
  cases s with
  | nil =>
    cases t with
    | nil => rfl
    | cons w t =>
      rw [List.map_nil, toList_bracketed_nil, List.map_cons, toList_bracketed_cons] at texts
      exact absurd (List.cons.inj texts).2.symm (opens w _ [])
  | cons v s =>
    rw [List.map_cons, toList_bracketed_cons] at texts
    cases t with
    | nil =>
      rw [List.map_nil, toList_bracketed_nil] at texts
      exact absurd (List.cons.inj texts).2 (opens v _ [])
    | cons w t =>
      rw [List.map_cons, toList_bracketed_cons, List.flatMap_map, List.flatMap_map] at texts
      obtain ⟨rfl, others⟩ := delimits v w _ _ (List.cons.inj texts).2
      obtain ⟨rfl, -⟩ := entries.flatMap_cut clear others
      rfl

theorem eq_of_bracketedLines (delimits : SelfDelimiting fun v => (quote v).toList)
    (unbroken : ∀ v, '\n' ∉ (quote v).toList) {s t : List String}
    (same : bracketedLines (s.map quote) = bracketedLines (t.map quote)) : s = t := by
  have lines : (fun v => (indented (quote v ++ ",\n")).toList) =
      fun v => [' ', ' ', ' ', ' '] ++ (quote v).toList ++ [',', '\n'] :=
    funext fun v => toList_indented_entry (unbroken v)
  have entries : SelfDelimiting fun v => (indented (quote v ++ ",\n")).toList :=
    lines ▸ (delimits.opened [' ', ' ', ' ', ' ']).closed [',', '\n']
  have clear : ∀ v x y, (indented (quote v ++ ",\n")).toList ++ x ≠ ']' :: y := by
    intro v x y
    rw [congrFun lines v]
    simp
  have texts := congrArg String.toList same
  cases s with
  | nil =>
    cases t with
    | nil => rfl
    | cons w t =>
      rw [List.map_nil, toList_bracketedLines_nil, List.map_cons,
        toList_bracketedLines_cons] at texts
      cases (List.cons.inj (List.cons.inj texts).2).1
  | cons v s =>
    rw [List.map_cons, toList_bracketedLines_cons] at texts
    cases t with
    | nil =>
      rw [List.map_nil, toList_bracketedLines_nil] at texts
      cases (List.cons.inj (List.cons.inj texts).2).1
    | cons w t =>
      rw [List.map_cons, toList_bracketedLines_cons, ← List.map_cons, ← List.map_cons,
        List.flatMap_map, List.flatMap_map] at texts
      exact (entries.flatMap_cut clear (List.cons.inj (List.cons.inj texts).2).2).1

end Text

namespace Chain

variable {a b : Chain} {s t : Listing}

theorem quotation_injective (hidden : Char → Bool) (lines : Bool) :
    Function.Injective fun values : List String =>
      (if lines then Text.bracketedLines else Text.bracketed)
        (values.map (Text.Quoted.encode hidden)) := by
  have delimits := Text.Quoted.selfDelimiting_encode hidden
  intro s t same
  cases lines with
  | true => exact Text.eq_of_bracketedLines delimits (Text.Quoted.unbroken_encode hidden) same
  | false =>
    refine Text.eq_of_bracketed delimits (fun v x y => ?_) same
    rw [Text.Quoted.toList_encode]
    simp

def Discerns (a b : Chain) (hidden : Char → Bool) (spec : FormatSpec) : Prop :=
  ∃ text text', a.formatHiding hidden spec = .ok text ∧ b.formatHiding hidden spec = .ok text' ∧
    (text = text' ↔ a.sameValues b = .ok true)

theorem Holds.discerns (holds : a.Holds s) (holds' : b.Holds t) (hidden : Char → Bool)
    {spec : FormatSpec} (quoted : spec.style = .quoted) : a.Discerns b hidden spec := by
  refine ⟨_, _, holds.shows.format_quoted hidden quoted,
    holds'.shows.format_quoted hidden quoted, ?_⟩
  rw [holds.shows.sameValues_iff holds'.shows]
  exact (quotation_injective hidden spec.alternate).eq_iff

theorem quoted_text_identifies_values (id id' : ChainId) (policy policy' : Policy)
    (actions actions' : List Action) :
    ∃ a b, (Chain.empty id policy).run actions = .ok a ∧
      (Chain.empty id' policy').run actions' = .ok b ∧
      ∀ spec : FormatSpec,
        (∃ text text', a.format { spec with style := .quoted } = .ok text ∧
          b.format { spec with style := .quoted } = .ok text' ∧
          (text = text' ↔ a.sameValues b = .ok true)) ∧
        ∀ hidden, a.Discerns b hidden { spec with style := .quoted } := by
  obtain ⟨a, s, ran, holds⟩ := run_holds id policy actions
  obtain ⟨b, t, ran', holds'⟩ := run_holds id' policy' actions'
  have discerns (hidden : Char → Bool) (spec : FormatSpec) :
      a.Discerns b hidden { spec with style := .quoted } := holds.discerns holds' hidden rfl
  exact ⟨a, b, ran, ran', fun spec => ⟨discerns Text.isHidden spec, (discerns · spec)⟩⟩

end Chain
end StringChain
