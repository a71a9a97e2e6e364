namespace StringChain.Text

def indent (begins : Bool) : List Char → List Char
  | [] => []
  | c :: rest => (if begins then [' ', ' ', ' ', ' '] else []) ++ c :: indent (c == '\n') rest

def indented (text : String) : String := String.ofList (indent true text.toList)

def bracketed (entries : List String) : String := "[" ++ ", ".intercalate entries ++ "]"

def bracketedLines : List String → String
  | [] => "[]"
  | entries => "[\n" ++ String.join (entries.map fun e => indented (e ++ ",\n")) ++ "]"

theorem indent_within_line {line : List Char} (unbroken : '\n' ∉ line) (rest : List Char) :
    indent false (line ++ rest) = line ++ indent false rest := by
  induction line with
  | nil => rfl
  | cons c line ih =>
    obtain ⟨other, unbroken⟩ := not_or.mp (mt List.mem_cons.mpr unbroken)
    have within : (c == '\n') = false := beq_eq_false_iff_ne.mpr (Ne.symm other)
    simp [indent, within, ih unbroken]

theorem indent_of_begins {text : List Char} (some_text : text ≠ []) :
    indent true text = [' ', ' ', ' ', ' '] ++ indent false text := by
  cases text with
  | nil => exact absurd rfl some_text
  | cons c rest => simp [indent]

end StringChain.Text
