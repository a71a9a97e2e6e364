namespace StringChain.Text

def octets : List Char → Nat
  | [] => 0
  | c :: cs => c.utf8Size + octets cs

def dropOctets? (n : Nat) : List Char → Option (List Char)
  | [] => if n = 0 then some [] else none
  | c :: cs =>
    if n = 0 then some (c :: cs)
    else if c.utf8Size ≤ n then dropOctets? (n - c.utf8Size) cs
    else none

def takeOctets? (n : Nat) : List Char → Option (List Char)
  | [] => if n = 0 then some [] else none
  | c :: cs =>
    if n = 0 then some []
    else if c.utf8Size ≤ n then (takeOctets? (n - c.utf8Size) cs).map (c :: ·)
    else none

def cutOctets? (start n : Nat) (cs : List Char) : Option String := do
  some (String.ofList (← takeOctets? n (← dropOctets? start cs)))

end StringChain.Text
