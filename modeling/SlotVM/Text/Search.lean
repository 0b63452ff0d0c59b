namespace SlotVM

/-- The characters occur one after the other somewhere in the text. -/
def occursIn (part : List Char) : List Char → Bool
  | [] => part.isEmpty
  | c :: rest => part.isPrefixOf (c :: rest) || occursIn part rest

/-- The place that an index means in a sequence; a negative one counts from the end. -/
def place? (index : Int) (length : Nat) : Option Nat :=
  let pos := if index < 0 then index + length else index
  if 0 ≤ pos ∧ pos < length then some pos.toNat else none

/-- So many copies of a text. -/
def repeatText (text : String) (count : Nat) : String :=
  if text.isEmpty then "" else Nat.repeat (· ++ text) count ""

end SlotVM
