namespace SlotVM

/-- The characters from the front whose encodings fit into `room` bytes together. -/
def clampChars : List Char → Nat → List Char
  | [], _ => []
  | c :: rest, room =>
    if c.utf8Size ≤ room then c :: clampChars rest (room - c.utf8Size) else []

/-- The longest prefix of at most `limit` bytes. -/
def clamp (text : String) (limit : Nat) : String :=
  String.ofList (clampChars text.toList limit)

end SlotVM
