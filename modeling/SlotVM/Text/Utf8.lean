import SlotVM.Bytes

namespace SlotVM

/-- The bytes of text. -/
def encodeText (text : String) : List UInt8 := text.toList.flatMap String.utf8EncodeChar

/-- The number of bytes that a first byte announces. -/
def announcedWidth (b : UInt8) : Nat :=
  if b < 0x80 then 1 else if b < 0xe0 then 2 else if b < 0xf0 then 3 else 4

/-- The code point that a first byte and those after it spell. -/
def spelledCode (b : UInt8) (rest : List UInt8) : Nat :=
  rest.foldl (fun n r => n * 64 + r.toNat % 64)
    (if rest.isEmpty then b.toNat else b.toNat % 2 ^ (6 - rest.length))

/-- The character at the front of the bytes. -/
def firstChar? (b : UInt8) (rest : List UInt8) : Option Char :=
  let others := rest.take (announcedWidth b - 1)
  let c := Char.ofNat (spelledCode b others)
  if String.utf8EncodeChar c = b :: others then some c else none

/-- The characters that the bytes encode, or the first byte of what is no character. -/
def decodeChars : List UInt8 → Except UInt8 (List Char)
  | [] => .ok []
  | b :: rest =>
    match firstChar? b rest with
    | none => .error b
    | some c => (decodeChars (rest.drop (announcedWidth b - 1))).map (c :: ·)
termination_by bytes => bytes.length
decreasing_by simp only [List.length_drop, List.length_cons]; omega

def decodeText (bytes : List UInt8) : Except UInt8 String := (decodeChars bytes).map String.ofList

end SlotVM
