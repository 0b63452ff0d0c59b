import SlotVM.Text.CaseTable

namespace SlotVM

/-- The shift that a list of runs gives for a code point. -/
def CaseShift.find? (shifts : List CaseShift) (n : Nat) : Option Int :=
  (shifts.find? fun s => s.first ≤ n && n ≤ s.last && (n - s.first) % s.step == 0).map (·.shift)

/-- A character mapped by tables, itself if they have nothing for it. -/
def mapCase (shifts : List CaseShift) (specials : List (Nat × List Nat)) (c : Char) : List Char :=
  match specials.lookup c.toNat with
  | some ns => ns.map Char.ofNat
  | none =>
    match CaseShift.find? shifts c.toNat with
    | some d => [Char.ofNat (c.toNat + d).toNat]
    | none => [c]

def upperChar (c : Char) : List Char :=
  if c.toNat < 128 then [c.toUpper] else mapCase CaseTable.upperShifts CaseTable.upperSpecials c

def lowerChar (c : Char) : List Char :=
  if c.toNat < 128 then [c.toLower] else mapCase CaseTable.lowerShifts CaseTable.lowerSpecials c

def inRanges (ranges : List (Nat × Nat)) (c : Char) : Bool :=
  ranges.any fun (first, last) => first ≤ c.toNat && c.toNat ≤ last

/-- The first character that does not fail to count is a cased one. -/
def startsCased (chars : List Char) : Bool :=
  match chars.dropWhile (inRanges CaseTable.caseIgnorable) with
  | c :: _ => inRanges CaseTable.cased c
  | [] => false

/-- The lower-case form of text, given what stands before it, the nearest character first. A capital
sigma at the end of a word becomes a final one. -/
def lowerChars (before : List Char) : List Char → List Char
  | [] => []
  | c :: rest =>
    let mapped :=
      if c == 'Σ' then
        if startsCased before && !startsCased rest then ['ς'] else ['σ']
      else lowerChar c
    mapped ++ lowerChars (c :: before) rest

def upperCase (text : String) : String := String.ofList (text.toList.flatMap upperChar)

def lowerCase (text : String) : String := String.ofList (lowerChars [] text.toList)

end SlotVM
