import SlotVM.Instruction
import SlotVM.Module.Reader
import SlotVM.Run

namespace SlotVM

mutual

def Const.load : Const → Run Value
  | .int n => return .int n
  | .float x => return .float x
  | .str s => Run.newText s
  | .code s => do Run.newCode (← s.load)

def Segment.load : Segment → Run CodeObject
  | ⟨name, argcount, names, attrs, consts, code⟩ => do
    return ⟨name, argcount.toNat, names, attrs, ← loadConsts consts, code⟩

def loadConsts : List Const → Run (List Value)
  | [] => return []
  | c :: rest => do return (← c.load) :: (← loadConsts rest)

end

namespace CodeObject

/-- The number of local variables that have a name. -/
def localCount (c : CodeObject) : Nat := c.names.length

def instructions (c : CodeObject) : Except Fault (List (Nat × Instruction)) :=
  Instruction.sweep 0 c.bytecode.toList

end CodeObject

end SlotVM
