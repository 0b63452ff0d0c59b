import SlotVM.Instruction
import SlotVM.Module.Segment

namespace SlotVM

namespace Segment

/-- A segment without entries and code. -/
def new (name : String) (argcount : UInt8) : Segment := ⟨name, argcount, [], [], [], #[]⟩

/-- The outermost segment of a module, without entries and code. -/
def newModule : Segment := new moduleName 0

/-- Adds a name, also one that is there already. -/
def pushName (s : Segment) (name : String) : UInt32 × Segment :=
  (UInt32.ofNat s.names.length, { s with names := s.names ++ [name] })

/-- The place of a name, which is added if it is not there. -/
def internName (s : Segment) (name : String) : UInt32 × Segment :=
  match s.names.idxOf? name with
  | some i => (UInt32.ofNat i, s)
  | none => s.pushName name

/-- The place of an attribute, which is added if it is not there. -/
def internAttr (s : Segment) (attr : String) : UInt16 × Segment :=
  match s.attrs.idxOf? attr with
  | some i => (UInt16.ofNat i, s)
  | none => (UInt16.ofNat s.attrs.length, { s with attrs := s.attrs ++ [attr] })

/-- Adds a constant. Its place is given with eight bits, those of an operand. -/
def addConst (s : Segment) (c : Const) : UInt8 × Segment :=
  (UInt8.ofNat s.consts.length, { s with consts := s.consts ++ [c] })

/-- The position after the code so far. -/
def here (s : Segment) : Nat := s.code.size

/-- Writes an instruction, at the position that is given. -/
def emit (s : Segment) (i : Instruction) : Nat × Segment :=
  (s.here, { s with code := s.code ++ i.encode })

/-- Writes an instruction of one operand byte that is aimed later. -/
def emitForward (s : Segment) (make : UInt8 → Instruction) : Nat × Segment := s.emit (make 0)

/-- The distance from the end of an instruction of two bytes, if an operand byte can hold it. -/
def offset? (before after : Nat) : Option UInt8 :=
  if before ≤ after ∧ after - before < 256 then some (UInt8.ofNat (after - before)) else none

/-- Aims the jump that was written at a position at the end of the code. -/
def patchForward (s : Segment) (position : Nat) : Except Fault Segment :=
  match offset? (position + 2) s.here with
  | some offset => .ok { s with code := s.code.setIfInBounds (position + 1) offset }
  | none => .error (.forwardJumpTooFar position)

/-- Writes a jump back to a position. -/
def emitBackward (s : Segment) (make : UInt8 → Instruction) (target : Nat) :
    Except Fault (Nat × Segment) :=
  match offset? target (s.here + 2) with
  | some offset => .ok (s.emit (make offset))
  | none => .error (.backwardJumpTooFar target)

end Segment

end SlotVM
