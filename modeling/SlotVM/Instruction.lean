import SlotVM.Bytes
import SlotVM.Double.Decimal
import SlotVM.Error
import SlotVM.Operator

namespace SlotVM

/-- The arithmetic operators that have an instruction. -/
inductive Arithmetic where
  | add
  | sub
  | mul
  | div
  | mod
  | pow
deriving DecidableEq

def Arithmetic.op : Arithmetic → BinaryOp
  | add => .add
  | sub => .sub
  | mul => .mul
  | div => .div
  | mod => .mod
  | pow => .pow

/-- The signs that have an instruction. -/
inductive Sign where
  | plus
  | minus
deriving DecidableEq

def Sign.op : Sign → UnaryOp
  | plus => .plus
  | minus => .minus

/-- Where a jump goes, counted from the end of its instruction. -/
inductive Direction where
  | forward
  | backward
deriving DecidableEq

/-- When a jump is taken; the conditional ones test the top of the stack. -/
inductive Guard where
  | always
  | ifTrue
  | ifFalse
deriving DecidableEq

inductive Opcode where
  | nop
  | loadInt
  | loadFloat
  | loadConst
  | arith (a : Arithmetic)
  | sign (s : Sign)
  | store
  | load
  | print
  | jump (dir : Direction) (guard : Guard)
  | call
  | ret
deriving DecidableEq

namespace Opcode

/-- All opcodes in the order of their bytes. -/
def all : List Opcode :=
  [nop, loadInt, loadFloat, loadConst,
    arith .add, arith .sub, arith .mul, arith .div, arith .mod, arith .pow,
    sign .plus, sign .minus, store, load, print,
    jump .forward .always, jump .backward .always,
    jump .forward .ifTrue, jump .forward .ifFalse,
    jump .backward .ifTrue, jump .backward .ifFalse,
    call, ret]

/-- The byte of an opcode; the bytes run on from the first one without a gap. -/
def byte (op : Opcode) : UInt8 := 0x30 + UInt8.ofNat (all.idxOf op)

def ofByte? (b : UInt8) : Option Opcode := if b < 0x30 then none else all[(b - 0x30).toNat]?

/-- The number of operand bytes. -/
def width : Opcode → Nat
  | loadInt | store | load => 4
  | loadFloat => 8
  | loadConst | jump .. | call => 1
  | _ => 0

def mnemonic : Opcode → String
  | nop => "NOP"
  | loadInt => "ILOAD"
  | loadFloat => "FLOAD"
  | loadConst => "LOAD_CONST"
  | arith .add => "ADD"
  | arith .sub => "SUB"
  | arith .mul => "MUL"
  | arith .div => "DIV"
  | arith .mod => "MOD"
  | arith .pow => "POW"
  | sign .plus => "UPLUS"
  | sign .minus => "UMIN"
  | store => "STORE"
  | load => "LOAD"
  | print => "PRINT"
  | jump .forward .always => "JMP"
  | jump .backward .always => "JMP_BACK"
  | jump .forward .ifTrue => "JMP_IF_TRUE"
  | jump .forward .ifFalse => "JMP_IF_FALSE"
  | jump .backward .ifTrue => "JMP_BACK_IF_TRUE"
  | jump .backward .ifFalse => "JMP_BACK_IF_FALSE"
  | call => "CALL"
  | ret => "RETURN"

end Opcode

/-- An opcode with its operand. -/
inductive Instruction where
  | nop
  | loadInt (n : Int32)
  | loadFloat (x : Double)
  | loadConst (index : UInt8)
  | arith (a : Arithmetic)
  | sign (s : Sign)
  | store (slot : UInt32)
  | load (slot : UInt32)
  | print
  | jump (dir : Direction) (guard : Guard) (offset : UInt8)
  | call (argc : UInt8)
  | ret
deriving DecidableEq

namespace Instruction

def opcode : Instruction → Opcode
  | nop => .nop
  | loadInt _ => .loadInt
  | loadFloat _ => .loadFloat
  | loadConst _ => .loadConst
  | arith a => .arith a
  | sign s => .sign s
  | store _ => .store
  | load _ => .load
  | print => .print
  | jump dir guard _ => .jump dir guard
  | call _ => .call
  | ret => .ret

/-- The operand as a number. -/
def operand : Instruction → Nat
  | loadInt n => n.toUInt32.toNat
  | loadFloat x => x.bits.toNat
  | loadConst i => i.toNat
  | store slot | load slot => slot.toNat
  | jump _ _ offset => offset.toNat
  | call argc => argc.toNat
  | _ => 0

def ofOperand (operand : Nat) : Opcode → Instruction
  | .nop => nop
  | .loadInt => loadInt (UInt32.ofNat operand).toInt32
  | .loadFloat => loadFloat ⟨UInt64.ofNat operand⟩
  | .loadConst => loadConst (UInt8.ofNat operand)
  | .arith a => arith a
  | .sign s => sign s
  | .store => store (UInt32.ofNat operand)
  | .load => load (UInt32.ofNat operand)
  | .print => print
  | .jump dir guard => jump dir guard (UInt8.ofNat operand)
  | .call => call (UInt8.ofNat operand)
  | .ret => ret

/-- The number of bytes of the encoding. -/
def size (i : Instruction) : Nat := 1 + i.opcode.width

def encode (i : Instruction) : List UInt8 :=
  i.opcode.byte :: littleEndian i.opcode.width i.operand

/-- The greatest number of bytes of an encoding. -/
def maxSize : Nat := 9

/-- What code is being read for, as errors name it. -/
def context : String := "eval_frame"

def ofBytes : List UInt8 → Except Fault Instruction
  | [] => .error (.unexpectedEnd context)
  | b :: rest =>
    match Opcode.ofByte? b with
    | none => .error (.unexpectedByte context b)
    | some op =>
      let bytes := rest.take op.width
      if bytes.length < op.width then .error (.unexpectedEnd context)
      else .ok (ofOperand (ofLittleEndian bytes) op)

def decode (code : Array UInt8) (pos : Nat) : Except Fault (Instruction × Nat) :=
  (ofBytes (code.extract pos (pos + maxSize)).toList).map fun i => (i, pos + i.size)

/-- The whole of the bytes as instructions with their positions, the first one at `pos`. -/
def sweep (pos : Nat) (bytes : List UInt8) : Except Fault (List (Nat × Instruction)) :=
  match bytes with
  | [] => .ok []
  | b :: rest =>
    match ofBytes (b :: rest) with
    | .error fault => .error fault
    | .ok i => (sweep (pos + i.size) (rest.drop i.opcode.width)).map ((pos, i) :: ·)
termination_by bytes.length
decreasing_by simp only [List.length_drop, List.length_cons]; omega

/-- The text of the operand, with a blank before it. -/
def operandText : Instruction → String
  | loadInt n => " " ++ toString n.toInt
  | loadFloat x => " " ++ x.toShortest
  | store slot | load slot => " " ++ toString slot.toNat
  | loadConst i => " " ++ toString i.toNat
  | jump _ _ offset => " " ++ toString offset.toNat
  | call argc => " " ++ toString argc.toNat
  | _ => ""

/-- The mnemonic and the operand. -/
def text (i : Instruction) : String := i.opcode.mnemonic ++ i.operandText

end Instruction

end SlotVM
