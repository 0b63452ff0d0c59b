import SlotVM.Bytes
import SlotVM.Module.Segment
import SlotVM.Text.Utf8

namespace SlotVM

namespace Marker

/-- The signature of a module file. -/
def signature : List UInt8 := [0x1b, 0x4b, 0x45, 0x53]

def symbolsBegin : UInt8 := 0x10
def symbolsEnd : UInt8 := 0x11
def constsBegin : UInt8 := 0x20
def int : UInt8 := 0x21
def float : UInt8 := 0x22
def str : UInt8 := 0x23
def code : UInt8 := 0x24
def constsEnd : UInt8 := 0x25

end Marker

/-- A text after its length in bytes. -/
def writeText (s : String) : List UInt8 :=
  let bytes := encodeText s
  littleEndian 2 bytes.length ++ bytes

/-- A table of names or attributes. -/
def writeSymbols (symbols : List String) : List UInt8 :=
  Marker.symbolsBegin :: littleEndian 2 symbols.length ++ symbols.flatMap writeText ++
    [Marker.symbolsEnd]

mutual

def Const.write : Const → List UInt8
  | .int n => Marker.int :: littleEndian 8 n.toUInt64.toNat
  | .float x => Marker.float :: littleEndian 8 x.bits.toNat
  | .str s => Marker.str :: writeText s
  | .code s => Marker.code :: writeText s.name ++ s.write

/-- A segment without its name, which stands before it where it is a constant. -/
def Segment.write : Segment → List UInt8
  | ⟨_, argcount, names, attrs, consts, code⟩ =>
    argcount :: writeSymbols names ++ writeSymbols attrs ++
      (Marker.constsBegin :: littleEndian 2 consts.length ++ writeConsts consts ++
        [Marker.constsEnd]) ++
      littleEndian 4 code.size ++ code.toList

def writeConsts : List Const → List UInt8
  | [] => []
  | c :: rest => c.write ++ writeConsts rest

end

/-- The bytes of a module file. -/
def Segment.writeModule (s : Segment) : List UInt8 := Marker.signature ++ s.write

end SlotVM
