import SlotVM.Hierarchy

namespace SlotVM

namespace ClassSpec

/-- Fills a slot with a function of the library. -/
def withBuiltin (c : ClassSpec) (slot : Slot) (f : Builtin slot.signature) : ClassSpec :=
  c.withSlot slot (.builtin f)

/-- Fills the slots of several operators. -/
def withBinaryOps (c : ClassSpec) (ops : List BinaryOp) (f : BinaryOp → Builtin .binary) :
    ClassSpec :=
  ops.foldl (fun c op => c.withBuiltin (.binary op) (f op)) c

/-- Fills the slots of several signs. -/
def withUnaryOps (c : ClassSpec) (ops : List UnaryOp) (f : UnaryOp → Builtin .unary) : ClassSpec :=
  ops.foldl (fun c op => c.withBuiltin (.unary op) (f op)) c

/-- The root: identity, an address for a hash and a text, and truth. -/
def object : ClassSpec :=
  { name := "Object", init := some (.builtin .objectInit) : ClassSpec }
    |>.withBuiltin .eq .objectEq
    |>.withBuiltin .hash .objectHash
    |>.withBuiltin .str .objectStr
    |>.withBuiltin .nonzero .objectTruth

def int : ClassSpec :=
  { name := "Int" : ClassSpec }
    |>.withBuiltin .eq .intEq
    |>.withBuiltin .hash .intHash
    |>.withBuiltin .cmp .intCompare
    |>.withBuiltin .str .intStr
    |>.withBuiltin .nonzero .intTruth
    |>.withBuiltin .toInt .intToInt
    |>.withBuiltin .toFloat .intToFloat
    |>.withUnaryOps UnaryOp.all .intSign
    |>.withBinaryOps BinaryOp.all .intArith

/-- The class has no operators on bits, but it divides for an integer on the left. -/
def float : ClassSpec :=
  { name := "Float" : ClassSpec }
    |>.withBuiltin .eq .floatEq
    |>.withBuiltin .hash .floatHash
    |>.withBuiltin .cmp .floatCompare
    |>.withBuiltin .str .floatStr
    |>.withBuiltin .nonzero .floatTruth
    |>.withBuiltin .toInt .floatToInt
    |>.withBuiltin .toFloat .floatToFloat
    |>.withUnaryOps [.plus, .minus, .abs] .floatSign
    |>.withBinaryOps [.add, .sub, .mul, .div, .mod, .pow] .floatArith
    |>.withBuiltin (.reflected .mod) .floatReflectedMod

/-- Text is multiplied from either side. -/
def text : ClassSpec :=
  { name := "Str"
    layout := .text
    init := some (.builtin .textInit)
    methods := [⟨"upper", .builtin .textUpper⟩, ⟨"lower", .builtin .textLower⟩] : ClassSpec }
    |>.withBuiltin .eq .textEq
    |>.withBuiltin .hash .textHash
    |>.withBuiltin .cmp .textCompare
    |>.withBuiltin .str .textStr
    |>.withBuiltin .nonzero .textTruth
    |>.withBuiltin (.binary .add) .textConcat
    |>.withBuiltin (.binary .mul) .textRepeat
    |>.withBuiltin (.reflected .mul) .textRepeat
    |>.withBuiltin .len .textLen
    |>.withBuiltin .get .textGet
    |>.withBuiltin .contains .textContains

def method : ClassSpec :=
  { name := "Method", layout := .method : ClassSpec }
    |>.withBuiltin .call .methodCall
    |>.withBuiltin .str .methodStr

/-- Code is called by the machine, so the class has no function for calls. -/
def code : ClassSpec :=
  { name := "Code", layout := .code : ClassSpec } |>.withBuiltin .str .codeStr

def exception : ClassSpec :=
  { name := "Exception", layout := .exception, init := some (.builtin .exceptionInit) : ClassSpec }
    |>.withBuiltin .str .exceptionStr

def exceptionNamed (name : String) : ClassSpec :=
  { name, base := some .exception, init := some (.builtin .exceptionInit) }

def builtins : List ClassSpec :=
  [object, int, float, text, method, code, exception,
    exceptionNamed "IndexException", exceptionNamed "TypeException",
    exceptionNamed "AttributeException", exceptionNamed "NameException",
    exceptionNamed "DivisionByZeroException"]

end ClassSpec

namespace Hierarchy

/-- The table with classes registered in turn, less those that cannot be. -/
def registerAll (h : Hierarchy) (specs : List ClassSpec) : Hierarchy :=
  specs.foldl (fun h spec =>
    match h.register spec with
    | .ok (_, h) => h
    | .error _ => h) h

/-- The table of the built-in classes. -/
def builtin : Hierarchy := empty.registerAll ClassSpec.builtins

end Hierarchy

end SlotVM
