import SlotVM.Value

namespace SlotVM

/-- A typed field. -/
inductive Field where
  | char (c : UInt8)
  | byte (n : Int8)
  | short (n : Int16)
  | int (n : Int32)
  | long (n : Int64)
  | ubyte (n : UInt8)
  | ushort (n : UInt16)
  | uint (n : UInt32)
  | ulong (n : UInt64)
  | size (n : UInt64)
  | bool (b : Bool)
  | float (x : Single)
  | double (x : Double)
  | str (s : Option String)
  | object (o : Option Object)

instance : Inhabited Field := ⟨.long 0⟩

/-- What the heap holds for one object. -/
inductive Cell where
  /-- Nothing about the object can change. -/
  | fixed
  | exception (message : Option String) (active : Bool)
  | fields (fs : Array Field)

instance : Inhabited Cell := ⟨.fixed⟩

/-- What is known of an exception at a time. -/
structure ExceptionState where
  message : Option String
  active : Bool

structure Heap where
  cells : Array Cell

namespace Heap

def empty : Heap := ⟨#[]⟩

instance : Inhabited Heap := ⟨empty⟩

/-- A new object, which gets the next identity. -/
def alloc (h : Heap) (cls : ClassId) (data : ObjectData) (cell : Cell) : Object × Heap :=
  (⟨h.cells.size, cls, data⟩, ⟨h.cells.push cell⟩)

def exception? (h : Heap) (o : Object) : Option ExceptionState :=
  match o.data with
  | .exception =>
    match h.cells[o.id]? with
    | some (.exception message active) => some ⟨message, active⟩
    | _ => some ⟨none, false⟩
  | _ => none

/-- The fields of an instance. -/
def fields? (h : Heap) (o : Object) : Option (Array Field) :=
  match o.data with
  | .fields =>
    match h.cells[o.id]? with
    | some (.fields fs) => some fs
    | _ => some #[]
  | _ => none

def setException (h : Heap) (o : Object) (state : ExceptionState) : Heap :=
  ⟨h.cells.setIfInBounds o.id (.exception state.message state.active)⟩

def setFields (h : Heap) (o : Object) (fs : Array Field) : Heap :=
  ⟨h.cells.setIfInBounds o.id (.fields fs)⟩

def exceptionOf? (h : Heap) (v : Value) : Option ExceptionState := v.object?.bind h.exception?

/-- An exception that is being thrown, rather than held in a variable. -/
def isActive (h : Heap) (v : Value) : Bool := (h.exceptionOf? v).any (·.active)

/-- An error record or an exception that is being thrown. -/
def isFailure (h : Heap) (v : Value) : Bool := v.isError || h.isActive v

def messageOf? (h : Heap) (v : Value) : Option String := (h.exceptionOf? v).bind (·.message)

end Heap

/-- Where an object seems to stand in memory: a region of its own, sixteen bytes for each object. -/
def Object.address (o : Object) : Nat := 0x550000000000 + 16 * (o.id + 1)

def Value.address : Value → Nat
  | .object o => o.address
  | _ => 0

end SlotVM
