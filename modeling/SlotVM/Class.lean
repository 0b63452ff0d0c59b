import SlotVM.Dict
import SlotVM.Heap

namespace SlotVM

/-- The types of members. -/
inductive MemberKind where
  | char
  | byte
  | short
  | int
  | long
  | ubyte
  | ushort
  | uint
  | ulong
  | size
  | bool
  | float
  | double
  | str
  | object
deriving DecidableEq

/-- The field of a member in a new instance. -/
def MemberKind.zero : MemberKind → Field
  | char => .char 0
  | byte => .byte 0
  | short => .short 0
  | int => .int 0
  | long => .long 0
  | ubyte => .ubyte 0
  | ushort => .ushort 0
  | uint => .uint 0
  | ulong => .ulong 0
  | size => .size 0
  | bool => .bool false
  | float => .float ⟨0⟩
  | double => .double .zero
  | str => .str none
  | object => .object none

/-- A typed attribute, kept at a place among the fields of an instance. -/
structure Member where
  name : String
  kind : MemberKind
  index : Nat
  /-- The member cannot be assigned. -/
  readonly : Bool := false
  /-- An object in the member can only be replaced by one of the same class. -/
  typeStrict : Bool := false

structure MethodEntry where
  name : String
  func : Native .method

/-- What an attribute leads to: a place in the table of members or of methods. -/
inductive AttrEntry where
  | member (index : Nat)
  | method (index : Nat)
deriving DecidableEq

/-- The shape of the instances of a class. -/
inductive Layout where
  | plain
  | fields
  | exception
  | text
  | method
  | code
deriving DecidableEq

/-- A class as it is described for registration. -/
structure ClassSpec where
  name : String
  base : Option ClassId := none
  layout : Layout := .plain
  /-- The constructor, which subclasses do not inherit. -/
  init : Option (Native .init) := none
  slots : SlotTable := .empty
  members : List Member := []
  methods : List MethodEntry := []

/-- A registered class. -/
structure Class extends ClassSpec where
  attrs : Dict AttrEntry

namespace ClassSpec

def withSlot (c : ClassSpec) (slot : Slot) (f : Native slot.signature) : ClassSpec :=
  { c with slots := c.slots.set slot f }

/-- The number of fields of an instance. -/
def fieldCount (c : ClassSpec) : Nat := c.members.foldl (fun n m => max n (m.index + 1)) 0

/-- The fields of a new instance; a place that no member uses holds a zero. -/
def zeroedFields (c : ClassSpec) : Array Field :=
  c.members.foldl (fun fs m => fs.setIfInBounds m.index m.kind.zero)
    (Array.replicate c.fieldCount (.long 0))

/-- Enters names into a dictionary with their places, the first at `index`; the first name that is
there already is an error. -/
def enterNames (cls : String) (entry : Nat → AttrEntry) :
    Nat → List String → Dict AttrEntry → Except Fault (Dict AttrEntry)
  | _, [], d => .ok d
  | index, name :: rest, d =>
    match d.put name (entry index) with
    | (some _, _) => .error (.duplicateAttribute cls name)
    | (none, d) => enterNames cls entry (index + 1) rest d

/-- The dictionary of the attributes: all members, then all methods. -/
def attrDict (c : ClassSpec) : Except Fault (Dict AttrEntry) :=
  match enterNames c.name .member 0 (c.members.map (·.name)) .empty with
  | .error fault => .error fault
  | .ok d => enterNames c.name .method 0 (c.methods.map (·.name)) d

end ClassSpec

namespace Class

/-- What an attribute of the class leads to, without regard to its base. -/
def attr? (c : Class) (name : String) : Option AttrEntry := c.attrs.get? name

end Class

end SlotVM
