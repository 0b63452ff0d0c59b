import SlotVM.Class

namespace SlotVM

structure Hierarchy where
  classes : Array Class

namespace Hierarchy

def empty : Hierarchy := ⟨#[]⟩

instance : Inhabited Hierarchy := ⟨empty⟩

/-- The number of classes that a table can hold. -/
def maxClasses : Nat := 65536

def get? (h : Hierarchy) (id : ClassId) : Option Class := h.classes[id]?

def size (h : Hierarchy) : Nat := h.classes.size

def nameOf (h : Hierarchy) (id : ClassId) : String :=
  match h.get? id with
  | some c => c.name
  | none => "<unknown>"

def find? (h : Hierarchy) (name : String) : Option ClassId :=
  h.classes.toList.findIdx? (·.name == name)

def classNameOf (h : Hierarchy) (v : Value) : String :=
  match v.cls? with
  | some id => h.nameOf id
  | none => "<sentinel>"

/-- The base of a class, if it is one that was registered before the class. -/
def base? (h : Hierarchy) (id : ClassId) : Option ClassId :=
  ((h.get? id).bind (·.base)).filter (· < id)

/-- A class and its bases up to the root. -/
def chain (h : Hierarchy) (id : ClassId) : List ClassId :=
  match _hb : h.base? id with
  | some base => id :: chain h base
  | none => [id]
termination_by id
decreasing_by
  simp only [base?, Option.filter_eq_some_iff, decide_eq_true_eq] at _hb
  exact _hb.2

/-- The class is the other one or has it among its bases. -/
def isSubclass (h : Hierarchy) (id target : ClassId) : Bool := (h.chain id).contains target

/-- The value is an instance of the class or of a subclass. -/
def isA (h : Hierarchy) (v : Value) (target : ClassId) : Bool :=
  v.cls?.any (h.isSubclass · target)

def isExceptionClass (h : Hierarchy) (id : ClassId) : Bool := h.isSubclass id .exception

/-- The function for a slot: that of the first class on the chain which has one. -/
def lookup (h : Hierarchy) (id : ClassId) (slot : Slot) : Option (Native slot.signature) :=
  (h.chain id).findSome? fun k => (h.get? k).bind (·.slots slot)

/-- The class with its base and layout settled for registration under a number: only the root has no
base, and a class without a layout of its own takes over that of its base. -/
def settle (h : Hierarchy) (id : ClassId) (spec : ClassSpec) : Except Fault ClassSpec :=
  if id = .object then .ok { spec with base := none }
  else
    let base := spec.base.getD .object
    match h.get? base with
    | none => .error (.unregisteredBase spec.name base)
    | some b =>
      .ok { spec with
        base := some base
        layout := if spec.layout = .plain then b.layout else spec.layout }

/-- Adds a class at the end of the table. -/
def register (h : Hierarchy) (spec : ClassSpec) : Except Fault (ClassId × Hierarchy) := do
  let id := h.size
  if maxClasses ≤ id then throw .registryFull
  let spec ← h.settle id spec
  let attrs ← spec.attrDict
  return (id, ⟨h.classes.push { spec with attrs }⟩)

def checkCatchable (h : Hierarchy) (id : ClassId) : Except Fault Unit :=
  if h.isExceptionClass id then .ok () else .error (.badCatch (h.nameOf id))

end Hierarchy

end SlotVM
