import SlotVM.Builtin.Function

namespace SlotVM

namespace Field

/-- What a field holds, as a value; an unset field gives nothing. -/
def read? : Field → Run (Option Value)
  | char c => some <$> Run.newText (String.singleton (Char.ofNat c.toNat))
  | byte n => return some (.int n.toInt64)
  | short n => return some (.int n.toInt64)
  | int n => return some (.int n.toInt64)
  | long n => return some (.int n)
  | ubyte n => return some (.int n.toUInt64.toInt64)
  | ushort n => return some (.int n.toUInt64.toInt64)
  | uint n => return some (.int n.toUInt64.toInt64)
  | ulong n => return some (.int n.toInt64)
  | size n => return some (.int n.toInt64)
  | bool b => return some (.ofBool b)
  | float x => return some (.float x.toDouble)
  | double x => return some (.float x)
  | str (some s) => some <$> Run.newText s
  | object (some o) => return some (.object o)
  | str none | object none => return none

end Field

namespace Member

def int? : Value → Option Int64
  | .int n => some n
  | _ => none

def exactText? (v : Value) : Option (Option String) :=
  if v.cls? = some .text then some v.text? else none

/-- The field that a value becomes in place of another one; nothing if the value does not fit the
kind of the member. -/
def convert? (m : Member) (current : Field) (v : Value) : Option Field :=
  match m.kind with
  | .char =>
    match exactText? v with
    | some (some s) =>
      match s.toList with
      | [c] => if c.toNat < 128 then some (.char (UInt8.ofNat c.toNat)) else none
      | _ => none
    | _ => none
  | .byte => (int? v).map fun n => .byte n.toInt8
  | .short => (int? v).map fun n => .short n.toInt16
  | .int => (int? v).map fun n => .int n.toInt32
  | .long => (int? v).map .long
  | .ubyte => (int? v).map fun n => .ubyte n.toUInt64.toUInt8
  | .ushort => (int? v).map fun n => .ushort n.toUInt64.toUInt16
  | .uint => (int? v).map fun n => .uint n.toUInt64.toUInt32
  | .ulong => (int? v).map fun n => .ulong n.toUInt64
  | .size => (int? v).map fun n => .size n.toUInt64
  | .bool => (int? v).map fun n => .bool (n != 0)
  | .float =>
    match v with
    | .int n => some (.float (Single.ofInt n))
    | .float x => some (.float x.toSingle)
    | _ => none
  | .double => v.number?.map .double
  | .str => (exactText? v).map .str
  | .object =>
    match v, current with
    | .object o, .object (some old) =>
      if m.typeStrict && old.cls != o.cls then none else some (.object (some o))
    | .object o, _ => some (.object (some o))
    | _, _ => none

end Member

namespace Attribute

/-- An attribute by the dictionary of the class. -/
def getDefault (v : Value) (attr : String) : Run Value := do
  let cls ← Run.className v
  match v, v.cls?.bind (← read).get? with
  | .object o, some c =>
    match c.attr? attr with
    | none => Exception.throwing (.attrNotFound cls attr)
    | some (.method i) =>
      match c.methods[i]? with
      | some m => Run.newMethod o m.name m.func
      | none => Exception.throwing (.attrNotFound cls attr)
    | some (.member i) =>
      match c.members[i]? with
      | none => Exception.throwing (.attrNotFound cls attr)
      | some m =>
        match (← Run.heap).fields? o with
        | none => Run.internal "member access on object without fields"
        | some fs =>
          match fs[m.index]? with
          | none => Run.internal "member index out of range"
          | some field =>
            match ← field.read? with
            | some value => return value
            | none => Exception.throwing (.attrUnset cls attr)
  | _, _ => Exception.throwing (.attrNotFound cls attr)

/-- Assigns an attribute by the dictionary of the class; success is zero. -/
def setDefault (v : Value) (attr : String) (new : Value) : Run Value := do
  let cls ← Run.className v
  match v, v.cls?.bind (← read).get? with
  | .object o, some c =>
    match c.attr? attr with
    | none => Exception.throwing (.attrNotFound cls attr)
    | some (.method _) => Exception.throwing (.attrReadOnly cls attr)
    | some (.member i) =>
      match c.members[i]? with
      | none => Exception.throwing (.attrNotFound cls attr)
      | some m =>
        if m.readonly then Exception.throwing (.attrReadOnly cls attr)
        else
          match (← Run.heap).fields? o with
          | none => Run.internal "member access on object without fields"
          | some fs =>
            match fs[m.index]? with
            | none => Run.internal "member index out of range"
            | some current =>
              match m.convert? current new with
              | some field =>
                Run.modifyHeap fun h => h.setFields o (fs.setIfInBounds m.index field)
                return .int 0
              | none => Exception.throwing (.attrMismatch cls attr (← Run.className new))
  | _, _ => Exception.throwing (.attrNotFound cls attr)

variable (host : Host)

def get (v : Value) (attr : String) : Run Value := do
  match v.cls? with
  | none => Run.internal "attribute access on a sentinel"
  | some cls =>
    match ← Run.resolve cls .attrGet with
    | some f => f.fn host v attr
    | none => getDefault v attr

def set (v : Value) (attr : String) (new : Value) : Run Value := do
  match v.cls? with
  | none => Run.internal "attribute access on a sentinel"
  | some cls =>
    match ← Run.resolve cls .attrSet with
    | some f => f.fn host v attr new
    | none => setDefault v attr new

end Attribute

end SlotVM
