import SlotVM.Module.Link
import SlotVM.Text.Quoted

namespace SlotVM

namespace Listing

/-- Text in a field of so many characters, at its right end. -/
def alignRight (width : Nat) (text : String) : String :=
  String.ofList (List.replicate (width - text.length) ' ') ++ text

def flag (b : Bool) : String := if b then "true" else "false"

/-- Named parts between braces. -/
def record (name : String) (parts : List (String × String)) : String :=
  name ++ " \x7b " ++ ", ".intercalate (parts.map fun (k, v) => k ++ ": " ++ v) ++ " \x7d"

/-- A part between parentheses. -/
def wrapped (name content : String) : String := name ++ "(" ++ content ++ ")"

def optional : Option String → String
  | some s => wrapped "Some" s
  | none => "None"

def literalDouble (x : Double) : String := Format.binary64.text x.bits.toNat Binary.literal

def literalSingle (x : Single) : String := Format.binary32.text x.bits.toNat Binary.literal

def quotedList (texts : List String) : String :=
  "[" ++ ", ".intercalate (texts.map quoted) ++ "]"

mutual

/-- A value in full, with what the heap holds for it; fields that hold objects are followed to a
limited depth. -/
def full (heap : Heap) (limit : Nat) : Value → String
  | .int n => wrapped "Int" (toString n.toInt)
  | .float x => wrapped "Float" (literalDouble x)
  | .object o => wrapped "Object" (fullObject heap limit o)
  | .error e =>
    wrapped "Error" (record "Error" [("kind", e.kind.label), ("message", quoted e.message)])
  | .unsupported => "Unsupported"
  | .divByZero => "DivByZero"
  | .iterStop => "IterStop"
termination_by v => (limit, sizeOf v)

def fullObject (heap : Heap) (limit : Nat) : Object → String
  | ⟨id, cls, data⟩ =>
    record "Object" [("class", toString cls), ("data", fullData heap limit ⟨id, cls, .plain⟩ data)]
termination_by o => (limit, sizeOf o)

/-- The data of an object that is otherwise known by `this`. -/
def fullData (heap : Heap) (limit : Nat) (this : Object) : ObjectData → String
  | .plain => "Plain"
  | .text s => wrapped "Str" (quoted s)
  | .exception =>
    let state := (heap.exception? { this with data := .exception }).getD ⟨none, false⟩
    wrapped "Exception" (record "ExceptionData"
      [("msg", record "RefCell" [("value", optional (state.message.map quoted))]),
        ("active", record "Cell" [("value", flag state.active)])])
  | .method receiver name _ =>
    wrapped "Method" (record "BoundMethod"
      [("binder", fullObject heap limit receiver), ("name", quoted name), ("func", "0x0")])
  | .code c => wrapped "Code" (fullCode heap limit c)
  | .fields =>
    let fs := (heap.fields? { this with data := .fields }).getD #[]
    wrapped "Fields" (record "RefCell"
      [("value", "[" ++ ", ".intercalate (fs.toList.map (fullField heap limit)) ++ "]")])
termination_by d => (limit, sizeOf d)

def fullField (heap : Heap) (limit : Nat) : Field → String
  | .char c => wrapped "Char" (toString c.toNat)
  | .byte n => wrapped "Byte" (toString n.toInt)
  | .short n => wrapped "Short" (toString n.toInt)
  | .int n => wrapped "Int" (toString n.toInt)
  | .long n => wrapped "Long" (toString n.toInt)
  | .ubyte n => wrapped "UByte" (toString n.toNat)
  | .ushort n => wrapped "UShort" (toString n.toNat)
  | .uint n => wrapped "UInt" (toString n.toNat)
  | .ulong n => wrapped "ULong" (toString n.toNat)
  | .size n => wrapped "Size" (toString n.toNat)
  | .bool b => wrapped "Bool" (flag b)
  | .float x => wrapped "Float" (literalSingle x)
  | .double x => wrapped "Double" (literalDouble x)
  | .str s => wrapped "Str" (optional (s.map quoted))
  | .object none => wrapped "Object" (optional none)
  | .object (some o) =>
    match limit with
    | 0 => wrapped "Object" (optional (some ".."))
    | limit + 1 => wrapped "Object" (optional (some (fullObject heap limit o)))
termination_by (limit, 0)

def fullCode (heap : Heap) (limit : Nat) : CodeObject → String
  | ⟨name, argcount, names, attrs, consts, bytecode⟩ =>
    record "CodeObject"
      [("name", quoted name), ("argcount", toString argcount), ("names", quotedList names),
        ("attrs", quotedList attrs), ("consts", "[" ++ fullList heap limit consts ++ "]"),
        ("bytecode",
          "[" ++ ", ".intercalate (bytecode.toList.map fun b => toString b.toNat) ++ "]")]
termination_by c => (limit, sizeOf c)

/-- The values of a list with commas between them. -/
def fullList (heap : Heap) (limit : Nat) : List Value → String
  | [] => ""
  | [v] => full heap limit v
  | v :: w :: rest => full heap limit v ++ ", " ++ fullList heap limit (w :: rest)
termination_by vs => (limit, sizeOf vs)

end

/-- A constant in one line. Fields are followed through as many objects as the heap has, which is
enough unless they lead back to where they came from. -/
def const (heap : Heap) (v : Value) : String :=
  match v with
  | .int n => "Int " ++ toString n.toInt
  | .float x => "Float " ++ x.toFixed
  | v =>
    match v.text?, v.code? with
    | some s, _ => "Str " ++ quoted s
    | none, some c => "<code " ++ c.name ++ ">"
    | none, none => full heap heap.cells.size v

/-- Where a jump from the position after it leads, if not before the start of the code. -/
def target? (after : Nat) (dir : Direction) (offset : Nat) : Option Nat :=
  match dir with
  | .forward => some (after + offset)
  | .backward => if offset ≤ after then some (after - offset) else none

/-- What is said about the operand of an instruction. -/
def remark (heap : Heap) (code : CodeObject) (pos : Nat) (i : Instruction) : Option String :=
  match i with
  | .loadConst index =>
    some (match code.consts[index.toNat]? with
      | some v => const heap v
      | none => "?")
  | .load slot | .store slot => some ("\"" ++ code.names.getD slot.toNat "?" ++ "\"")
  | .jump dir _ offset =>
    some ("-> " ++ match target? (pos + i.size) dir offset.toNat with
      | some t => toString t
      | none => "?")
  | .call argc => some s!"argc={argc.toNat}"
  | _ => none

/-- An instruction with what is said about its operand. -/
def instruction (heap : Heap) (code : CodeObject) (pos : Nat) (i : Instruction) : String :=
  match remark heap code pos i with
  | some r => i.text ++ " (" ++ r ++ ")"
  | none => i.text

/-- The entries of a table, each after its place. -/
def entries (texts : List String) : List String :=
  texts.mapIdx fun i text => s!"  {i}: " ++ text

/-- A title with the number of entries, and the entries. -/
def table (title : String) (texts : List String) : List String :=
  s!"{title} ({texts.length}):" :: entries texts

/-- The lines of one unit of code without what stands before each of them. -/
def block (heap : Heap) (code : CodeObject) : List String :=
  let quote (s : String) := "\"" ++ s ++ "\""
  let listed := code.instructions.toOption.getD []
  s!"=== Code {code.name} (argcount={code.argcount}, locals={code.localCount}) ===" ::
    table "Names" (code.names.map quote) ++
    (if code.attrs.isEmpty then [] else table "Attrs" (code.attrs.map quote)) ++
    table "Constants" (code.consts.map (const heap)) ++
    "Instructions:" ::
    listed.map fun (pos, i) =>
      "  " ++ alignRight 4 (toString pos) ++ ": " ++ instruction heap code pos i

/-- The lines of a unit at a depth: each is moved to the right. -/
def indented (heap : Heap) (depth : Nat) (code : CodeObject) : List String :=
  (block heap code).map (String.join (List.replicate depth "  ") ++ ·)

def text (lines : List String) : String := String.join (lines.map (· ++ "\n"))

end Listing

namespace CodeObject

mutual

/-- The first fault of code that cannot be read: that of the code itself, then those of the code
among its constants in turn. -/
def checkReadable : CodeObject → Except Fault Unit
  | ⟨name, argcount, names, attrs, consts, bytecode⟩ => do
    let _ ← instructions ⟨name, argcount, names, attrs, consts, bytecode⟩
    checkConsts consts

def checkConsts : List Value → Except Fault Unit
  | [] => return
  | .object ⟨_, _, .code c⟩ :: rest => do
    c.checkReadable
    checkConsts rest
  | _ :: rest => checkConsts rest

end

mutual

/-- The lines of the code itself, then the listings of the code among its constants. Code that
cannot be read is listed as having no instructions. -/
def listingAt (heap : Heap) (depth : Nat) : CodeObject → String
  | ⟨name, argcount, names, attrs, consts, bytecode⟩ =>
    Listing.text (Listing.indented heap depth ⟨name, argcount, names, attrs, consts, bytecode⟩) ++
      constListings heap (depth + 1) consts

def constListings (heap : Heap) (depth : Nat) : List Value → String
  | [] => ""
  | .object ⟨_, _, .code c⟩ :: rest =>
    "\n" ++ c.listingAt heap depth ++ constListings heap depth rest
  | _ :: rest => constListings heap depth rest

end

/-- The listing of code that can be read throughout. -/
def listing (heap : Heap) (c : CodeObject) : Except Fault String := do
  c.checkReadable
  return c.listingAt heap 0

end CodeObject

end SlotVM
