import SlotVM.Module.Link
import SlotVM.Operation

namespace SlotVM

/-- Limits of a run. -/
structure Config where
  /-- Room for operands that a frame has at first. -/
  stackCapacity : Nat := 16
  /-- The greatest number of operands in a frame. -/
  maxStack : Nat := 1024
  /-- The greatest number of frames. -/
  maxFrames : Nat := 256

/-- The bytes of a value in memory: a number of 64 bits or a pointer, and which of them it is. -/
def Value.byteSize : Nat := 16

/-- The most bytes that can be asked for in one piece. -/
def maxAllocation : Nat := 2 ^ 63 - 1

/-- The operands of a frame can be given the room that they should have at first. -/
def Config.Allocates (config : Config) : Prop :=
  config.stackCapacity * Value.byteSize ≤ maxAllocation

instance (config : Config) : Decidable config.Allocates := Nat.decLe _ _

/-- A call that has not returned. -/
structure Frame where
  /-- The number of calls that wait for this one. -/
  depth : Nat
  code : CodeObject
  /-- The local variables; one that was never assigned has no value. -/
  locals : Array (Option Value)
  /-- The operands, the top at the end. -/
  stack : Array Value
  /-- The position of the next instruction. -/
  pos : Nat

/-- What an instruction leads to. -/
inductive Action where
  | next (f : Frame)
  | print (f : Frame) (lines : List String)
  | call (f : Frame) (code : CodeObject) (args : List Value)
  | leave (result : Option Value)
  | raise (exc : Value)
  | fail (f : Frame) (e : Error)

namespace Frame

/-- The frame of a call, its arguments in the first local variables. -/
def enter (depth : Nat) (code : CodeObject) (args : List Value) : Frame :=
  let count := max code.localCount args.length
  ⟨depth, code, (args.map some).toArray ++ Array.replicate (count - args.length) none, #[], 0⟩

/-- The frame of a call with room for its operands, if there can be so much. -/
def enter? (config : Config) (depth : Nat) (code : CodeObject) (args : List Value) :
    Option Frame :=
  if config.Allocates then some (enter depth code args) else none

def fault (f : Frame) (cause : Fault) : Action := .fail f cause.error

/-- The frame with one more operand, if there is room for it. -/
@[inline] def push? (config : Config) (f : Frame) (v : Value) : Option Frame :=
  if f.stack.size < config.maxStack then some { f with stack := f.stack.push v } else none

/-- Puts an operand on the stack, up to its limit. -/
def push (config : Config) (f : Frame) (v : Value) : Action :=
  match f.push? config v with
  | some f => .next f
  | none => f.fault .stackOverflow

/-- The top operand and the frame without it. -/
def pop? (f : Frame) : Option (Value × Frame) :=
  f.stack.back?.map fun v => (v, { f with stack := f.stack.pop })

/-- The name of a local variable, its number if it has none. -/
def localName (f : Frame) (slot : Nat) : String :=
  match f.code.names[slot]? with
  | some name => name
  | none => s!"#{slot}"

/-- Where a jump leads, counted from the position after it. -/
def target? (f : Frame) (dir : Direction) (offset : Nat) : Option Nat :=
  match dir with
  | .forward => if f.pos + offset ≤ f.code.bytecode.size then some (f.pos + offset) else none
  | .backward =>
    if offset ≤ f.pos ∧ f.pos - offset ≤ f.code.bytecode.size then some (f.pos - offset) else none

def jump (f : Frame) (dir : Direction) (offset : Nat) : Action :=
  match f.target? dir offset with
  | some pos => .next { f with pos }
  | none => f.fault (.jumpOutOfRange f.pos)

variable (host : Host) (config : Config)

/-- Puts the result of an operation on the stack, unless it is a failure: error records that can
become exceptions and exceptions being thrown end the run, and so do fatal records and signals. -/
def pushResult (f : Frame) (v : Value) : Run Action := do
  match v with
  | .error e =>
    match ← Exception.ofError? e with
    | some exc => return .raise exc
    | none => return .fail f e
  | .unsupported | .divByZero | .iterStop =>
    return f.fault (.internal "sentinel value escaped an operation")
  | v => if (← Run.heap).isActive v then return .raise v else return f.push config v

/-- Arithmetic; numbers are dealt with without the slots of their classes. -/
def arith (f : Frame) (op : BinaryOp) : Run Action := do
  match f.pop? with
  | none => return f.fault .stackUnderflow
  | some (b, f) =>
    match f.pop? with
    | none => return f.fault .stackUnderflow
    | some (a, f) =>
      let result ← match numberArith? op a b with
        | some .divByZero => Exception.throwing .divisionByZero
        | some v => pure v
        | none => Operation.binary host op a b
      f.pushResult config result

/-- A sign; numbers are dealt with without the slots of their classes. -/
def sign (f : Frame) (s : Sign) : Run Action := do
  match f.pop? with
  | none => return f.fault .stackUnderflow
  | some (v, f) =>
    let result ← match s, v with
      | .plus, .int n => pure (.int n)
      | .plus, .float x => pure (.float x)
      | .minus, .int n => pure (.int (-n))
      | .minus, .float x => pure (.float x.neg)
      | s, v => Operation.unary host s.op v
    f.pushResult config result

def loadConst (f : Frame) (index : Nat) : Action :=
  match f.code.consts[index]? with
  | some v => f.push config v
  | none => f.fault (.invalidConstant index)

def store (f : Frame) (slot : Nat) : Action :=
  match f.pop? with
  | none => f.fault .stackUnderflow
  | some (v, f) =>
    if slot < f.locals.size then .next { f with locals := f.locals.setIfInBounds slot (some v) }
    else f.fault (.invalidLocal slot)

def load (f : Frame) (slot : Nat) : Run Action := do
  match f.locals[slot]? with
  | none => return f.fault (.invalidLocal slot)
  | some (some v) => return f.push config v
  | some none => return .raise (← Exception.throwing (.unboundName (f.localName slot)))

def print (f : Frame) : Run Action := do
  match f.pop? with
  | none => return f.fault .stackUnderflow
  | some (v, f) =>
    match ← Operation.print host v with
    | .ok lines => return .print f lines
    | .error cause => return f.fault cause

/-- A jump that is taken if the top operand is as true as `holds` says. -/
def jumpIf (f : Frame) (holds : Bool) (dir : Direction) (offset : Nat) : Run Action := do
  match f.pop? with
  | none => return f.fault .stackUnderflow
  | some (v, f) =>
    if v.isSentinel then return f.fault (.internal "jump condition is a sentinel")
    if (← Operation.truthy host v) == holds then return f.jump dir offset
    else return .next f

/-- A call of what stands below the arguments: code gets a frame, all else is called by its slot. -/
def call (f : Frame) (argc : Nat) : Run Action := do
  if f.stack.size < argc then return f.fault .stackUnderflow
  let args := (f.stack.extract (f.stack.size - argc) f.stack.size).toList
  let f := { f with stack := f.stack.take (f.stack.size - argc) }
  match f.pop? with
  | none => return f.fault .stackUnderflow
  | some (callee, f) =>
    match callee.code? with
    | some code =>
      if code.argcount = argc then return .call f code args
      f.pushResult config (← Exception.throwing (.argumentCount code.name code.argcount argc))
    | none => f.pushResult config (← Operation.call host callee args)

/-- Carries out an instruction, with the position of the frame after it already. -/
def execute (f : Frame) : Instruction → Run Action
  | .nop => return .next f
  | .loadInt n => return f.push config (.int n.toInt64)
  | .loadFloat x => return f.push config (.float x)
  | .loadConst index => return f.loadConst config index.toNat
  | .arith a => f.arith host config a.op
  | .sign s => f.sign host config s
  | .store slot => return f.store slot.toNat
  | .load slot => f.load config slot.toNat
  | .print => f.print host
  | .jump dir .always offset => return f.jump dir offset.toNat
  | .jump dir .ifTrue offset => f.jumpIf host true dir offset.toNat
  | .jump dir .ifFalse offset => f.jumpIf host false dir offset.toNat
  | .call argc => f.call host config argc.toNat
  | .ret => return .leave f.stack.back?

/-- The action of the frame: the end of the code returns like an instruction would. -/
def act (f : Frame) : Run Action :=
  if f.code.bytecode.size ≤ f.pos then return .leave f.stack.back?
  else
    match Instruction.decode f.code.bytecode f.pos with
    | .error cause => return f.fault cause
    | .ok (i, pos) => execute host config { f with pos } i

end Frame

/-- What a run depends on and does not change. -/
structure Setting where
  host : Host
  hierarchy : Hierarchy
  config : Config

/-- The state of a run. -/
structure Machine where
  /-- The frames, the top first. -/
  frames : List Frame
  store : Store
  /-- The lines printed so far. -/
  output : Array String

/-- How a run ends. -/
inductive Outcome where
  | finished (result : Option Value)
  | uncaught (cls message : String)
  | fatal (e : Error)

/-- How a run that did not finish is reported. -/
def Outcome.report? : Outcome → Option String
  | finished _ => none
  | uncaught cls message => some s!"Uncaught {cls}: {message}"
  | fatal e => some e.display

inductive Progress where
  | running (m : Machine)
  | ended (m : Machine) (outcome : Outcome)
  /-- There is no outcome: memory was asked for that there cannot be. -/
  | panicked (m : Machine)

namespace Machine

/-- Adds the frame of a call, up to the limit. -/
def enter (config : Config) (m : Machine) (depth : Nat) (code : CodeObject) (args : List Value) :
    Progress :=
  if config.maxFrames ≤ depth then .ended m (.fatal Fault.callDepthExceeded.error)
  else
    match Frame.enter? config depth code args with
    | some frame => .running { m with frames := frame :: m.frames }
    | none => .panicked m

/-- Returns a result to the frame on top; where there is none, the run is over. -/
def leave (config : Config) (m : Machine) (result : Option Value) : Progress :=
  match m.frames, result with
  | [], _ => .ended m (.finished result)
  | _ :: _, none => .running m
  | f :: rest, some v =>
    match f.push? config v with
    | some f => .running { m with frames := f :: rest }
    | none => .ended m (.fatal Fault.stackOverflow.error)

/-- Ends a run by an exception; all frames are left. -/
def unwind (hierarchy : Hierarchy) (m : Machine) (exc : Value) : Progress :=
  let cls := hierarchy.classNameOf exc
  .ended { m with frames := [] } (.uncaught cls ((m.store.heap.messageOf? exc).getD cls))

def apply (env : Setting) (m : Machine) : Action → Progress
  | .next f => .running { m with frames := f :: m.frames }
  | .print f lines => .running { m with frames := f :: m.frames, output := m.output ++ lines }
  | .call f code args =>
    enter env.config { m with frames := f :: m.frames } (f.depth + 1) code args
  | .leave result => m.leave env.config result
  | .raise exc => m.unwind env.hierarchy exc
  | .fail f e => .ended { m with frames := f :: m.frames } (.fatal e)

/-- One step of a run: the action of the top frame. -/
def step (env : Setting) : Machine → Progress
  | ⟨[], store, output⟩ => .ended ⟨[], store, output⟩ (.finished none)
  | ⟨f :: rest, store, output⟩ =>
    let (action, store) := (f.act env.host env.config).run env.hierarchy store
    apply env ⟨rest, store, output⟩ action

def run (env : Setting) : Nat → Machine → Progress
  | 0, m => .running m
  | limit + 1, m =>
    match m.step env with
    | .running m => run env limit m
    | .ended m outcome => .ended m outcome
    | .panicked m => .panicked m

/-- The start of a run of some code. -/
def start (env : Setting) (store : Store) (code : CodeObject) : Progress :=
  enter env.config ⟨[], store, #[]⟩ 0 code []

/-- The lines printed so far as one text. -/
def printed (m : Machine) : String := String.join (m.output.toList.map (· ++ "\n"))

end Machine

namespace Progress

/-- At most `limit` further steps. -/
def run (env : Setting) (limit : Nat) : Progress → Progress
  | running m => m.run env limit
  | ended m outcome => ended m outcome
  | panicked m => panicked m

end Progress

end SlotVM
