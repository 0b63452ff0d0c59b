import SlotVM.Proofs.FrameValues
import SlotVM.Proofs.InlineArithmetic

namespace SlotVM

/-- The value is no error record and no signal, and if it is code then so are its constants. -/
inductive Value.Clean : Value → Prop
  | intro {v : Value} : v.isSentinel = false →
      (∀ c, v.code? = some c → ∀ w ∈ c.consts, Clean w) → Clean v

/-- The value is not code with an error record or a signal among its constants. -/
def Value.Untainted (v : Value) : Prop := ∀ c, v.code? = some c → ∀ w ∈ c.consts, w.Clean

namespace Value

theorem Clean.not_sentinel {v : Value} (clean : v.Clean) : v.isSentinel = false := by
  obtain ⟨plain, -⟩ := clean
  exact plain

theorem Clean.untainted {v : Value} (clean : v.Clean) : v.Untainted := by
  obtain ⟨-, consts⟩ := clean
  exact consts

theorem untainted_of_codeless {v : Value} (codeless : v.code? = none) : v.Untainted := by
  intro c found
  rw [codeless] at found
  cases found

end Value

namespace Frame

variable (host : Host)

/-- The operation of a call: of what has no code, and of code with another number of arguments. -/
def callOperation? (f : Frame) (argc : Nat) : Option (Frame × Run Value) :=
  if f.stack.size < argc then none
  else
    let args := (f.stack.extract (f.stack.size - argc) f.stack.size).toList
    match { f with stack := f.stack.take (f.stack.size - argc) }.pop? with
    | none => none
    | some (callee, f) =>
      match callee.code? with
      | some code =>
        if code.argcount = argc then none
        else some (f, Exception.throwing (.argumentCount code.name code.argcount argc))
      | none => some (f, Operation.call host callee args)

/-- The operation whose result an instruction puts on the stack, and the frame that gets it. -/
def operationOf? (f : Frame) : Instruction → Option (Frame × Run Value)
  | .arith op =>
    match f.pop? with
    | none => none
    | some (b, f) =>
      match f.pop? with
      | none => none
      | some (a, f) => some (f, Operation.inlineBinary host op.op a b)
  | .sign s =>
    match f.pop? with
    | none => none
    | some (v, f) => some (f, Operation.inlineUnary host s v)
  | .call argc => f.callOperation? host argc.toNat
  | _ => none

/-- The operation of the next instruction. -/
def operation? (f : Frame) : Option (Frame × Run Value) :=
  if f.code.bytecode.size ≤ f.pos then none
  else
    match Instruction.decode f.code.bytecode f.pos with
    | .error _ => none
    | .ok (i, pos) => { f with pos }.operationOf? host i

variable (config : Config)

/-- What an instruction does: it hands on the result of its operation, or it has no operation and
hands on no other values than those of the frame. -/
inductive Does (f : Frame) (c : Run Action) : Option (Frame × Run Value) → Prop
  | operates {g : Frame} {op : Run Value} (same : c = op >>= g.pushResult config)
      (kept : f.All Value.Clean → g.All Value.Clean) : Does f c (some (g, op))
  | moves (kept : f.All Value.Clean → ∀ h s, (c h s).1.All Value.Clean) : Does f c none

variable {host config} {f : Frame}

theorem arith_does (op : Arithmetic) :
    f.Does config (f.arith host config op.op) (f.operationOf? host (.arith op)) := by
  rw [arith_eq, operationOf?]
  cases top : f.pop? with
  | none => exact .moves fun all h s => all
  | some p =>
    dsimp only
    cases next : p.2.pop? with
    | none => exact .moves fun all h s => (all.pop top).2
    | some q => exact .operates rfl fun all => ((all.pop top).2.pop next).2

theorem sign_does (s : Sign) :
    f.Does config (f.sign host config s) (f.operationOf? host (.sign s)) := by
  rw [sign_eq, operationOf?]
  cases top : f.pop? with
  | none => exact .moves fun all h s => all
  | some p => exact .operates rfl fun all => (all.pop top).2

/-- A call passes its arguments on to a new frame, whose constants come with the code. -/
theorem call_does (argc : Nat) :
    f.Does config (f.call host config argc) (f.callOperation? host argc) := by
  unfold call callOperation?
  by_cases few : f.stack.size < argc
  · rw [if_pos few, if_pos few]
    exact .moves fun all h s => all
  · rw [if_neg few, if_neg few]
    dsimp only
    cases top : { f with stack := f.stack.take (f.stack.size - argc) }.pop? with
    | none => exact .moves fun all h s => all.take _
    | some p =>
      obtain ⟨callee, g⟩ := p
      have popped (all : f.All Value.Clean) : callee.Clean ∧ g.All Value.Clean :=
        (all.take _).pop top
      dsimp only
      cases found : callee.code? with
      | none => exact .operates rfl fun all => (popped all).2
      | some code =>
        dsimp only
        by_cases arity : code.argcount = argc
        · rw [if_pos arity, if_pos arity]
          exact .moves fun all h s =>
            ⟨(popped all).2, (popped all).1.untainted code found, all.extract _ _⟩
        · rw [if_neg arity, if_neg arity]
          exact .operates rfl fun all => (popped all).2

theorem print_all (all : f.All Value.Clean) (h : Hierarchy) (s : Store) :
    (f.print host h s).1.All Value.Clean := by
  unfold print
  cases top : f.pop? with
  | none => exact all
  | some p =>
    have left : p.2.All Value.Clean := (all.pop top).2
    obtain ⟨lines, s', ran⟩ : ∃ lines s', Operation.print host p.1 h s = (lines, s') :=
      ⟨_, _, rfl⟩
    dsimp only
    rw [Run.bind_eq ran]
    cases lines with
    | ok lines => exact left
    | error cause => exact left

theorem jumpIf_all (all : f.All Value.Clean) (holds : Bool) (dir : Direction) (offset : Nat)
    (h : Hierarchy) (s : Store) : (f.jumpIf host holds dir offset h s).1.All Value.Clean := by
  unfold jumpIf
  cases top : f.pop? with
  | none => exact all
  | some p =>
    obtain ⟨v, g⟩ := p
    obtain ⟨hv, left⟩ := all.pop top
    obtain ⟨truth, s', ran⟩ : ∃ truth s', Operation.truthy host v h s = (truth, s') :=
      ⟨_, _, rfl⟩
    dsimp only
    rw [hv.not_sentinel]
    show ((Operation.truthy host v >>= fun t =>
      if (t == holds) = true then pure (g.jump dir offset) else pure (.next g)) h s).1.All _
    rw [Run.bind_eq ran]
    split
    next => exact jump_all left dir offset
    next => exact left

theorem store_all (all : f.All Value.Clean) (slot : Nat) : (f.store slot).All Value.Clean := by
  unfold store
  cases top : f.pop? with
  | none => exact all
  | some p =>
    obtain ⟨hv, left⟩ := all.pop top
    dsimp only
    split
    next => exact left.setLocal hv slot
    next => exact left

theorem load_all (all : f.All Value.Clean) (slot : Nat) (h : Hierarchy) (s : Store) :
    (f.load config slot h s).1.All Value.Clean := by
  unfold load
  cases bound : f.locals[slot]? with
  | none => exact all
  | some value =>
    cases value with
    | some v => exact push_all config all (all.locals v (Array.mem_of_getElem? bound))
    | none => trivial

theorem loadConst_all (all : f.All Value.Clean) (index : Nat) :
    (f.loadConst config index).All Value.Clean := by
  unfold loadConst
  split
  next v found => exact push_all config all (all.consts v (List.mem_of_getElem? found))
  next => exact all

theorem execute_does (host : Host) (config : Config) (f : Frame) (i : Instruction) :
    f.Does config (f.execute host config i) (f.operationOf? host i) := by
  cases i with
  | nop => exact .moves fun all h s => all
  | loadInt n => exact .moves fun all h s => push_all config all (.intro rfl nofun)
  | loadFloat x => exact .moves fun all h s => push_all config all (.intro rfl nofun)
  | loadConst index => exact .moves fun all h s => loadConst_all all index.toNat
  | arith op => exact arith_does op
  | sign s => exact sign_does s
  | store slot => exact .moves fun all h s => store_all all slot.toNat
  | load slot => exact .moves fun all h s => load_all all slot.toNat h s
  | print => exact .moves fun all h s => print_all all h s
  | jump dir guard offset =>
    cases guard with
    | always => exact .moves fun all h s => jump_all all dir offset.toNat
    | ifTrue => exact .moves fun all h s => jumpIf_all all true dir offset.toNat h s
    | ifFalse => exact .moves fun all h s => jumpIf_all all false dir offset.toNat h s
  | call argc => exact call_does argc.toNat
  | ret => exact .moves fun all h s v top => all.stack v (Array.mem_of_back? top)

theorem act_does (host : Host) (config : Config) (f : Frame) :
    f.Does config (f.act host config) (f.operation? host) := by
  unfold act operation?
  split
  next => exact .moves fun all h s v top => all.stack v (Array.mem_of_back? top)
  next =>
    cases Instruction.decode f.code.bytecode f.pos with
    | error cause => exact .moves fun all h s => all
    | ok decoded =>
      have done := execute_does host config { f with pos := decoded.2 } decoded.1
      dsimp only
      generalize { f with pos := decoded.2 }.operationOf? host decoded.1 = operation at done ⊢
      cases done with
      | operates same kept => exact .operates same fun all => kept (all.at _)
      | moves kept => exact .moves fun all => kept (all.at _)

/-- Only a value that is no error record and no signal passes the check before the operands. -/
theorem pushResult_all (all : f.All Value.Clean) {v : Value} (untainted : v.Untainted)
    (h : Hierarchy) (s : Store) : (f.pushResult config v h s).1.All Value.Clean := by
  by_cases sentinel : v.isSentinel = true
  · cases v with
    | int | float | object => cases sentinel
    | error e =>
      obtain ⟨exc, s', ran⟩ : ∃ exc s', Exception.ofError? e h s = (exc, s') := ⟨_, _, rfl⟩
      unfold pushResult
      dsimp only
      rw [Run.bind_eq ran]
      cases exc with
      | none => exact all
      | some exc => trivial
    | unsupported | divByZero | iterStop => exact all
  · have plain : v.isSentinel = false := Bool.eq_false_iff.mpr sentinel
    rw [Effect.pushResult_eq config f plain]
    dsimp only
    split
    next => trivial
    next => exact push_all config all (.intro plain untainted)

end Frame

theorem Frame.act_of_operation (config : Config) {host : Host} {f g : Frame} {op : Run Value}
    (operation : f.operation? host = some (g, op)) :
    f.act host config = op >>= g.pushResult config := by
  have done := act_does host config f
  rw [operation] at done
  cases done with
  | operates same _ => exact same

end SlotVM
