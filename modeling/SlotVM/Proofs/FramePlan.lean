import SlotVM.Proofs.EffectClosure
import SlotVM.Proofs.FrameValues

namespace SlotVM

/-- What an instruction comes to, before the heap is known. -/
inductive Plan where
  | next (f : Frame)
  | result (f : Frame) (e : Effect)
  | print (f : Frame) (line : String)
  | call (f : Frame) (code : CodeObject) (args : List Value)
  | leave (answer : Option Value)
  | fail (f : Frame) (cause : Fault)

def Plan.perform (config : Config) : Plan → Heap → Action × Heap
  | next f, heap => (.next f, heap)
  | result f e, heap => e.act config f heap
  | print f line, heap => (.print f [line], heap)
  | call f code args, heap => (.call f code args, heap)
  | leave answer, heap => (.leave answer, heap)
  | fail f cause, heap => (f.fault cause, heap)

namespace Value

/-- The truth of a value that can be stored. -/
def holds : Value → Bool
  | int n => n != 0
  | float x => !x.isZero
  | object ⟨_, _, .text s⟩ => !s.isEmpty
  | _ => true

/-- The line that printing a value that can be stored writes. -/
def line : Value → String
  | int n => toString n.toInt
  | float x => x.toFixed
  | object ⟨_, _, .text s⟩ => s
  | object ⟨_, _, .code c⟩ => "<code " ++ c.name ++ ">"
  | _ => ""

end Value

namespace Frame

/-- The constants, the operands and the assigned local variables can be stored. -/
structure Storable (f : Frame) : Prop where
  consts : ∀ v ∈ f.code.consts, v.Storable
  stack : ∀ v ∈ f.stack, v.Storable
  locals : ∀ v, some v ∈ f.locals → v.Storable

def planPop (f : Frame) (go : Value → Frame → Plan) : Plan :=
  match f.pop? with
  | some (v, f) => go v f
  | none => .fail f .stackUnderflow

def planJump (f : Frame) (dir : Direction) (offset : Nat) : Plan :=
  match f.target? dir offset with
  | some pos => .next { f with pos }
  | none => .fail f (.jumpOutOfRange f.pos)

def planJumpIf (f : Frame) (wanted : Bool) (dir : Direction) (offset : Nat) : Plan :=
  f.planPop fun v f => if v.holds == wanted then f.planJump dir offset else .next f

def planStore (f : Frame) (slot : Nat) : Plan :=
  f.planPop fun v f =>
    if slot < f.locals.size then .next { f with locals := f.locals.setIfInBounds slot (some v) }
    else .fail f (.invalidLocal slot)

def planLoad (f : Frame) (slot : Nat) : Plan :=
  match f.locals[slot]? with
  | none => .fail f (.invalidLocal slot)
  | some (some v) => .result f (.give v)
  | some none => .result f (.throw (.unboundName (f.localName slot)))

def planCall (h : Hierarchy) (f : Frame) (argc : Nat) : Plan :=
  if f.stack.size < argc then .fail f .stackUnderflow
  else
    let args := (f.stack.extract (f.stack.size - argc) f.stack.size).toList
    planPop { f with stack := f.stack.take (f.stack.size - argc) } fun callee f =>
      match callee.code? with
      | some code =>
        if code.argcount = argc then .call f code args
        else .result f (.throw (.argumentCount code.name code.argcount argc))
      | none => .result f (.throw (.notCallable (h.classNameOf callee)))

def planOf (h : Hierarchy) (f : Frame) : Instruction → Plan
  | .nop => .next f
  | .loadInt n => .result f (.give (.int n.toInt64))
  | .loadFloat x => .result f (.give (.float x))
  | .loadConst index =>
    match f.code.consts[index.toNat]? with
    | some v => .result f (.give v)
    | none => .fail f (.invalidConstant index.toNat)
  | .arith op => f.planPop fun b f => f.planPop fun a f => .result f (.arith h op a b)
  | .sign s => f.planPop fun v f => .result f (.sign h s v)
  | .store slot => f.planStore slot.toNat
  | .load slot => f.planLoad slot.toNat
  | .print => f.planPop fun v f => .print f v.line
  | .jump dir .always offset => f.planJump dir offset.toNat
  | .jump dir .ifTrue offset => f.planJumpIf true dir offset.toNat
  | .jump dir .ifFalse offset => f.planJumpIf false dir offset.toNat
  | .call argc => f.planCall h argc.toNat
  | .ret => .leave f.stack.back?

def plan (h : Hierarchy) (f : Frame) : Plan :=
  if f.code.bytecode.size ≤ f.pos then .leave f.stack.back?
  else
    match Instruction.decode f.code.bytecode f.pos with
    | .error cause => .fail f cause
    | .ok (i, pos) => planOf h { f with pos } i

theorem storable_iff_all {f : Frame} : f.Storable ↔ f.All Value.Storable :=
  ⟨fun hf => ⟨hf.consts, hf.stack, hf.locals⟩, fun hf => ⟨hf.consts, hf.stack, hf.locals⟩⟩

theorem Storable.pop {f g : Frame} {v : Value} (hf : f.Storable) (popped : f.pop? = some (v, g)) :
    v.Storable ∧ g.Storable := by
  obtain ⟨hv, hg⟩ := (storable_iff_all.mp hf).pop popped
  exact ⟨hv, storable_iff_all.mpr hg⟩

theorem Storable.at {f : Frame} (hf : f.Storable) (pos : Nat) : { f with pos }.Storable :=
  ⟨hf.consts, hf.stack, hf.locals⟩

theorem Storable.take {f : Frame} (hf : f.Storable) (n : Nat) :
    { f with stack := f.stack.take n }.Storable :=
  storable_iff_all.mpr ((storable_iff_all.mp hf).take n)

end Frame

namespace Operation

variable (host : Host) {h : Hierarchy}

theorem yields_truthy (standard : h.Standard) {v : Value} (hv : v.Storable) (heap : Heap) :
    Run.Yields h (truthy host v) heap (v.holds, heap) := by
  have hv' := hv
  cases hv with
  | int n | float x | text id s | code consts =>
    exact .bind_slot standard hv' rfl (.of_pure _ heap)

theorem yields_toText (standard : h.Standard) {o : Object} (ho : (Value.object o).Storable)
    (heap : Heap) : Run.Yields h (toText host (.object o)) heap ((Value.object o).line, heap) := by
  have ho' := ho
  cases ho with
  | text id s | code consts => exact .bind_slot standard ho' rfl (.of_pure _ heap)

theorem yields_print (standard : h.Standard) {v : Value} (hv : v.Storable) (heap : Heap) :
    Run.Yields h (print host v) heap (.ok [v.line], heap) := by
  have hv' := hv
  cases hv with
  | int n | float x => exact .of_pure _ heap
  | text id s | code consts =>
    refine Run.Yields.bind (c := Run.heap) (r := (heap, heap)) (fun _ sound => ⟨rfl, rfl, sound⟩) ?_
    rw [hv'.not_active heap]
    refine .bind_slot standard hv' rfl ?_
    exact (yields_toText host standard hv' heap).bind (.of_pure _ heap)

end Operation

namespace Frame

variable (host : Host) (config : Config) {h : Hierarchy}

theorem yields_pop {f : Frame} {go : Value → Frame → Run Action} {plan : Value → Frame → Plan}
    (hf : f.Storable) (heap : Heap)
    (later : ∀ v g, v.Storable → g.Storable →
      Run.Yields h (go v g) heap ((plan v g).perform config heap)) :
    Run.Yields h (match f.pop? with
      | none => pure (f.fault .stackUnderflow)
      | some (v, g) => go v g) heap ((f.planPop plan).perform config heap) := by
  unfold planPop
  cases popped : f.pop? with
  | none => exact .of_pure _ heap
  | some p =>
    obtain ⟨hv, hg⟩ := hf.pop popped
    exact later p.1 p.2 hv hg

theorem perform_planJump (f : Frame) (dir : Direction) (offset : Nat) (heap : Heap) :
    (f.planJump dir offset).perform config heap = (f.jump dir offset, heap) := by
  unfold planJump jump
  cases f.target? dir offset <;> rfl

theorem yields_jumpIf (standard : h.Standard) {f : Frame} (hf : f.Storable) (wanted : Bool)
    (dir : Direction) (offset : Nat) (heap : Heap) :
    Run.Yields h (f.jumpIf host wanted dir offset) heap
      ((f.planJumpIf wanted dir offset).perform config heap) := by
  refine yields_pop config hf heap fun v g hv hg => ?_
  rw [hv.not_sentinel]
  refine (Operation.yields_truthy host standard hv heap).bind ?_
  dsimp only
  split
  next => exact perform_planJump config g dir offset heap ▸ .of_pure _ heap
  next => exact .of_pure _ heap

theorem yields_store (f : Frame) (slot : Nat) (heap : Heap) :
    Run.Yields h (pure (f.store slot)) heap ((f.planStore slot).perform config heap) := by
  have same : (f.planStore slot).perform config heap = (f.store slot, heap) := by
    unfold planStore store planPop
    cases f.pop? with
    | none => rfl
    | some p =>
      dsimp only
      split <;> rfl
  exact same ▸ .of_pure _ heap

theorem yields_load (f : Frame) (slot : Nat) (heap : Heap) :
    Run.Yields h (f.load config slot) heap ((f.planLoad slot).perform config heap) := by
  unfold planLoad load
  cases f.locals[slot]? with
  | none => exact .of_pure _ heap
  | some bound =>
    cases bound with
    | some v => exact .of_pure _ heap
    | none => exact fun _ sound => ⟨rfl, rfl, sound⟩

theorem yields_print (standard : h.Standard) {f : Frame} (hf : f.Storable) (heap : Heap) :
    Run.Yields h (f.print host) heap
      ((f.planPop fun v f => .print f v.line).perform config heap) := by
  refine yields_pop config hf heap fun v g hv hg => ?_
  exact (Operation.yields_print host standard hv heap).bind (.of_pure _ heap)

theorem yields_arith (standard : h.Standard) {f : Frame} (hf : f.Storable) (op : Arithmetic)
    (heap : Heap) : Run.Yields h (f.arith host config op.op) heap
      ((f.planPop fun b f => f.planPop fun a f => .result f (.arith h op a b)).perform config
        heap) := by
  rw [arith_eq]
  refine yields_pop config hf heap fun b g hb hg => ?_
  refine yields_pop config hg heap fun a k ha hk => ?_
  have effect := Operation.of_inlineBinary host standard op ha hb
  exact effect.pushResult (Effect.arith_closed h op ha hb).final config k heap

theorem yields_sign (standard : h.Standard) {f : Frame} (hf : f.Storable) (s : Sign)
    (heap : Heap) : Run.Yields h (f.sign host config s) heap
      ((f.planPop fun v f => .result f (.sign h s v)).perform config heap) := by
  rw [sign_eq]
  refine yields_pop config hf heap fun v g hv hg => ?_
  have effect := Operation.of_inlineUnary host standard s hv
  exact effect.pushResult (Effect.sign_closed h s hv).final config g heap

theorem of_argumentCount (code : CodeObject) (argc : Nat) :
    Effect.Of h (Exception.throwing (.argumentCount code.name code.argcount argc))
      (.throw (.argumentCount code.name code.argcount argc)) := Effect.of_throw _

theorem yields_call (standard : h.Standard) {f : Frame} (hf : f.Storable) (argc : Nat)
    (heap : Heap) : Run.Yields h (f.call host config argc) heap
      ((f.planCall h argc).perform config heap) := by
  unfold planCall call
  split
  next => exact .of_pure _ heap
  next =>
    refine yields_pop config (hf.take _) heap fun callee g hc hg => ?_
    cases found : callee.code? with
    | some code =>
      dsimp only
      split
      next => exact .of_pure _ heap
      next => exact (of_argumentCount code argc).pushResult trivial config g heap
    | none =>
      exact (Operation.of_call host standard hc found _).pushResult trivial config g heap

theorem yields_execute (standard : h.Standard) {f : Frame} (hf : f.Storable) (i : Instruction)
    (heap : Heap) :
    Run.Yields h (f.execute host config i) heap ((f.planOf h i).perform config heap) := by
  cases i with
  | nop | loadInt n | loadFloat x | ret => exact .of_pure _ heap
  | loadConst index =>
    have same : (f.planOf h (.loadConst index)).perform config heap =
        (f.loadConst config index.toNat, heap) := by
      unfold planOf loadConst
      dsimp only
      cases f.code.consts[index.toNat]? <;> rfl
    exact same ▸ .of_pure _ heap
  | arith op => exact yields_arith host config standard hf op heap
  | sign s => exact yields_sign host config standard hf s heap
  | store slot => exact yields_store config f slot.toNat heap
  | load slot => exact yields_load config f slot.toNat heap
  | print => exact yields_print host config standard hf heap
  | jump dir guard offset =>
    cases guard with
    | always => exact perform_planJump config f dir offset.toNat heap ▸ .of_pure _ heap
    | ifTrue => exact yields_jumpIf host config standard hf true dir offset.toNat heap
    | ifFalse => exact yields_jumpIf host config standard hf false dir offset.toNat heap
  | call argc => exact yields_call host config standard hf argc.toNat heap

theorem yields_act (standard : h.Standard) {f : Frame} (hf : f.Storable) (heap : Heap) :
    Run.Yields h (f.act host config) heap ((f.plan h).perform config heap) := by
  unfold act plan
  split
  next => exact .of_pure _ heap
  next =>
    cases Instruction.decode f.code.bytecode f.pos with
    | error cause => exact .of_pure _ heap
    | ok decoded => exact yields_execute host config standard (hf.at decoded.2) decoded.1 heap

end Frame

end SlotVM
