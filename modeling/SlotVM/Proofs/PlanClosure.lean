import SlotVM.Proofs.FramePlan

namespace SlotVM

/-- The causes for which a run ends. -/
inductive Fault.Running : Fault → Prop
  | unexpectedByte (context : String) (byte : UInt8) : Running (.unexpectedByte context byte)
  | unexpectedEnd (context : String) : Running (.unexpectedEnd context)
  | stackOverflow : Running .stackOverflow
  | stackUnderflow : Running .stackUnderflow
  | callDepthExceeded : Running .callDepthExceeded
  | invalidConstant (index : Nat) : Running (.invalidConstant index)
  | invalidLocal (index : Nat) : Running (.invalidLocal index)
  | jumpOutOfRange (position : Nat) : Running (.jumpOutOfRange position)

theorem Instruction.ofBytes_running {bytes : List UInt8} {cause : Fault}
    (h : ofBytes bytes = .error cause) : cause.Running := by
  unfold ofBytes at h
  split at h
  next => cases h; exact .unexpectedEnd _
  next =>
    split at h
    next => cases h; exact .unexpectedByte _ _
    next =>
      dsimp only at h
      split at h
      next => cases h; exact .unexpectedEnd _
      next => cases h

theorem Instruction.decode_running {code : Array UInt8} {pos : Nat} {cause : Fault}
    (h : decode code pos = .error cause) : cause.Running := by
  unfold decode at h
  cases read : ofBytes (code.extract pos (pos + maxSize)).toList with
  | error e => rw [read] at h; cases h; exact ofBytes_running read
  | ok i => rw [read] at h; cases h

/-- The plan keeps to values that can be stored. -/
def Plan.Closed : Plan → Prop
  | next f => f.Storable
  | result f e => f.Storable ∧ e.Closed
  | print f _ => f.Storable
  | call f code args =>
    f.Storable ∧ (∀ v ∈ code.consts, v.Storable) ∧ ∀ v ∈ args, v.Storable
  | leave answer => ∀ v, answer = some v → v.Storable
  | fail f cause => f.Storable ∧ cause.Running

namespace Frame

theorem planPop_closed {f : Frame} (hf : f.Storable) {go : Value → Frame → Plan}
    (hgo : ∀ v g, v.Storable → g.Storable → (go v g).Closed) : (f.planPop go).Closed := by
  unfold planPop
  cases popped : f.pop? with
  | none => exact ⟨hf, .stackUnderflow⟩
  | some p =>
    obtain ⟨hv, hg⟩ := hf.pop popped
    exact hgo p.1 p.2 hv hg

theorem planJump_closed {f : Frame} (hf : f.Storable) (dir : Direction) (offset : Nat) :
    (f.planJump dir offset).Closed := by
  unfold planJump
  split
  next => exact hf.at _
  next => exact ⟨hf, .jumpOutOfRange _⟩

theorem planJumpIf_closed {f : Frame} (hf : f.Storable) (wanted : Bool) (dir : Direction)
    (offset : Nat) : (f.planJumpIf wanted dir offset).Closed := by
  refine planPop_closed hf fun v g hv hg => ?_
  split
  next => exact planJump_closed hg dir offset
  next => exact hg

theorem Storable.setLocal {f : Frame} (hf : f.Storable) {v : Value} (hv : v.Storable)
    (slot : Nat) : { f with locals := f.locals.setIfInBounds slot (some v) }.Storable :=
  storable_iff_all.mpr ((storable_iff_all.mp hf).setLocal hv slot)

theorem planStore_closed {f : Frame} (hf : f.Storable) (slot : Nat) :
    (f.planStore slot).Closed := by
  refine planPop_closed hf fun v g hv hg => ?_
  split
  next => exact hg.setLocal hv slot
  next => exact ⟨hg, .invalidLocal _⟩

theorem planLoad_closed {f : Frame} (hf : f.Storable) (slot : Nat) : (f.planLoad slot).Closed := by
  unfold planLoad
  split
  next => exact ⟨hf, .invalidLocal _⟩
  next v bound => exact ⟨hf, hf.locals v (Array.mem_of_getElem? bound)⟩
  next => exact ⟨hf, by simp [Effect.Closed, Effect.thrownClasses, Condition.cls]⟩

theorem planCall_closed (h : Hierarchy) {f : Frame} (hf : f.Storable) (argc : Nat) :
    (f.planCall h argc).Closed := by
  unfold planCall
  split
  next => exact ⟨hf, .stackUnderflow⟩
  next =>
    refine planPop_closed (hf.take _) fun callee g hc hg => ?_
    cases hc with
    | code consts =>
      dsimp only [Value.code?]
      split
      next =>
        exact ⟨hg, consts, (storable_iff_all.mp hf).extract _ _⟩
      next => exact ⟨hg, List.mem_cons_self⟩
    | int n | float x | text id s => exact ⟨hg, List.mem_cons_self⟩

theorem planOf_closed (h : Hierarchy) {f : Frame} (hf : f.Storable) (i : Instruction) :
    (f.planOf h i).Closed := by
  cases i with
  | nop => exact hf
  | loadInt n => exact ⟨hf, .int _⟩
  | loadFloat x => exact ⟨hf, .float _⟩
  | loadConst index =>
    unfold planOf
    dsimp only
    split
    next v found => exact ⟨hf, hf.consts v (List.mem_of_getElem? found)⟩
    next => exact ⟨hf, .invalidConstant _⟩
  | arith op =>
    refine planPop_closed hf fun b g hb hg => planPop_closed hg fun a k ha hk => ?_
    exact ⟨hk, Effect.arith_closed h op ha hb⟩
  | sign s => exact planPop_closed hf fun v g hv hg => ⟨hg, Effect.sign_closed h s hv⟩
  | store slot => exact planStore_closed hf slot.toNat
  | load slot => exact planLoad_closed hf slot.toNat
  | print => exact planPop_closed hf fun v g hv hg => hg
  | jump dir guard offset =>
    cases guard with
    | always => exact planJump_closed hf dir offset.toNat
    | ifTrue => exact planJumpIf_closed hf true dir offset.toNat
    | ifFalse => exact planJumpIf_closed hf false dir offset.toNat
  | call argc => exact planCall_closed h hf argc.toNat
  | ret => exact fun v top => hf.stack v (Array.mem_of_back? top)

theorem plan_closed (h : Hierarchy) {f : Frame} (hf : f.Storable) : (f.plan h).Closed := by
  unfold plan
  split
  next => exact fun v top => hf.stack v (Array.mem_of_back? top)
  next =>
    cases decoded : Instruction.decode f.code.bytecode f.pos with
    | error cause => exact ⟨hf, Instruction.decode_running decoded⟩
    | ok p => exact planOf_closed h (hf.at p.2) p.1

theorem Storable.push? {f g : Frame} {config : Config} {v : Value} (hf : f.Storable)
    (hv : v.Storable) (pushed : f.push? config v = some g) : g.Storable :=
  storable_iff_all.mpr ((storable_iff_all.mp hf).push? hv pushed)

theorem Storable.enter {code : CodeObject} {args : List Value} (depth : Nat)
    (hc : ∀ v ∈ code.consts, v.Storable) (ha : ∀ v ∈ args, v.Storable) :
    (Frame.enter depth code args).Storable :=
  storable_iff_all.mpr (All.enter depth hc ha)

end Frame

end SlotVM
