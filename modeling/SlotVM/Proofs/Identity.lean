import SlotVM.Proofs.FramePlan

namespace SlotVM

mutual

/-- The value with all identities forgotten. -/
def Value.anonymous : Value → Value
  | .object o => .object o.anonymous
  | v => v

def Object.anonymous : Object → Object
  | ⟨_, cls, data⟩ => ⟨0, cls, data.anonymous⟩

def ObjectData.anonymous : ObjectData → ObjectData
  | .method receiver name func => .method receiver.anonymous name func
  | .code c => .code c.anonymous
  | data => data

def CodeObject.anonymous : CodeObject → CodeObject
  | ⟨name, argcount, names, attrs, consts, bytecode⟩ =>
    ⟨name, argcount, names, attrs, anonymousList consts, bytecode⟩

def anonymousList : List Value → List Value
  | [] => []
  | v :: rest => v.anonymous :: anonymousList rest

end

mutual

theorem Value.anonymous_anonymous : ∀ v : Value, v.anonymous.anonymous = v.anonymous
  | .object o => congrArg Value.object o.anonymous_anonymous
  | .int _ | .float _ | .error _ | .unsupported | .divByZero | .iterStop => rfl

theorem Object.anonymous_anonymous : ∀ o : Object, o.anonymous.anonymous = o.anonymous
  | ⟨_, cls, data⟩ => congrArg (Object.mk 0 cls) data.anonymous_anonymous

theorem ObjectData.anonymous_anonymous : ∀ d : ObjectData, d.anonymous.anonymous = d.anonymous
  | .method receiver name func =>
    congrArg (ObjectData.method · name func) receiver.anonymous_anonymous
  | .code c => congrArg ObjectData.code c.anonymous_anonymous
  | .plain | .text _ | .exception | .fields => rfl

theorem CodeObject.anonymous_anonymous : ∀ c : CodeObject, c.anonymous.anonymous = c.anonymous
  | ⟨name, argcount, names, attrs, consts, bytecode⟩ =>
    congrArg (CodeObject.mk name argcount names attrs · bytecode)
      (anonymousList_anonymousList consts)

theorem anonymousList_anonymousList :
    ∀ vs : List Value, anonymousList (anonymousList vs) = anonymousList vs
  | [] => rfl
  | v :: rest => by
    rw [anonymousList, anonymousList, v.anonymous_anonymous, anonymousList_anonymousList rest]

end

theorem anonymousList_eq_map (vs : List Value) : anonymousList vs = vs.map Value.anonymous := by
  induction vs with
  | nil => rfl
  | cons v rest ih => rw [anonymousList, ih, List.map_cons]

namespace CodeObject

variable (c : CodeObject)

@[simp] theorem anonymous_name : c.anonymous.name = c.name := by cases c; rfl

@[simp] theorem anonymous_argcount : c.anonymous.argcount = c.argcount := by cases c; rfl

@[simp] theorem anonymous_names : c.anonymous.names = c.names := by cases c; rfl

@[simp] theorem anonymous_bytecode : c.anonymous.bytecode = c.bytecode := by cases c; rfl

@[simp] theorem anonymous_consts : c.anonymous.consts = c.consts.map Value.anonymous := by
  cases c
  exact anonymousList_eq_map _

end CodeObject

namespace Value

variable (v : Value)

theorem cls?_anonymous : v.anonymous.cls? = v.cls? := by
  cases v with
  | object o =>
    obtain ⟨id, cls, data⟩ := o
    rfl
  | _ => rfl

theorem text?_anonymous : v.anonymous.text? = v.text? := by
  cases v with
  | object o =>
    obtain ⟨id, cls, data⟩ := o
    cases data <;> rfl
  | _ => rfl

theorem code?_anonymous : v.anonymous.code? = v.code?.map CodeObject.anonymous := by
  cases v with
  | object o =>
    obtain ⟨id, cls, data⟩ := o
    cases data <;> rfl
  | _ => rfl

theorem number?_anonymous : v.anonymous.number? = v.number? := by
  cases v <;> rfl

theorem holds_anonymous : v.anonymous.holds = v.holds := by
  cases v with
  | object o =>
    obtain ⟨id, cls, data⟩ := o
    cases data <;> rfl
  | _ => rfl

theorem line_anonymous : v.anonymous.line = v.line := by
  cases v with
  | object o =>
    obtain ⟨id, cls, data⟩ := o
    cases data with
    | code c => exact congrArg (fun name => "<code " ++ name ++ ">") c.anonymous_name
    | _ => rfl
  | _ => rfl

theorem anonymous_of_number {v : Value} (number : v = .divByZero ∨ v.number?.isSome) :
    v.anonymous = v := by
  cases v with
  | object o => rcases number with eq | number <;> contradiction
  | _ => rfl

theorem classNameOf_anonymous (h : Hierarchy) : h.classNameOf v.anonymous = h.classNameOf v := by
  unfold Hierarchy.classNameOf
  rw [cls?_anonymous]

end Value

theorem intArithWith_anonymous (op : Arithmetic) (x : Int64) (b : Value) :
    intArithWith op.op x b.anonymous = (intArithWith op.op x b).anonymous := by
  cases b with
  | int y => exact (Value.anonymous_of_number (intArith_zero_or_number op x y)).symm
  | float y =>
    have signal : (floatArith op.op (.ofInt x) y).anonymous = floatArith op.op (.ofInt x) y :=
      Value.anonymous_of_number (floatArith_zero_or_number op (.ofInt x) y)
    by_cases promoted : op.op.promotes
    · simp [intArithWith, Value.anonymous, promoted, signal]
    · simp [intArithWith, Value.anonymous, promoted]
  | _ => rfl

theorem floatArithWith_anonymous (op : Arithmetic) (x : Double) (b : Value) :
    floatArithWith op.op x b.anonymous = (floatArithWith op.op x b).anonymous := by
  unfold floatArithWith
  rw [Value.number?_anonymous]
  cases b.number? with
  | some y => exact (Value.anonymous_of_number (floatArith_zero_or_number op x y)).symm
  | none => rfl

namespace Effect

/-- The effect with all identities forgotten. -/
def anonymous : Effect → Effect
  | give v => give v.anonymous
  | e => e

theorem orElse_anonymous (e e' : Effect) :
    e.anonymous.orElse e'.anonymous = (e.orElse e').anonymous := by
  cases e with
  | give v => cases v <;> rfl
  | text s | throw c => rfl

theorem settle_anonymous (token left right : String) (e : Effect) :
    e.anonymous.settle token left right = (e.settle token left right).anonymous := by
  cases e with
  | give v => cases v <;> rfl
  | text s | throw c => rfl

theorem concat_anonymous (s : String) (b : Value) :
    concat s b.anonymous = (concat s b).anonymous := by
  unfold concat
  rw [Value.text?_anonymous]
  cases b.text? <;> rfl

theorem copies_anonymous (s : String) (b : Value) :
    copies s b.anonymous = (copies s b).anonymous := by
  cases b with
  | int n =>
    change copies s (.int n) = _
    unfold copies
    dsimp only
    split <;> rfl
  | _ => rfl

theorem forward_anonymous (op : Arithmetic) (a b : Value) :
    forward op a.anonymous b.anonymous = (forward op a b).anonymous := by
  cases a with
  | int x => exact congrArg give (intArithWith_anonymous op x b)
  | float x => exact congrArg give (floatArithWith_anonymous op x b)
  | object o =>
    obtain ⟨id, cls, data⟩ := o
    cases data with
    | text s =>
      cases op with
      | add => exact concat_anonymous s b
      | mul => exact copies_anonymous s b
      | sub | div | mod | pow => rfl
    | _ => rfl
  | _ => rfl

theorem reflected_anonymous (op : Arithmetic) (b a : Value) :
    reflected op b.anonymous a.anonymous = (reflected op b a).anonymous := by
  cases b with
  | float y =>
    cases op with
    | mod =>
      change give ((a.anonymous.number?.map fun x => floatArith .mod x y).getD .unsupported) =
        anonymous (give ((a.number?.map fun x => floatArith .mod x y).getD .unsupported))
      rw [Value.number?_anonymous]
      cases a.number? with
      | some x =>
        exact congrArg give (Value.anonymous_of_number (floatArith_zero_or_number .mod x y)).symm
      | none => rfl
    | add | sub | mul | div | pow => rfl
  | object o =>
    obtain ⟨id, cls, data⟩ := o
    cases data with
    | text s =>
      cases op with
      | mul => exact copies_anonymous s a
      | add | sub | div | mod | pow => rfl
    | _ => rfl
  | _ => rfl

theorem arith_anonymous (h : Hierarchy) (op : Arithmetic) (a b : Value) :
    arith h op a.anonymous b.anonymous = (arith h op a b).anonymous := by
  unfold arith
  rw [forward_anonymous, reflected_anonymous, orElse_anonymous, settle_anonymous,
    Value.classNameOf_anonymous, Value.classNameOf_anonymous]

theorem sign_anonymous (h : Hierarchy) (s : Sign) (v : Value) :
    sign h s v.anonymous = (sign h s v).anonymous := by
  cases v with
  | int n | float x => cases s <;> rfl
  | object o =>
    have named := Value.classNameOf_anonymous (.object o) h
    exact congrArg (fun name => throw (.unsupportedOperand s.op.token name)) named
  | _ => rfl

end Effect

namespace Frame

/-- The frame with all identities forgotten. -/
def anonymous (f : Frame) : Frame :=
  { f with
    code := f.code.anonymous
    locals := f.locals.map (·.map Value.anonymous)
    stack := f.stack.map Value.anonymous }

end Frame

/-- The plan with all identities forgotten. -/
def Plan.anonymous : Plan → Plan
  | next f => .next f.anonymous
  | result f e => .result f.anonymous e.anonymous
  | print f line => .print f.anonymous line
  | call f code args => .call f.anonymous code.anonymous (args.map Value.anonymous)
  | leave answer => .leave (answer.map Value.anonymous)
  | fail f cause => .fail f.anonymous cause

namespace Frame

variable (f : Frame)

theorem anonymous_anonymous : f.anonymous.anonymous = f.anonymous := by
  simp [anonymous, CodeObject.anonymous_anonymous, Function.comp_def, Value.anonymous_anonymous]

theorem pop?_anonymous :
    f.anonymous.pop? = f.pop?.map fun p => (p.1.anonymous, p.2.anonymous) := by
  simp [pop?, anonymous, Function.comp_def]

theorem target?_anonymous (dir : Direction) (offset : Nat) :
    f.anonymous.target? dir offset = f.target? dir offset := by
  simp [target?, anonymous]

theorem planPop_anonymous {go go' : Value → Frame → Plan}
    (later : ∀ v g, go' v.anonymous g.anonymous = (go v g).anonymous) :
    f.anonymous.planPop go' = (f.planPop go).anonymous := by
  unfold planPop
  rw [pop?_anonymous]
  cases f.pop? with
  | none => rfl
  | some p => exact later p.1 p.2

theorem planJump_anonymous (dir : Direction) (offset : Nat) :
    f.anonymous.planJump dir offset = (f.planJump dir offset).anonymous := by
  unfold planJump
  rw [target?_anonymous]
  cases f.target? dir offset <;> rfl

theorem planJumpIf_anonymous (wanted : Bool) (dir : Direction) (offset : Nat) :
    f.anonymous.planJumpIf wanted dir offset = (f.planJumpIf wanted dir offset).anonymous := by
  refine f.planPop_anonymous fun v g => ?_
  rw [Value.holds_anonymous]
  split
  next => exact g.planJump_anonymous dir offset
  next => rfl

theorem planStore_anonymous (slot : Nat) :
    f.anonymous.planStore slot = (f.planStore slot).anonymous := by
  refine f.planPop_anonymous fun v g => ?_
  have size : g.anonymous.locals.size = g.locals.size := Array.size_map
  rw [size]
  split
  next => simp [Plan.anonymous, anonymous, Array.map_setIfInBounds]
  next => rfl

theorem planLoad_anonymous (slot : Nat) :
    f.anonymous.planLoad slot = (f.planLoad slot).anonymous := by
  have found : f.anonymous.locals[slot]? = f.locals[slot]?.map (·.map Value.anonymous) :=
    Array.getElem?_map
  unfold planLoad
  rw [found]
  cases f.locals[slot]? with
  | none => rfl
  | some bound =>
    cases bound with
    | some v => rfl
    | none => simp [Plan.anonymous, Effect.anonymous, localName, anonymous]

theorem planCall_anonymous (h : Hierarchy) (argc : Nat) :
    f.anonymous.planCall h argc = (f.planCall h argc).anonymous := by
  have size : f.anonymous.stack.size = f.stack.size := Array.size_map
  have args : (f.anonymous.stack.extract (f.stack.size - argc) f.stack.size).toList =
      (f.stack.extract (f.stack.size - argc) f.stack.size).toList.map Value.anonymous := by
    simp [anonymous]
  have lower : { f.anonymous with stack := f.anonymous.stack.take (f.stack.size - argc) } =
      ({ f with stack := f.stack.take (f.stack.size - argc) } : Frame).anonymous := by
    simp [anonymous, Array.take]
  unfold planCall
  rw [size]
  split
  next => rfl
  next =>
    dsimp only
    rw [args, lower]
    refine planPop_anonymous _ fun callee g => ?_
    rw [Value.code?_anonymous, Value.classNameOf_anonymous]
    cases callee.code? with
    | some code =>
      change (if code.anonymous.argcount = argc then _ else _ : Plan) = _
      simp only [CodeObject.anonymous_name, CodeObject.anonymous_argcount]
      split <;> rfl
    | none => rfl

theorem planOf_anonymous (h : Hierarchy) (i : Instruction) :
    f.anonymous.planOf h i = (f.planOf h i).anonymous := by
  cases i with
  | nop | loadInt n | loadFloat x => rfl
  | loadConst index =>
    have found : f.anonymous.code.consts[index.toNat]? =
        f.code.consts[index.toNat]?.map Value.anonymous := by simp [anonymous]
    unfold planOf
    dsimp only
    rw [found]
    cases f.code.consts[index.toNat]? <;> rfl
  | arith op =>
    refine f.planPop_anonymous fun b g => g.planPop_anonymous fun a k => ?_
    rw [Effect.arith_anonymous]
    rfl
  | sign s =>
    refine f.planPop_anonymous fun v g => ?_
    rw [Effect.sign_anonymous]
    rfl
  | store slot => exact f.planStore_anonymous slot.toNat
  | load slot => exact f.planLoad_anonymous slot.toNat
  | print =>
    refine f.planPop_anonymous fun v g => ?_
    rw [Value.line_anonymous]
    rfl
  | jump dir guard offset =>
    cases guard with
    | always => exact f.planJump_anonymous dir offset.toNat
    | ifTrue => exact f.planJumpIf_anonymous true dir offset.toNat
    | ifFalse => exact f.planJumpIf_anonymous false dir offset.toNat
  | call argc => exact f.planCall_anonymous h argc.toNat
  | ret => simp [planOf, Plan.anonymous, anonymous]

theorem plan_anonymous (h : Hierarchy) : f.anonymous.plan h = (f.plan h).anonymous := by
  have size : f.anonymous.code.bytecode = f.code.bytecode := f.code.anonymous_bytecode
  have pos : f.anonymous.pos = f.pos := rfl
  unfold plan
  rw [size, pos]
  split
  next => simp [Plan.anonymous, anonymous]
  next =>
    cases Instruction.decode f.code.bytecode f.pos with
    | error cause => rfl
    | ok p => exact planOf_anonymous { f with pos := p.2 } h p.1

end Frame

mutual

/-- What is loaded depends on the machine in its identities only. -/
theorem Const.load_anonymous (h h' : Hierarchy) :
    ∀ (c : Const) (s s' : Store), (c.load h s).1.anonymous = (c.load h' s').1.anonymous
  | .int _, _, _ | .float _, _, _ | .str _, _, _ => rfl
  | .code c, s, s' =>
    congrArg (fun c => Value.object ⟨0, .code, .code c⟩) (Segment.load_anonymous h h' c s s')

theorem Segment.load_anonymous (h h' : Hierarchy) :
    ∀ (c : Segment) (s s' : Store), (c.load h s).1.anonymous = (c.load h' s').1.anonymous
  | ⟨name, argcount, names, attrs, consts, code⟩, s, s' =>
    congrArg (CodeObject.mk name argcount.toNat names attrs · code)
      (loadConsts_anonymous h h' consts s s')

theorem loadConsts_anonymous (h h' : Hierarchy) : ∀ (cs : List Const) (s s' : Store),
    anonymousList (loadConsts cs h s).1 = anonymousList (loadConsts cs h' s').1
  | [], _, _ => rfl
  | c :: rest, s, s' => by
    have first := Const.load_anonymous h h' c s s'
    have others := loadConsts_anonymous h h' rest (c.load h s).2 (c.load h' s').2
    change (c.load h s).1.anonymous :: anonymousList (loadConsts rest h (c.load h s).2).1 =
      (c.load h' s').1.anonymous :: anonymousList (loadConsts rest h' (c.load h' s').2).1
    rw [first, others]

end

end SlotVM
