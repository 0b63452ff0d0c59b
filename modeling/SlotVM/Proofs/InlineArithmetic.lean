import SlotVM.Proofs.IntegerArithmetic
import SlotVM.Proofs.OperatorEffect

namespace SlotVM

theorem Value.Storable.of_number {v : Value} (number : v.number?.isSome) : v.Storable := by
  cases v with
  | int n => exact .int n
  | float x => exact .float x
  | _ => cases number

theorem intArith_zero_or_number (op : Arithmetic) (x y : Int64) :
    intArith op.op x y = .divByZero ∨ (intArith op.op x y).number?.isSome := by
  rcases intArith_divByZero_or_int op.op x y with zero | ⟨r, answer⟩
  · exact .inl zero
  · exact .inr (by rw [answer]; rfl)

theorem floatArith_zero_or_number (op : Arithmetic) (x y : Double) :
    floatArith op.op x y = .divByZero ∨ (floatArith op.op x y).number?.isSome := by
  cases op with
  | div | mod =>
    by_cases zero : y.isZero
    · exact .inl (if_pos zero)
    · exact .inr (by simp [floatArith, Arithmetic.op, zero, Value.number?])
  | add | sub | mul | pow => exact .inr rfl

theorem numberArith?_zero_or_number (op : Arithmetic) {a b : Value} (ha : a.number?.isSome)
    (hb : b.number?.isSome) :
    ∃ v, numberArith? op.op a b = some v ∧ (v = .divByZero ∨ v.number?.isSome) := by
  cases a with
  | int x =>
    cases b with
    | int y => exact ⟨_, rfl, intArith_zero_or_number op x y⟩
    | float y => exact ⟨_, rfl, floatArith_zero_or_number op (.ofInt x) y⟩
    | _ => cases hb
  | float x =>
    cases b with
    | int y => exact ⟨_, rfl, floatArith_zero_or_number op x (.ofInt y)⟩
    | float y => exact ⟨_, rfl, floatArith_zero_or_number op x y⟩
    | _ => cases hb
  | _ => cases ha

theorem number_of_numberArith? {op : BinaryOp} {a b v : Value} (h : numberArith? op a b = some v) :
    a.number?.isSome ∧ b.number?.isSome := by
  cases a with
  | int x | float x =>
    cases b with
    | int y | float y => exact ⟨rfl, rfl⟩
    | _ => cases h
  | _ => cases b <;> cases h

theorem intArith_codeless (op : BinaryOp) (x y : Int64) : (intArith op x y).code? = none := by
  cases op with
  | div | mod =>
    by_cases zero : y = 0
    · simp [intArith, zero, Value.code?]
    · simp [intArith, zero, Value.code?]
  | _ => rfl

theorem floatArith_codeless (op : BinaryOp) (x y : Double) : (floatArith op x y).code? = none := by
  cases op with
  | div | mod =>
    by_cases zero : y.isZero
    · simp [floatArith, zero, Value.code?]
    · simp [floatArith, zero, Value.code?]
  | _ => rfl

theorem intArithWith_codeless (op : BinaryOp) (x : Int64) (b : Value) :
    (intArithWith op x b).code? = none := by
  cases b with
  | int y => exact intArith_codeless op x y
  | float y =>
    show (if op.promotes then floatArith op (.ofInt x) y else .unsupported).code? = none
    split
    next => exact floatArith_codeless op (.ofInt x) y
    next => rfl
  | _ => rfl

theorem floatArithWith_codeless (op : BinaryOp) (x : Double) (b : Value) :
    (floatArithWith op x b).code? = none := by
  unfold floatArithWith
  split
  next y _ => exact floatArith_codeless op x y
  next => rfl

theorem numberArith?_codeless {op : BinaryOp} {a b v : Value} (h : numberArith? op a b = some v) :
    v.code? = none := by
  unfold numberArith? at h
  split at h
  next => cases h; exact intArith_codeless op _ _
  next => cases h; exact floatArith_codeless op _ _
  next => cases h; exact floatArith_codeless op _ _
  next => cases h; exact floatArith_codeless op _ _
  next => cases h

theorem orderingValue_codeless (o : Ordering) : (orderingValue o).code? = none := by
  cases o <;> rfl

theorem orderingValue?_codeless (o : Option Ordering) : (orderingValue? o).code? = none := by
  cases o with
  | none => rfl
  | some o => exact orderingValue_codeless o

namespace Effect

theorem orElse_give {v : Value} (answers : v = .divByZero ∨ v.number?.isSome) (e : Effect) :
    (give v).orElse e = give v := by
  cases v with
  | unsupported => rcases answers with eq | number <;> contradiction
  | _ => rfl

/-- An integer modulo a floating-point number is declined at first and then left to the reflected
slot; all else is answered by the slot of the left class. -/
theorem forward_orElse_reflected {op : Arithmetic} {a b v : Value}
    (h : numberArith? op.op a b = some v) (answers : v = .divByZero ∨ v.number?.isSome) :
    (forward op a b).orElse (reflected op b a) = give v := by
  cases a with
  | int x =>
    cases b with
    | int y => cases h; exact orElse_give answers _
    | float y =>
      cases h
      cases op with
      | mod => rfl
      | add | sub | mul | div | pow => exact orElse_give answers _
    | _ => cases h
  | float x =>
    cases b with
    | int y | float y => cases h; exact orElse_give answers _
    | _ => cases h
  | _ => cases b <;> cases h

theorem arith_numbers (h : Hierarchy) (op : Arithmetic) {a b : Value} (ha : a.number?.isSome)
    (hb : b.number?.isSome) :
    (numberArith? op.op a b = some .divByZero ∧ arith h op a b = throw .divisionByZero) ∨
      ∃ v, numberArith? op.op a b = some v ∧ v.number?.isSome ∧ arith h op a b = give v := by
  obtain ⟨v, found, answers⟩ := numberArith?_zero_or_number op ha hb
  have settled : arith h op a b =
      (give v).settle op.op.token (h.classNameOf a) (h.classNameOf b) := by
    rw [arith, forward_orElse_reflected found answers]
  rcases answers with rfl | number
  · exact .inl ⟨found, settled⟩
  · refine .inr ⟨v, found, number, settled.trans ?_⟩
    cases v with
    | int n | float x => rfl
    | _ => cases number

theorem sign_number (h : Hierarchy) (s : Sign) {v : Value} (hv : v.number?.isSome) :
    ∃ w, w.number?.isSome ∧ sign h s v = give w := by
  cases v with
  | int n => cases s <;> exact ⟨_, rfl, rfl⟩
  | float x => cases s <;> exact ⟨_, rfl, rfl⟩
  | _ => cases hv

end Effect

namespace Operation

variable (host : Host) {h : Hierarchy}

/-- An operator as the machine carries it out. -/
def inlineBinary (op : BinaryOp) (a b : Value) : Run Value :=
  match numberArith? op a b with
  | some .divByZero => Exception.throwing .divisionByZero
  | some v => pure v
  | none => binary host op a b

/-- A sign as the machine carries it out. -/
def inlineUnary (s : Sign) (v : Value) : Run Value :=
  match s, v with
  | .plus, .int n => pure (.int n)
  | .plus, .float x => pure (.float x)
  | .minus, .int n => pure (.int (-n))
  | .minus, .float x => pure (.float x.neg)
  | s, v => unary host s.op v

theorem of_inlineBinary (standard : h.Standard) (op : Arithmetic) {a b : Value} (ha : a.Storable)
    (hb : b.Storable) : Effect.Of h (inlineBinary host op.op a b) (.arith h op a b) := by
  unfold inlineBinary
  cases found : numberArith? op.op a b with
  | none => exact of_arith host standard op ha hb
  | some v =>
    obtain ⟨na, nb⟩ := number_of_numberArith? found
    rcases Effect.arith_numbers h op na nb with ⟨zero, effect⟩ | ⟨w, number, hw, effect⟩
    · cases found.symm.trans zero
      rw [effect]
      exact Effect.of_throw .divisionByZero
    · cases found.symm.trans number
      rw [effect]
      cases v with
      | int n | float x => exact Effect.of_give _
      | _ => cases hw

theorem of_inlineUnary (standard : h.Standard) (s : Sign) {v : Value} (hv : v.Storable) :
    Effect.Of h (inlineUnary host s v) (.sign h s v) := by
  cases hv with
  | int n => cases s <;> exact Effect.of_give _
  | float x => cases s <;> exact Effect.of_give _
  | text id t => cases s <;> exact of_unary host standard _ (.text id t)
  | code consts => cases s <;> exact of_unary host standard _ (.code consts)

end Operation

namespace Frame

variable (host : Host) (config : Config)

/-- The frame with an operand on top of the others. -/
def operand (f : Frame) (v : Value) : Frame := { f with stack := f.stack.push v }

theorem pop?_operand (f : Frame) (v : Value) : (f.operand v).pop? = some (v, f) := by
  simp [pop?, operand]

theorem arith_eq (f : Frame) (op : BinaryOp) : f.arith host config op =
    match f.pop? with
    | none => pure (f.fault .stackUnderflow)
    | some (b, f) =>
      match f.pop? with
      | none => pure (f.fault .stackUnderflow)
      | some (a, f) => Operation.inlineBinary host op a b >>= f.pushResult config := by
  unfold arith
  cases f.pop? with
  | none => rfl
  | some p =>
    obtain ⟨b, f⟩ := p
    dsimp only
    cases f.pop? with
    | none => rfl
    | some p =>
      obtain ⟨a, f⟩ := p
      dsimp only [Operation.inlineBinary]
      cases numberArith? op a b with
      | none => rfl
      | some v => cases v <;> rfl

theorem sign_eq (f : Frame) (s : Sign) : f.sign host config s =
    match f.pop? with
    | none => pure (f.fault .stackUnderflow)
    | some (v, f) => Operation.inlineUnary host s v >>= f.pushResult config := by
  unfold sign
  cases f.pop? with
  | none => rfl
  | some p =>
    obtain ⟨v, f⟩ := p
    cases s <;> cases v <;> rfl

end Frame

namespace Effect

variable {h : Hierarchy}

/-- What an operation on numbers gives, and what becomes of the frame: the number is pushed, or the
exception of a division by zero is raised. -/
inductive NumericStep (config : Config) (f : Frame) (heap : Heap) : Value → Action → Prop
  | pushed {v : Value} : v.number?.isSome → NumericStep config f heap v (f.push config v)
  | raised {o : Object} : o.cls = .divisionByZeroException →
      heap.exception? o = some ⟨some "division or modulo by zero", true⟩ →
      NumericStep config f heap (.object o) (.raise (.object o))

/-- The effect gives a number, or it throws the exception of a division by zero. -/
def Numeric (e : Effect) : Prop :=
  e = throw .divisionByZero ∨ ∃ v, v.number?.isSome ∧ e = give v

theorem Numeric.final {e : Effect} (numeric : e.Numeric) : e.Final := by
  rcases numeric with rfl | ⟨v, number, rfl⟩
  · trivial
  · cases v with
    | int n | float x => exact ⟨rfl, fun _ => rfl⟩
    | _ => cases number

theorem clamp_divisionByZero :
    clamp Condition.divisionByZero.message Exception.maxMessage = "division or modulo by zero" := by
  decide

theorem Numeric.step {e : Effect} (numeric : e.Numeric) (config : Config) (f : Frame)
    (heap : Heap) :
    NumericStep config f (e.perform heap).2 (e.perform heap).1 (e.act config f heap).1 := by
  rcases numeric with rfl | ⟨v, number, rfl⟩
  · refine .raised rfl ?_
    simp [perform, Heap.alloc, Heap.exception?, clamp_divisionByZero]
  · exact .pushed number

theorem Numeric.alike {c d : Run Value} {e : Effect} (hc : Of h c e) (hd : Of h d e)
    (numeric : e.Numeric) (config : Config) (f : Frame) {cache : Resolver} (sound : cache.Sound h)
    (heap : Heap) :
    let inline := (c >>= f.pushResult config).run h ⟨cache, heap⟩
    let generic := d.run h ⟨cache, heap⟩
    inline.2.heap = generic.2.heap ∧
      NumericStep config f generic.2.heap generic.1 inline.1 ∧
      inline.1 = ((f.pushResult config generic.1).run h generic.2).1 := by
  intro inline generic
  obtain ⟨value, heap', -⟩ := hd heap cache sound
  obtain ⟨action, heap'', -⟩ := hc.pushResult numeric.final config f heap cache sound
  obtain ⟨action', -, -⟩ := hd.pushResult numeric.final config f heap cache sound
  have same : (e.act config f heap).2 = (e.perform heap).2 := by cases e <;> rfl
  have step := numeric.step config f heap
  refine ⟨heap''.trans (same.trans heap'.symm), ?_, action.trans action'.symm⟩
  rw [← value, ← heap', ← action] at step
  exact step

end Effect

namespace Frame

/-- Operators and signs lead the machine where the slots of the classes of numbers would lead it. -/
theorem inline_arithmetic_eq_slots (config : Config) (requests : List Request) (host : Host)
    (heap : Heap) (f : Frame) :
    let vm := (Vm.new config).serveAll requests
    let store : Store := { vm.store with heap }
    (∀ (op : Arithmetic) (a b : Value), a.number?.isSome → b.number?.isSome →
      let inline := (((f.operand a).operand b).arith host config op.op).run vm.hierarchy store
      let generic := (Operation.binary host op.op a b).run vm.hierarchy store
      inline.2.heap = generic.2.heap ∧
        Effect.NumericStep config f generic.2.heap generic.1 inline.1 ∧
        inline.1 = ((f.pushResult config generic.1).run vm.hierarchy generic.2).1) ∧
    ∀ (s : Sign) (v : Value), v.number?.isSome →
      let inline := ((f.operand v).sign host config s).run vm.hierarchy store
      let generic := (Operation.unary host s.op v).run vm.hierarchy store
      inline.2.heap = generic.2.heap ∧
        Effect.NumericStep config f generic.2.heap generic.1 inline.1 ∧
        inline.1 = ((f.pushResult config generic.1).run vm.hierarchy generic.2).1 := by
  intro vm store
  have consistent : vm.Consistent := (Vm.new_consistent config).serveAll requests
  refine ⟨fun op a b ha hb => ?_, fun s v hv => ?_⟩
  · have hc := Operation.of_inlineBinary host consistent.standard op (.of_number ha) (.of_number hb)
    have hd := Operation.of_arith host consistent.standard op (.of_number ha) (.of_number hb)
    have numeric : (Effect.arith vm.hierarchy op a b).Numeric := by
      rcases Effect.arith_numbers vm.hierarchy op ha hb with ⟨-, eq⟩ | ⟨w, -, number, eq⟩
      · exact .inl eq
      · exact .inr ⟨w, number, eq⟩
    have opened : ((f.operand a).operand b).arith host config op.op =
        Operation.inlineBinary host op.op a b >>= f.pushResult config := by
      simp only [arith_eq, pop?_operand]
    rw [opened]
    exact numeric.alike hc hd config f consistent.sound heap
  · have hc := Operation.of_inlineUnary host consistent.standard s (.of_number hv)
    have hd := Operation.of_unary host consistent.standard s (.of_number hv)
    have numeric : (Effect.sign vm.hierarchy s v).Numeric := .inr (Effect.sign_number _ s hv)
    have opened : (f.operand v).sign host config s =
        Operation.inlineUnary host s v >>= f.pushResult config := by
      simp only [sign_eq, pop?_operand]
    rw [opened]
    exact numeric.alike hc hd config f consistent.sound heap

/-- An integer modulo zero, after the slot for it was searched for. -/
theorem inline_seven_mod_zero :
    let vm := (Vm.new {}).serveAll [.resolve .int (.binary .mod)]
    let f : Frame := .enter 0 ⟨"f", 0, [], [], [], #[]⟩ []
    let inline := (((f.operand (.int 7)).operand (.float .zero)).arith .none {} .mod).run
      vm.hierarchy vm.store
    let generic := (Operation.binary .none .mod (.int 7) (.float .zero)).run vm.hierarchy vm.store
    (Value.int 7).number?.isSome ∧ (Value.float .zero).number?.isSome ∧
      Effect.NumericStep {} f generic.2.heap generic.1 inline.1 :=
  ⟨rfl, rfl, ((inline_arithmetic_eq_slots {} [.resolve .int (.binary .mod)] .none .empty
    (.enter 0 ⟨"f", 0, [], [], [], #[]⟩ [])).1 .mod (.int 7) (.float .zero) rfl rfl).2.1⟩

end Frame

end SlotVM
