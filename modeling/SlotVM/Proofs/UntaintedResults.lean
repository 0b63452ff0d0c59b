import SlotVM.Proofs.CleanFrames
import SlotVM.Proofs.OperatorFallback

namespace SlotVM

/-- The functions of the embedding program that an operation can call never give code with an error
record or a signal among its constants. -/
structure Host.Untainted (host : Host) : Prop where
  unary : ∀ i v h s, (host .unary i v h s).1.Untainted
  binary : ∀ i a b h s, (host .binary i a b h s).1.Untainted
  call : ∀ i v args h s, (host .call i v args h s).1.Untainted
  method : ∀ i v args h s, (host .method i v args h s).1.Untainted

/-- On every store the computation gives a value with the property. -/
def Run.Gives (P : Value → Prop) (c : Run Value) : Prop := ∀ h s, P (c h s).1

namespace Operation

variable {P : Value → Prop}

theorem gives_pure {v : Value} (hv : P v) : Run.Gives P (pure v) := fun _ _ => hv

theorem gives_bind {α : Type} {c : Run α} {f : α → Run Value} (later : ∀ x, (f x).Gives P) :
    (c >>= f).Gives P :=
  fun h s => later (c h s).1 h (c h s).2

theorem gives_bind_value {c : Run Value} {f : Value → Run Value} (now : c.Gives P)
    (later : ∀ v, P v → (f v).Gives P) : (c >>= f).Gives P :=
  fun h s => later (c h s).1 (now h s) h (c h s).2

theorem throwing_untainted (c : Condition) : (Exception.throwing c).Gives Value.Untainted :=
  fun _ _ => Value.untainted_of_codeless rfl

theorem internal_untainted (what : String) : (Run.internal what).Gives Value.Untainted :=
  fun _ _ => Value.untainted_of_codeless rfl

theorem withClass_untainted {v : Value} {go : ClassId → Run Value}
    (later : ∀ cls, (go cls).Gives Value.Untainted) : (withClass v go).Gives Value.Untainted := by
  unfold withClass
  split
  next cls _ => exact later cls
  next => exact internal_untainted _

theorem settle_untainted (token : String) (a b : Value) {v : Value} (hv : v.Untainted) :
    (settle token a b v).Gives Value.Untainted := by
  cases v with
  | unsupported => exact gives_bind fun left => gives_bind fun right => throwing_untainted _
  | divByZero => exact throwing_untainted _
  | int | float | object | error | iterStop => exact gives_pure hv

theorem unary_codeless (f : Builtin .unary) (v : Value) (h : Hierarchy) (s : Store) :
    (f.unary v h s).1.code? = none := by
  cases f with
  | intSign op => cases op <;> rfl
  | floatSign op => cases op <;> rfl
  | intToInt | intToFloat | floatToInt | floatToFloat => rfl

variable {host : Host} (untainted : host.Untainted)

include untainted

theorem slotAnswer_untainted (f : Option (Native .binary)) (a b : Value) :
    (slotAnswer host f a b).Gives Value.Untainted := by
  intro h s
  cases f with
  | none => exact Value.untainted_of_codeless rfl
  | some f =>
    cases f with
    | builtin f => exact Value.untainted_of_codeless (binary_quiet f a b h s).2
    | host i => exact untainted.binary i a b h s

theorem ask_untainted (op : BinaryOp) (q : Question) :
    (ask host op q).Gives Value.Untainted :=
  gives_bind fun f => slotAnswer_untainted untainted f q.receiver q.argument

theorem binaryRaw_untainted (op : BinaryOp) (a b : Value) :
    (binaryRaw host op a b).Gives Value.Untainted := by
  cases ha : a.cls? with
  | none =>
    unfold binaryRaw withClass
    rw [ha]
    exact internal_untainted _
  | some left =>
    cases hb : b.cls? with
    | none =>
      unfold binaryRaw withClass
      rw [ha, hb]
      exact internal_untainted _
    | some right =>
      rw [binaryRaw_eq_ask host op ha hb]
      refine gives_bind_value (ask_untainted untainted op _) fun v hv => ?_
      split
      next => exact ask_untainted untainted op _
      next => exact gives_pure hv

theorem inlineBinary_untainted (op : BinaryOp) (a b : Value) :
    (inlineBinary host op a b).Gives Value.Untainted := by
  unfold inlineBinary
  split
  next => exact throwing_untainted _
  next v _ found => exact gives_pure (Value.untainted_of_codeless (numberArith?_codeless found))
  next =>
    exact gives_bind_value (binaryRaw_untainted untainted op a b) fun v hv =>
      settle_untainted op.token a b hv

theorem unaryAnswer_untainted (f : Native .unary) (v : Value) :
    (f.fn host v).Gives Value.Untainted := by
  intro h s
  cases f with
  | builtin f => exact Value.untainted_of_codeless (unary_codeless f v h s)
  | host i => exact untainted.unary i v h s

theorem unary_untainted (op : UnaryOp) (v : Value) :
    (unary host op v).Gives Value.Untainted := by
  refine withClass_untainted fun cls => gives_bind fun f => ?_
  have declined : (nameOf cls >>= fun name =>
      Exception.throwing (.unsupportedOperand op.token name)).Gives Value.Untainted :=
    gives_bind fun name => throwing_untainted _
  cases f with
  | none => exact declined
  | some f =>
    refine gives_bind_value (unaryAnswer_untainted untainted f v) fun answer ha => ?_
    dsimp only
    split
    next => exact declined
    next => exact gives_pure ha

theorem inlineUnary_untainted (s : Sign) (v : Value) :
    (inlineUnary host s v).Gives Value.Untainted := by
  unfold inlineUnary
  split
  next => exact gives_pure (Value.untainted_of_codeless rfl)
  next => exact gives_pure (Value.untainted_of_codeless rfl)
  next => exact gives_pure (Value.untainted_of_codeless rfl)
  next => exact gives_pure (Value.untainted_of_codeless rfl)
  next => exact unary_untainted untainted s.op v

theorem invokeMethod_untainted (f : Native .method) (receiver : Value) (args : List Value) :
    (invokeMethod host f receiver args).Gives Value.Untainted := by
  intro h s
  cases f with
  | builtin f => cases f <;> exact Value.untainted_of_codeless rfl
  | host i => exact untainted.method i receiver args h s

theorem call_untainted (f : Value) (args : List Value) :
    (call host f args).Gives Value.Untainted := by
  refine withClass_untainted fun cls => gives_bind fun found => ?_
  cases found with
  | none => exact gives_bind fun name => throwing_untainted _
  | some g =>
    cases g with
    | host i => exact untainted.call i f args
    | builtin g =>
      cases g with
      | methodCall =>
        show (Builtin.call host .methodCall f args).Gives _
        simp only [Builtin.call]
        split
        next => exact invokeMethod_untainted untainted _ _ args
        next => exact internal_untainted _

theorem callOperation_untainted {f g : Frame} {argc : Nat} {op : Run Value}
    (operation : f.callOperation? host argc = some (g, op)) : op.Gives Value.Untainted := by
  unfold Frame.callOperation? at operation
  split at operation
  next => cases operation
  next =>
    dsimp only at operation
    split at operation
    next => cases operation
    next callee _ _ =>
      split at operation
      next code _ =>
        split at operation
        next => cases operation
        next =>
          cases operation
          exact throwing_untainted _
      next =>
        cases operation
        exact call_untainted untainted callee _

theorem operationOf_untainted {f g : Frame} {i : Instruction} {op : Run Value}
    (operation : f.operationOf? host i = some (g, op)) : op.Gives Value.Untainted := by
  cases i with
  | arith a =>
    simp only [Frame.operationOf?] at operation
    split at operation
    next => cases operation
    next =>
      split at operation
      next => cases operation
      next =>
        cases operation
        exact inlineBinary_untainted untainted a.op _ _
  | sign s =>
    simp only [Frame.operationOf?] at operation
    split at operation
    next => cases operation
    next =>
      cases operation
      exact inlineUnary_untainted untainted s _
  | call argc => exact callOperation_untainted untainted operation
  | nop | loadInt | loadFloat | loadConst | store | load | print | jump | ret => cases operation

theorem operation_untainted {f g : Frame} {op : Run Value}
    (operation : f.operation? host = some (g, op)) : op.Gives Value.Untainted := by
  unfold Frame.operation? at operation
  split at operation
  next => cases operation
  next =>
    split at operation
    next => cases operation
    next => exact operationOf_untainted untainted operation

end Operation

end SlotVM
