import SlotVM.Proofs.BuiltinSlots
import SlotVM.Proofs.Effect

namespace SlotVM

/-- What the variables and operands of a running program hold: a number, a text of the class of
texts, or code whose constants are of this kind again. -/
inductive Value.Storable : Value → Prop
  | int (n : Int64) : Storable (.int n)
  | float (x : Double) : Storable (.float x)
  | text (id : Nat) (s : String) : Storable (.object ⟨id, .text, .text s⟩)
  | code {id : Nat} {c : CodeObject} :
      (∀ v ∈ c.consts, Storable v) → Storable (.object ⟨id, .code, .code c⟩)

/-- The description of the class of such a value. -/
def Value.spec : Value → ClassSpec
  | .int _ => .int
  | .float _ => .float
  | .object ⟨_, _, .text _⟩ => .text
  | _ => .code

theorem Value.Storable.isBuiltin {v : Value} (hv : v.Storable) :
    ∃ cls, v.cls? = some cls ∧ Hierarchy.IsBuiltin cls v.spec := by
  cases hv with
  | int n => exact ⟨_, rfl, Hierarchy.isBuiltin_int⟩
  | float x => exact ⟨_, rfl, Hierarchy.isBuiltin_float⟩
  | text id s => exact ⟨_, rfl, Hierarchy.isBuiltin_text⟩
  | code consts => exact ⟨_, rfl, Hierarchy.isBuiltin_code⟩

theorem Hierarchy.Standard.lookup_storable {h : Hierarchy} (standard : h.Standard) {v : Value}
    (hv : v.Storable) {cls : ClassId} (hc : v.cls? = some cls) (slot : Slot) :
    h.lookup cls slot = (v.spec.slots slot).or (ClassSpec.object.slots slot) := by
  obtain ⟨k, hk, hb⟩ := hv.isBuiltin
  rw [hc] at hk
  cases hk
  exact standard.lookup_eq hb slot

/-- Resolving a slot of such a value is as good as knowing the built-in classes. -/
theorem Run.Yields.bind_slot {β : Type} {h : Hierarchy} (standard : h.Standard) {v : Value}
    (hv : v.Storable) {cls : ClassId} (hc : v.cls? = some cls) {slot : Slot}
    {f : Option (Native slot.signature) → Run β} {heap : Heap} {r : β × Heap}
    (hf : Yields h (f ((v.spec.slots slot).or (ClassSpec.object.slots slot))) heap r) :
    Yields h (resolve cls slot >>= f) heap r := by
  rw [← standard.lookup_storable hv hc slot] at hf
  exact hf.bind_resolve

namespace Effect

/-- A text before another one. -/
def concat (s : String) (other : Value) : Effect :=
  match other.text? with
  | some t => text (s ++ t)
  | none => give .unsupported

/-- Copies of a text, up to the greatest length of a repeated text. -/
def copies (s : String) : Value → Effect
  | .int n =>
    if s.utf8ByteSize * n.toInt.toNat ≤ maxRepeat then text (repeatText s n.toInt.toNat)
    else throw (.repeatTooLong s.utf8ByteSize n)
  | _ => give .unsupported

/-- The effect of the slot that the class of the left operand has for an operator. -/
def forward (op : Arithmetic) (a b : Value) : Effect :=
  match a, op with
  | .int x, op => give (intArithWith op.op x b)
  | .float x, op => give (floatArithWith op.op x b)
  | .object ⟨_, _, .text s⟩, .add => concat s b
  | .object ⟨_, _, .text s⟩, .mul => copies s b
  | _, _ => give .unsupported

/-- The effect of the reflected slot that the class of the right operand has for an operator. -/
def reflected (op : Arithmetic) (b a : Value) : Effect :=
  match b, op with
  | .float y, .mod => give ((a.number?.map fun x => floatArith .mod x y).getD .unsupported)
  | .object ⟨_, _, .text s⟩, .mul => copies s a
  | _, _ => give .unsupported

/-- The effect of an operator. -/
def arith (h : Hierarchy) (op : Arithmetic) (a b : Value) : Effect :=
  ((forward op a b).orElse (reflected op b a)).settle op.op.token (h.classNameOf a)
    (h.classNameOf b)

def sign (h : Hierarchy) (s : Sign) : Value → Effect
  | .int n => give (intSign s.op n)
  | .float x => give (floatSign s.op x)
  | v => throw (.unsupportedOperand s.op.token (h.classNameOf v))

end Effect

namespace Operation

variable (host : Host)

/-- What a slot answers on two operands; one that is not there declines. -/
def slotAnswer (f : Option (Native .binary)) (a b : Value) : Run Value :=
  match f with
  | some f => f.fn host a b
  | none => pure .unsupported

theorem reflectedAnswer_eq (op : BinaryOp) (right : ClassId) (a b result : Value) :
    (if result.isUnsupported = true then do
      match ← Run.resolve right (.reflected op) with
      | some f => f.fn host b a
      | none => return result
    else return result) =
      (if result.isUnsupported = true then
        Run.resolve right (.reflected op) >>= fun g => slotAnswer host g b a
      else pure result : Run Value) := by
  cases result with
  | unsupported =>
    simp only [Value.isUnsupported, if_true]
    exact bind_congr fun g => by cases g <;> rfl
  | _ => rfl

/-- A slot is asked first, and the reflected slot where the first one declines. -/
theorem binaryRaw_eq {op : BinaryOp} {a b : Value} {left right : ClassId}
    (ha : a.cls? = some left) (hb : b.cls? = some right) :
    binaryRaw host op a b = Run.resolve left (.binary op) >>= fun f =>
      slotAnswer host f a b >>= fun result =>
        if result.isUnsupported = true then
          Run.resolve right (.reflected op) >>= fun g => slotAnswer host g b a
        else pure result := by
  unfold binaryRaw withClass
  simp only [ha, hb]
  refine bind_congr fun f => ?_
  cases f with
  | none => exact bind_congr fun result => reflectedAnswer_eq host op right a b result
  | some f => exact bind_congr fun result => reflectedAnswer_eq host op right a b result

variable {h : Hierarchy}

theorem of_binary {op : BinaryOp} {a b : Value} {left right : ClassId} {e e' : Effect}
    (ha : a.cls? = some left) (hb : b.cls? = some right)
    (forward : Effect.Of h (slotAnswer host (h.lookup left (.binary op)) a b) e)
    (reflected : Effect.Of h (slotAnswer host (h.lookup right (.reflected op)) b a) e') :
    Effect.Of h (binary host op a b)
      ((e.orElse e').settle op.token (h.classNameOf a) (h.classNameOf b)) := by
  have raw : Effect.Of h (binaryRaw host op a b) (e.orElse e') := by
    intro heap
    rw [binaryRaw_eq host ha hb]
    have second : Effect.Of h
        (Run.resolve right (.reflected op) >>= fun g => slotAnswer host g b a) e' :=
      fun heap => (reflected heap).bind_resolve
    exact (forward.orElse second heap).bind_resolve
  exact raw.settle op.token a b

theorem isA_text_eq (standard : h.Standard) {v : Value} (hv : v.Storable) :
    h.isA v .text = v.text?.isSome := by
  obtain ⟨cls, hc, hb⟩ := hv.isBuiltin
  have subclass := standard.isSubclass_eq hb .text
  rw [Hierarchy.isA, hc, Option.any_some, subclass]
  cases hv <;> cases hc <;> rfl

theorem concat_run (this other : Value) (s : Store) : Builtin.concat this other h s =
    (if h.isA other .text then Run.newText (this.textOf ++ other.textOf)
      else pure .unsupported : Run Value) h s := rfl

theorem of_concat (standard : h.Standard) (id : Nat) (s : String) {b : Value} (hb : b.Storable) :
    Effect.Of h (Builtin.concat (.object ⟨id, .text, .text s⟩) b) (.concat s b) := by
  intro heap cache sound
  rw [concat_run, isA_text_eq standard hb, Effect.concat, Value.textOf, Value.textOf]
  cases b.text? with
  | none => exact Effect.of_give _ heap cache sound
  | some t => exact Effect.of_text _ heap cache sound

theorem of_copies (this b : Value) :
    Effect.Of h (Builtin.copies this b) (.copies this.textOf b) := by
  cases b with
  | int n =>
    unfold Effect.copies Builtin.copies
    dsimp only
    split
    next => exact Effect.of_text _
    next => exact Effect.of_throw _
  | _ => exact Effect.of_give _

theorem of_reflectedMod (x : Double) (a : Value) :
    Effect.Of h (slotAnswer host (some (.builtin .floatReflectedMod)) (.float x) a)
      (.give ((a.number?.map fun y => floatArith .mod y x).getD .unsupported)) := by
  change Effect.Of h (Builtin.binary .floatReflectedMod (.float x) a) _
  simp only [Builtin.binary]
  cases a.number? <;> exact Effect.of_give _

theorem of_forward (standard : h.Standard) {op : Arithmetic} {a b : Value} (ha : a.Storable)
    (hb : b.Storable) {left : ClassId} (hl : a.cls? = some left) :
    Effect.Of h (slotAnswer host (h.lookup left (.binary op.op)) a b) (.forward op a b) := by
  rw [standard.lookup_storable ha hl]
  cases ha with
  | int x =>
    rw [Value.spec, ClassSpec.int_binary]
    exact Effect.of_give _
  | float x =>
    rw [Value.spec, ClassSpec.float_binary]
    exact Effect.of_give _
  | text id s =>
    cases op with
    | add => exact of_concat standard id s hb
    | mul => exact of_copies (.object ⟨id, .text, .text s⟩) b
    | sub | div | mod | pow => exact Effect.of_give _
  | code consts => cases op <;> exact Effect.of_give _

theorem of_reflected (standard : h.Standard) {op : Arithmetic} {a b : Value} (hb : b.Storable)
    {right : ClassId} (hr : b.cls? = some right) :
    Effect.Of h (slotAnswer host (h.lookup right (.reflected op.op)) b a) (.reflected op b a) := by
  rw [standard.lookup_storable hb hr]
  cases hb with
  | int x =>
    rw [Value.spec, ClassSpec.int_reflected]
    cases op <;> exact Effect.of_give _
  | float x =>
    rw [Value.spec, ClassSpec.float_reflected]
    cases op with
    | mod => exact of_reflectedMod host x a
    | add | sub | mul | div | pow => exact Effect.of_give _
  | text id s =>
    cases op with
    | mul => exact of_copies (.object ⟨id, .text, .text s⟩) a
    | add | sub | div | mod | pow => exact Effect.of_give _
  | code consts => cases op <;> exact Effect.of_give _

theorem of_arith (standard : h.Standard) (op : Arithmetic) {a b : Value} (ha : a.Storable)
    (hb : b.Storable) : Effect.Of h (binary host op.op a b) (.arith h op a b) := by
  obtain ⟨left, hl, -⟩ := ha.isBuiltin
  obtain ⟨right, hr, -⟩ := hb.isBuiltin
  exact of_binary host hl hr (of_forward host standard ha hb hl) (of_reflected host standard hb hr)

theorem of_throw_nameOf (c : String → Condition) (cls : ClassId) :
    Effect.Of h (nameOf cls >>= fun name => Exception.throwing (c name))
      (.throw (c (h.nameOf cls))) :=
  fun _ _ sound => ⟨rfl, rfl, sound⟩

/-- A sign asks the slot of the class. -/
theorem of_unary (standard : h.Standard) (s : Sign) {v : Value} (hv : v.Storable) :
    Effect.Of h (unary host s.op v) (.sign h s v) := by
  intro heap
  have hv' := hv
  cases hv with
  | int n =>
    refine .bind_slot standard hv' rfl ?_
    cases s <;> exact .of_pure _ heap
  | float x =>
    refine .bind_slot standard hv' rfl ?_
    cases s <;> exact .of_pure _ heap
  | text id t =>
    refine .bind_slot standard hv' rfl ?_
    cases s <;> exact of_throw_nameOf (.unsupportedOperand _) .text heap
  | code consts =>
    refine .bind_slot standard hv' rfl ?_
    cases s <;> exact of_throw_nameOf (.unsupportedOperand _) .code heap

theorem of_call (standard : h.Standard) {v : Value} (hv : v.Storable) (notCode : v.code? = none)
    (args : List Value) :
    Effect.Of h (call host v args) (.throw (.notCallable (h.classNameOf v))) := by
  intro heap
  have hv' := hv
  cases hv with
  | int n => exact .bind_slot standard hv' rfl (of_throw_nameOf .notCallable .int heap)
  | float x => exact .bind_slot standard hv' rfl (of_throw_nameOf .notCallable .float heap)
  | text id t => exact .bind_slot standard hv' rfl (of_throw_nameOf .notCallable .text heap)
  | code consts => cases notCode

end Operation

end SlotVM
