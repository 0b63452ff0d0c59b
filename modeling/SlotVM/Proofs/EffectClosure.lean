import SlotVM.Proofs.InlineArithmetic

namespace SlotVM

namespace Value

theorem Storable.not_sentinel {v : Value} (hv : v.Storable) : v.isSentinel = false := by
  cases hv <;> rfl

theorem Storable.not_active {v : Value} (hv : v.Storable) (heap : Heap) :
    heap.isActive v = false := by
  cases hv <;> rfl

/-- The value can be stored, or it is a signal of an operator. -/
def Answer (v : Value) : Prop := v.Storable ∨ v = .unsupported ∨ v = .divByZero

theorem Answer.of_zero_or_number {v : Value} (h : v = .divByZero ∨ v.number?.isSome) :
    v.Answer := by
  rcases h with zero | number
  · exact .inr (.inr zero)
  · exact .inl (.of_number number)

end Value

theorem intArithWith_answer (op : Arithmetic) (x : Int64) (b : Value) :
    (intArithWith op.op x b).Answer := by
  cases b with
  | int y => exact .of_zero_or_number (intArith_zero_or_number op x y)
  | float y =>
    by_cases promoted : op.op.promotes
    · have eq : intArithWith op.op x (.float y) = floatArith op.op (.ofInt x) y := if_pos promoted
      exact eq ▸ .of_zero_or_number (floatArith_zero_or_number op (.ofInt x) y)
    · have eq : intArithWith op.op x (.float y) = .unsupported := if_neg promoted
      exact eq ▸ .inr (.inl rfl)
  | _ => exact .inr (.inl rfl)

theorem floatArithWith_answer (op : Arithmetic) (x : Double) (b : Value) :
    (floatArithWith op.op x b).Answer := by
  unfold floatArithWith
  cases b.number? with
  | some y => exact .of_zero_or_number (floatArith_zero_or_number op x y)
  | none => exact .inr (.inl rfl)

namespace Effect

/-- The classes of the exceptions that a running program can throw. -/
def thrownClasses : List ClassId :=
  [.typeException, .nameException, .divisionByZeroException, .exception]

/-- The effect gives a value that can be stored or throws an exception of one of these classes. -/
def Closed : Effect → Prop
  | give v => v.Storable
  | text _ => True
  | throw c => c.cls ∈ thrownClasses

/-- The same of an effect that can still decline or signal a division by zero. -/
def Answers : Effect → Prop
  | give v => v.Answer
  | text _ => True
  | throw c => c.cls ∈ thrownClasses

theorem Closed.final {e : Effect} (closed : e.Closed) : e.Final := by
  cases e with
  | give v => exact ⟨Value.Storable.not_sentinel closed, Value.Storable.not_active closed⟩
  | text s => trivial
  | throw c => trivial

theorem Answers.orElse {e e' : Effect} (he : e.Answers) (he' : e'.Answers) :
    (e.orElse e').Answers := by
  cases e with
  | give v =>
    cases v with
    | unsupported => exact he'
    | _ => exact he
  | text s => exact he
  | throw c => exact he

theorem Answers.settle {e : Effect} (he : e.Answers) (token left right : String) :
    (e.settle token left right).Closed := by
  cases e with
  | give v =>
    rcases he with storable | rfl | rfl
    · cases storable with
      | int n => exact .int n
      | float x => exact .float x
      | text id s => exact .text id s
      | code consts => exact .code consts
    · exact List.mem_cons_self
    · simp [Effect.settle, Closed, thrownClasses, Condition.cls]
  | text s => exact he
  | throw c => exact he

theorem concat_answers (s : String) (b : Value) : (concat s b).Answers := by
  unfold concat
  cases b.text? with
  | some t => trivial
  | none => exact .inr (.inl rfl)

theorem copies_answers (s : String) (b : Value) : (copies s b).Answers := by
  cases b with
  | int n =>
    unfold copies
    dsimp only
    split
    next => trivial
    next => simp [Answers, thrownClasses, Condition.cls]
  | _ => exact .inr (.inl rfl)

theorem forward_answers (op : Arithmetic) {a : Value} (ha : a.Storable) (b : Value) :
    (forward op a b).Answers := by
  cases ha with
  | int x => exact intArithWith_answer op x b
  | float x => exact floatArithWith_answer op x b
  | text id s =>
    cases op with
    | add => exact concat_answers s b
    | mul => exact copies_answers s b
    | sub | div | mod | pow => exact .inr (.inl rfl)
  | code consts => exact .inr (.inl rfl)

theorem reflected_answers (op : Arithmetic) {b : Value} (hb : b.Storable) (a : Value) :
    (reflected op b a).Answers := by
  cases hb with
  | int y => exact .inr (.inl rfl)
  | float y =>
    cases op with
    | mod =>
      have eq : reflected .mod (.float y) a =
          give ((a.number?.map fun x => floatArith .mod x y).getD .unsupported) := rfl
      rw [eq]
      cases a.number? with
      | some x => exact .of_zero_or_number (floatArith_zero_or_number .mod x y)
      | none => exact .inr (.inl rfl)
    | add | sub | mul | div | pow => exact .inr (.inl rfl)
  | text id s =>
    cases op with
    | mul => exact copies_answers s a
    | add | sub | div | mod | pow => exact .inr (.inl rfl)
  | code consts => exact .inr (.inl rfl)

theorem arith_closed (h : Hierarchy) (op : Arithmetic) {a b : Value} (ha : a.Storable)
    (hb : b.Storable) : (arith h op a b).Closed :=
  ((forward_answers op ha b).orElse (reflected_answers op hb a)).settle _ _ _

theorem sign_closed (h : Hierarchy) (s : Sign) {v : Value} (hv : v.Storable) :
    (sign h s v).Closed := by
  cases hv with
  | int n => cases s <;> exact .int _
  | float x => cases s <;> exact .float _
  | text id t => exact List.mem_cons_self
  | code consts => exact List.mem_cons_self

end Effect

end SlotVM
