import SlotVM.Proofs.InlineArithmetic

namespace SlotVM

/-- The functions of two operands may resolve slots, but leave nothing in the cache that a search
would not find. -/
def Host.KeepsCache (host : Host) : Prop :=
  ∀ (i : Nat) (a b : Value) (h : Hierarchy) (s : Store), s.resolver.Sound h →
    (host .binary i a b h s).2.resolver.Sound h

namespace Operation

/-- The places where an operator looks for a slot. -/
inductive Rung where
  | inplace
  | forward
  | reflected

namespace Rung

def resolve (op : BinaryOp) (cls : ClassId) : Rung → Run (Option (Native .binary))
  | inplace => Run.resolve cls (.inplace op)
  | forward => Run.resolve cls (.binary op)
  | reflected => Run.resolve cls (.reflected op)

def lookup (h : Hierarchy) (op : BinaryOp) (cls : ClassId) : Rung → Option (Native .binary)
  | inplace => h.lookup cls (.inplace op)
  | forward => h.lookup cls (.binary op)
  | reflected => h.lookup cls (.reflected op)

end Rung

structure Question where
  rung : Rung
  cls : ClassId
  receiver : Value
  argument : Value

/-- A question with the function that the class has for it, if any, and the answer. -/
structure Attempt extends Question where
  func : Option (Native .binary)
  answer : Value

variable (host : Host) (op : BinaryOp)

/-- Asks one slot; a class without it declines. -/
def ask (q : Question) : Run Value :=
  q.rung.resolve op q.cls >>= fun f => slotAnswer host f q.receiver q.argument

/-- The attempt was made in the first store and left the second one. -/
inductive Asked (h : Hierarchy) (s : Store) (q : Attempt) (s' : Store) : Prop
  | intro {s₁ : Store} (resolved : q.rung.resolve op q.cls h s = (q.func, s₁))
      (answered : slotAnswer host q.func q.receiver q.argument h s₁ = (q.answer, s'))

variable {a b : Value} {left right : ClassId}

/-- Both slots of the plain operator, the second one where the first one declines. -/
theorem binaryRaw_eq_ask (ha : a.cls? = some left) (hb : b.cls? = some right) :
    binaryRaw host op a b = ask host op ⟨.forward, left, a, b⟩ >>= fun v =>
      if v.isUnsupported = true then ask host op ⟨.reflected, right, b, a⟩ else pure v := by
  rw [binaryRaw_eq host ha hb]
  rfl

variable {host op} {h : Hierarchy} {s s' : Store}

theorem Rung.resolve_sound (rung : Rung) (cls : ClassId) (sound : s.resolver.Sound h) :
    (rung.resolve op cls h s).1 = rung.lookup h op cls ∧
      (rung.resolve op cls h s).2.resolver.Sound h := by
  cases rung with
  | inplace => exact ⟨Resolver.resolve_fst sound cls _, sound.resolve cls _⟩
  | forward => exact ⟨Resolver.resolve_fst sound cls _, sound.resolve cls _⟩
  | reflected => exact ⟨Resolver.resolve_fst sound cls _, sound.resolve cls _⟩

theorem binary_quiet (f : Builtin .binary) (a b : Value) (h : Hierarchy) (s : Store) :
    (f.binary a b h s).2.resolver = s.resolver ∧ (f.binary a b h s).1.code? = none := by
  cases f with
  | intArith op => exact ⟨rfl, intArithWith_codeless op a.intOf b⟩
  | floatArith op => exact ⟨rfl, floatArithWith_codeless op a.numberOf b⟩
  | intCompare =>
    cases b with
    | int y => exact ⟨rfl, orderingValue_codeless _⟩
    | float y => exact ⟨rfl, orderingValue?_codeless _⟩
    | _ => exact ⟨rfl, rfl⟩
  | floatCompare =>
    simp only [Builtin.binary]
    cases b.number? with
    | none => exact ⟨rfl, rfl⟩
    | some y => exact ⟨rfl, orderingValue?_codeless _⟩
  | floatReflectedMod =>
    simp only [Builtin.binary]
    cases b.number? with
    | none => exact ⟨rfl, rfl⟩
    | some x => exact ⟨rfl, floatArith_codeless .mod x _⟩
  | textCompare =>
    show ((if h.isA b .text = true then _ else _ : Run Value) h s).2.resolver = _ ∧
      ((if h.isA b .text = true then _ else _ : Run Value) h s).1.code? = none
    cases h.isA b .text with
    | true => exact ⟨rfl, orderingValue_codeless _⟩
    | false => exact ⟨rfl, rfl⟩
  | textConcat =>
    show ((if h.isA b .text = true then _ else _ : Run Value) h s).2.resolver = _ ∧
      ((if h.isA b .text = true then _ else _ : Run Value) h s).1.code? = none
    cases h.isA b .text with
    | true => exact ⟨rfl, rfl⟩
    | false => exact ⟨rfl, rfl⟩
  | textRepeat =>
    simp only [Builtin.binary, Builtin.copies]
    split
    next n => split <;> exact ⟨rfl, rfl⟩
    next => exact ⟨rfl, rfl⟩
  | textGet =>
    simp only [Builtin.binary, Builtin.charAt]
    split
    next i =>
      generalize (place? i.toInt a.textOf.toList.length).bind _ = char
      cases char <;> exact ⟨rfl, rfl⟩
    next => exact ⟨rfl, rfl⟩

theorem slotAnswer_sound (keeps : host.KeepsCache) (f : Option (Native .binary)) (a b : Value)
    (sound : s.resolver.Sound h) : (slotAnswer host f a b h s).2.resolver.Sound h := by
  cases f with
  | none => exact sound
  | some f =>
    cases f with
    | builtin f =>
      show (f.binary a b h s).2.resolver.Sound h
      rw [(binary_quiet f a b h s).1]
      exact sound
    | host i => exact keeps i a b h s sound

theorem Asked.sound {q : Attempt} (asked : Asked host op h s q s') (keeps : host.KeepsCache)
    (sound : s.resolver.Sound h) :
    q.func = q.rung.lookup h op q.cls ∧ s'.resolver.Sound h := by
  obtain ⟨resolved, answered⟩ := asked
  obtain ⟨found, sound'⟩ := q.rung.resolve_sound q.cls sound
  rw [resolved] at found sound'
  refine ⟨found, ?_⟩
  have kept := slotAnswer_sound keeps q.func q.receiver q.argument sound'
  rw [answered] at kept
  exact kept

end Operation

end SlotVM
