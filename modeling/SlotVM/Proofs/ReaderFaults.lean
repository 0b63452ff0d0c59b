import SlotVM.Module.Reader

namespace SlotVM

/-- The causes for which a module is not loaded. -/
inductive Fault.Loading : Fault → Prop
  | badSignature (name : String) : Loading (.badSignature name)
  | unexpectedByte (context : String) (byte : UInt8) : Loading (.unexpectedByte context byte)
  | unexpectedEnd (context : String) : Loading (.unexpectedEnd context)
  | verification : Loading .verification
  | nestingTooDeep : Loading .nestingTooDeep
  | duplicateParameter (function parameter : String) :
      Loading (.duplicateParameter function parameter)

namespace Reader

variable {α β : Type}

/-- A property of the basic readers that is kept when one reader follows another. -/
structure Law (holds : ∀ {α : Type}, Reader α → Prop) : Prop where
  take (n : Nat) : holds (take n)
  byte : holds byte
  fail {α : Type} {cause : Fault} (loading : cause.Loading) : holds (fail cause : Reader α)
  pure {α : Type} (a : α) : holds (pure a : Reader α)
  bind {α β : Type} {r : Reader α} {f : α → Reader β} (first : holds r)
    (later : ∀ a, holds (f a)) : holds (r >>= f)

namespace Law

variable {holds : ∀ {α : Type}, Reader α → Prop} (law : Law holds)

include law

theorem word (width : Nat) : holds (Reader.word width) :=
  law.bind (law.take width) fun _ => law.pure _

theorem expect (marker : UInt8) : holds (Reader.expect marker) := by
  refine law.bind law.byte fun b => ?_
  split
  next => exact law.fail (.unexpectedByte _ _)
  next => exact law.pure _

theorem text : holds Reader.text := by
  refine law.bind (law.word 2) fun n => law.bind (law.take n) fun bytes => ?_
  split
  next => exact law.pure _
  next => exact law.fail (.unexpectedByte _ _)

theorem times {r : Reader α} (hr : holds r) (n : Nat) : holds (Reader.times r n) := by
  induction n with
  | zero => exact law.pure _
  | succ n ih => exact law.bind hr fun a => law.bind ih fun rest => law.pure _

theorem symbols : holds Reader.symbols := by
  refine law.bind (law.expect _) fun _ => law.bind (law.word 2) fun n => ?_
  exact law.bind (law.times law.text n) fun _ => law.bind (law.expect _) fun _ => law.pure _

theorem const {segment : String → Reader Segment} (hs : ∀ name, holds (segment name)) :
    holds (Reader.const segment) := by
  refine law.bind law.byte fun marker => ?_
  split
  next => exact law.bind (law.word 8) fun _ => law.pure _
  next =>
    split
    next => exact law.bind (law.word 8) fun _ => law.pure _
    next =>
      split
      next => exact law.bind law.text fun _ => law.pure _
      next =>
        split
        next =>
          exact law.bind law.text fun name => law.bind (hs name) fun _ => law.pure _
        next => exact law.fail (.unexpectedByte _ _)

theorem consts {segment : String → Reader Segment} (hs : ∀ name, holds (segment name)) :
    holds (Reader.consts segment) := by
  refine law.bind (law.expect _) fun _ => law.bind (law.word 2) fun n => ?_
  exact law.bind (law.times (law.const hs) n) fun _ =>
    law.bind (law.expect _) fun _ => law.pure _

theorem checkArguments (s : Segment) :
    holds (liftM (Reader.checkArguments s) : Reader Unit) := by
  unfold Reader.checkArguments
  split
  next => exact law.fail .verification
  next =>
    split
    next => exact law.fail (.duplicateParameter _ _)
    next => exact law.pure ()

theorem segment (depth : Nat) (name : String) : holds (Reader.segment depth name) := by
  induction depth generalizing name with
  | zero => exact law.fail .nestingTooDeep
  | succ depth ih =>
    refine law.bind law.byte fun _ => law.bind law.symbols fun _ => ?_
    refine law.bind law.symbols fun _ => law.bind (law.consts ih) fun _ => ?_
    refine law.bind (law.word 4) fun n => law.bind (law.take n) fun _ => ?_
    exact law.bind (law.checkArguments _) fun _ => law.pure _

end Law

/-- The reader fails for no other cause. -/
def Careful (r : Reader α) : Prop := ∀ bytes cause, r bytes = .error cause → cause.Loading

theorem bind_eq_error {r : Reader α} {f : α → Reader β} {bytes : List UInt8} {cause : Fault} :
    (r >>= f) bytes = .error cause ↔ r bytes = .error cause ∨
      ∃ a rest, r bytes = .ok (a, rest) ∧ f a rest = .error cause := by
  change (r bytes).bind (fun p => f p.1 p.2) = .error cause ↔ _
  cases r bytes with
  | error e => simp [Except.bind]
  | ok p => simp [Except.bind, Prod.ext_iff, and_assoc]

theorem careful_law : Law @Careful where
  take n bytes cause h := by
    simp only [take] at h
    split at h
    next => cases h; exact .unexpectedEnd _
    next => cases h
  byte bytes cause h := by
    cases bytes with
    | nil => cases h; exact .unexpectedEnd _
    | cons b rest => cases h
  fail loading bytes cause h := by
    cases h
    exact loading
  pure a bytes cause h := nomatch h
  bind hr hf bytes cause h := by
    rcases bind_eq_error.mp h with first | ⟨a, rest, -, later⟩
    · exact hr bytes cause first
    · exact hf a rest cause later

end Reader

theorem Segment.readModule_careful {bytes : List UInt8} {cause : Fault}
    (h : readModule bytes = .error cause) : cause.Loading := by
  unfold readModule at h
  split at h
  next => cases h; exact .badSignature _
  next =>
    split at h
    next failed => cases h; exact Reader.careful_law.segment _ _ _ _ failed
    next => cases h
    next => cases h; exact .unexpectedByte _ _

end SlotVM
