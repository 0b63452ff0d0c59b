import Mathlib.Data.List.Forall2
import SlotVM.Proofs.StepCases

namespace SlotVM

/-- Sequences of the same length, related place by place. -/
def Pointwise {α β : Type} (R : α → β → Prop) (a : Array α) (b : Array β) : Prop :=
  ∀ i : Nat, Option.Rel R a[i]? b[i]?

section

variable {α β : Type} {R : α → β → Prop} {l : List α} {l' : List β} {a : Array α} {b : Array β}

theorem forall₂_getElem? (related : List.Forall₂ R l l') (i : Nat) :
    Option.Rel R l[i]? l'[i]? := by
  induction related generalizing i with
  | nil => exact .none
  | cons first _ ih =>
    cases i with
    | zero => exact .some first
    | succ i => exact ih i

theorem forall₂_of_getElem? (related : ∀ i : Nat, Option.Rel R l[i]? l'[i]?) :
    List.Forall₂ R l l' := by
  induction l generalizing l' with
  | nil =>
    cases l' with
    | nil => exact .nil
    | cons y rest => cases related 0
  | cons x rest ih =>
    cases l' with
    | nil => cases related 0
    | cons y rest' =>
      cases related 0 with
      | some first => exact .cons first (ih fun i => related (i + 1))

theorem pointwise_iff : Pointwise R a b ↔ List.Forall₂ R a.toList b.toList := by
  constructor
  · intro related
    refine forall₂_of_getElem? fun i => ?_
    rw [Array.getElem?_toList, Array.getElem?_toList]
    exact related i
  · intro related i
    rw [← Array.getElem?_toList, ← Array.getElem?_toList]
    exact forall₂_getElem? related i

theorem pointwise_empty : Pointwise R #[] #[] := fun _ => .none

namespace Pointwise

theorem size_eq (related : Pointwise R a b) : b.size = a.size := by
  have lengths := (pointwise_iff.mp related).length_eq
  simpa using lengths.symm

theorem back? (related : Pointwise R a b) : Option.Rel R a.back? b.back? := by
  rw [Array.back?_eq_getElem?, Array.back?_eq_getElem?, related.size_eq]
  exact related _

theorem pop (related : Pointwise R a b) : Pointwise R a.pop b.pop := by
  intro i
  rw [Array.getElem?_pop, Array.getElem?_pop, related.size_eq]
  split
  next => exact related i
  next => exact .none

theorem push (related : Pointwise R a b) {x : α} {y : β} (last : R x y) :
    Pointwise R (a.push x) (b.push y) := by
  intro i
  rw [Array.getElem?_push, Array.getElem?_push, related.size_eq]
  split
  next => exact .some last
  next => exact related i

theorem setIfInBounds (related : Pointwise R a b) (place : Nat) {x : α} {y : β} (new : R x y) :
    Pointwise R (a.setIfInBounds place x) (b.setIfInBounds place y) := by
  intro i
  rw [Array.getElem?_setIfInBounds, Array.getElem?_setIfInBounds, related.size_eq]
  split
  next =>
    split
    next => exact .some new
    next => exact .none
  next => exact related i

theorem extract (related : Pointwise R a b) (start stop : Nat) :
    Pointwise R (a.extract start stop) (b.extract start stop) := by
  intro i
  rw [Array.getElem?_extract, Array.getElem?_extract, related.size_eq]
  split
  next => exact related _
  next => exact .none

end Pointwise

end

/-- The unit of code without its constants. -/
def CodeObject.shell (c : CodeObject) : CodeObject := { c with consts := [] }

/-- A way in which units of code may differ, apart from their constants. -/
structure Variation where
  own : CodeObject → CodeObject → Prop
  /-- Names may be spelled differently. -/
  renames : Prop
  /-- Where the first run fails, nothing is said about the second one. -/
  forgives : Prop

variable {V : Variation}

/-- Values that can be stored, the same up to identities and the variation of code. -/
inductive Value.Variant (V : Variation) : Value → Value → Prop
  | int (n : Int64) : Variant V (.int n) (.int n)
  | float (x : Double) : Variant V (.float x) (.float x)
  | text (id id' : Nat) (s : String) :
      Variant V (.object ⟨id, .text, .text s⟩) (.object ⟨id', .text, .text s⟩)
  | code {id id' : Nat} {c c' : CodeObject} : V.own c.shell c'.shell →
      List.Forall₂ (Variant V) c.consts c'.consts →
      Variant V (.object ⟨id, .code, .code c⟩) (.object ⟨id', .code, .code c'⟩)

/-- Units of code that differ in the given way, and their constants likewise. -/
structure CodeObject.Variant (V : Variation) (c c' : CodeObject) : Prop where
  own : V.own c.shell c'.shell
  consts : List.Forall₂ (Value.Variant V) c.consts c'.consts

/-- Code that goes on from where other code ends: what is read of the first part stays, and the
position where it ends is the end again or a return. -/
structure Continues (code code' : Array UInt8) : Prop where
  size_le : code.size ≤ code'.size
  decode : ∀ {pos : Nat} {r : Instruction × Nat}, pos < code.size →
    Instruction.decode code pos = .ok r → Instruction.decode code' pos = .ok r
  ends : ∀ {pos : Nat}, code.size ≤ pos →
    code'.size ≤ pos ∨ ∃ next, Instruction.decode code' pos = .ok (.ret, next)

theorem continues_refl (code : Array UInt8) : Continues code code :=
  ⟨Nat.le_refl _, fun _ decoded => decoded, .inl⟩

/-- What runs rely on: only names are free, and only where that is allowed, and code may go on where
that is forgiven. -/
structure Variation.Lawful (V : Variation) : Prop where
  name : ∀ {c c' : CodeObject}, V.own c c' → c'.name = c.name
  argcount : ∀ {c c' : CodeObject}, V.own c c' → c'.argcount = c.argcount
  count : ∀ {c c' : CodeObject}, V.own c c' → c'.names.length = c.names.length
  names : ∀ {c c' : CodeObject}, V.own c c' → V.renames ∨ c'.names = c.names
  continues : ∀ {c c' : CodeObject}, V.own c c' → Continues c.bytecode c'.bytecode
  bytecode : ∀ {c c' : CodeObject}, V.own c c' → V.forgives ∨ c'.bytecode = c.bytecode

structure Frame.Variant (V : Variation) (f f' : Frame) : Prop where
  depth : f'.depth = f.depth
  code : f.code.Variant V f'.code
  locals : Pointwise (Option.Rel (Value.Variant V)) f.locals f'.locals
  stack : Pointwise (Value.Variant V) f.stack f'.stack
  pos : f'.pos = f.pos

/-- The same effect up to the variation; an unbound variable may have another name. -/
inductive Effect.Variant (V : Variation) : Effect → Effect → Prop
  | give {v v' : Value} : v.Variant V v' → Variant V (.give v) (.give v')
  | text (s : String) : Variant V (.text s) (.text s)
  | throw (c : Condition) : Variant V (.throw c) (.throw c)
  | unbound (name name' : String) : V.renames →
      Variant V (.throw (.unboundName name)) (.throw (.unboundName name'))

/-- The same plan up to the variation; a failure that is forgiven goes with any plan. -/
inductive Plan.Variant (V : Variation) : Plan → Plan → Prop
  | next {f f' : Frame} : f.Variant V f' → Variant V (.next f) (.next f')
  | result {f f' : Frame} {e e' : Effect} : f.Variant V f' → e.Variant V e' →
      Variant V (.result f e) (.result f' e')
  | print {f f' : Frame} (line : String) : f.Variant V f' →
      Variant V (.print f line) (.print f' line)
  | call {f f' : Frame} {code code' : CodeObject} {args args' : List Value} : f.Variant V f' →
      code.Variant V code' → List.Forall₂ (Value.Variant V) args args' →
      Variant V (.call f code args) (.call f' code' args')
  | leave {answer answer' : Option Value} : Option.Rel (Value.Variant V) answer answer' →
      Variant V (.leave answer) (.leave answer')
  | fail {f f' : Frame} (cause : Fault) : f.Variant V f' →
      Variant V (.fail f cause) (.fail f' cause)
  | forgiven {f : Frame} {cause : Fault} (p : Plan) : V.forgives → Variant V (.fail f cause) p

namespace CodeObject.Variant

variable {c c' : CodeObject}

theorem name_eq (lawful : V.Lawful) (alike : c.Variant V c') : c'.name = c.name := by
  have same := lawful.name alike.own
  exact same

theorem argcount_eq (lawful : V.Lawful) (alike : c.Variant V c') : c'.argcount = c.argcount := by
  have same := lawful.argcount alike.own
  exact same

theorem localCount_eq (lawful : V.Lawful) (alike : c.Variant V c') :
    c'.localCount = c.localCount := by
  have same := lawful.count alike.own
  exact same

theorem names_eq (lawful : V.Lawful) (alike : c.Variant V c') :
    V.renames ∨ c'.names = c.names := by
  have same := lawful.names alike.own
  exact same

theorem continues (lawful : V.Lawful) (alike : c.Variant V c') :
    Continues c.bytecode c'.bytecode := by
  have longer := lawful.continues alike.own
  exact longer

theorem bytecode_eq (lawful : V.Lawful) (alike : c.Variant V c') :
    V.forgives ∨ c'.bytecode = c.bytecode := by
  have same := lawful.bytecode alike.own
  exact same

end CodeObject.Variant

namespace Value.Variant

variable {v v' : Value}

theorem cls?_eq (alike : v.Variant V v') : v'.cls? = v.cls? := by cases alike <;> rfl

theorem classNameOf_eq (alike : v.Variant V v') (h : Hierarchy) :
    h.classNameOf v' = h.classNameOf v := by
  unfold Hierarchy.classNameOf
  rw [alike.cls?_eq]

theorem holds_eq (alike : v.Variant V v') : v'.holds = v.holds := by cases alike <;> rfl

theorem line_eq (lawful : V.Lawful) (alike : v.Variant V v') : v'.line = v.line := by
  cases alike with
  | code own consts =>
    have name := lawful.name own
    exact congrArg (fun name => "<code " ++ name ++ ">") name
  | _ => rfl

theorem code? (alike : v.Variant V v') :
    Option.Rel (CodeObject.Variant V) v.code? v'.code? := by
  cases alike with
  | code own consts => exact .some ⟨own, consts⟩
  | _ => exact .none

theorem refl_of_codeless (hv : v.Storable) (codeless : v.code? = none) : v.Variant V v := by
  cases hv with
  | int n => exact .int n
  | float x => exact .float x
  | text id s => exact .text id id s
  | code consts => cases codeless

end Value.Variant

namespace Effect

variable {a a' b b' : Value}

theorem Variant.of_codeless {e : Effect} (closed : e.Closed) (codeless : e.Codeless) :
    e.Variant V e := by
  cases e with
  | give v => exact .give (.refl_of_codeless closed codeless)
  | text s => exact .text s
  | throw c => exact .throw c

theorem forward_eq (op : Arithmetic) (ha : a.Variant V a') (hb : b.Variant V b') :
    forward op a' b' = forward op a b := by
  cases ha with
  | text => cases op <;> cases hb <;> rfl
  | _ => cases hb <;> rfl

theorem reflected_eq (op : Arithmetic) (ha : a.Variant V a') (hb : b.Variant V b') :
    reflected op b' a' = reflected op b a := by
  cases hb with
  | text => cases op <;> cases ha <;> rfl
  | _ => cases ha <;> rfl

/-- No operator sees more of its operands than the variation leaves alone. -/
theorem arith_variant (h : Hierarchy) (op : Arithmetic) (ha : a.Variant V a')
    (hb : b.Variant V b') (storable : a.Storable) (storable' : b.Storable) :
    (arith h op a b).Variant V (arith h op a' b') := by
  have same : arith h op a' b' = arith h op a b := by
    unfold arith
    rw [forward_eq op ha hb, reflected_eq op ha hb, ha.classNameOf_eq, hb.classNameOf_eq]
  rw [same]
  exact .of_codeless (arith_closed h op storable storable') (arith_codeless h op a b)

theorem sign_variant (h : Hierarchy) (s : Sign) (ha : a.Variant V a') (storable : a.Storable) :
    (sign h s a).Variant V (sign h s a') := by
  have same : sign h s a' = sign h s a := by cases ha <;> rfl
  rw [same]
  exact .of_codeless (sign_closed h s storable) (sign_codeless h s a)

end Effect

namespace Frame

variable {f f' : Frame}

theorem Variant.at (alike : f.Variant V f') (pos : Nat) :
    { f with pos }.Variant V { f' with pos } :=
  ⟨alike.depth, alike.code, alike.locals, alike.stack, rfl⟩

theorem Variant.pop? (alike : f.Variant V f') : (f.pop? = none ∧ f'.pop? = none) ∨
    ∃ v v' g g', f.pop? = some (v, g) ∧ f'.pop? = some (v', g') ∧ v.Variant V v' ∧
      g.Variant V g' := by
  have tops := alike.stack.back?
  unfold Frame.pop?
  cases top : f.stack.back? with
  | none =>
    cases top' : f'.stack.back? with
    | none => exact .inl ⟨rfl, rfl⟩
    | some v' => rw [top, top'] at tops; cases tops
  | some v =>
    cases top' : f'.stack.back? with
    | none => rw [top, top'] at tops; cases tops
    | some v' =>
      rw [top, top'] at tops
      cases tops with
      | some same =>
        exact .inr ⟨v, v', _, _, rfl, rfl, same,
          ⟨alike.depth, alike.code, alike.locals, alike.stack.pop, alike.pos⟩⟩

variable {h : Hierarchy}

theorem planPop_variant (alike : f.Variant V f') (hf : f.Storable) {go go' : Value → Frame → Plan}
    (later : ∀ v v' g g', v.Variant V v' → g.Variant V g' → v.Storable → g.Storable →
      (go v g).Variant V (go' v' g')) : (f.planPop go).Variant V (f'.planPop go') := by
  unfold planPop
  rcases alike.pop? with ⟨empty, empty'⟩ | ⟨v, v', g, g', popped, popped', same, below⟩
  · rw [empty, empty']
    exact .fail _ alike
  · obtain ⟨hv, hg⟩ := hf.pop popped
    rw [popped, popped']
    exact later v v' g g' same below hv hg

/-- A jump that leads somewhere leads to the same place in code that goes on. -/
theorem target?_variant (lawful : V.Lawful) (alike : f.Variant V f') (dir : Direction)
    (offset : Nat) : f'.target? dir offset = f.target? dir offset ∨
      (V.forgives ∧ f.target? dir offset = none) := by
  have longer := (alike.code.continues lawful).size_le
  rcases alike.code.bytecode_eq lawful with forgives | same
  · unfold target?
    rw [alike.pos]
    -- A jump that is out of range in the shorter code may be one within the longer code.
    cases dir with
    | forward =>
      dsimp only
      by_cases inside : f.pos + offset ≤ f.code.bytecode.size
      · rw [if_pos inside, if_pos (Nat.le_trans inside longer)]
        exact .inl rfl
      · exact .inr ⟨forgives, if_neg inside⟩
    | backward =>
      dsimp only
      by_cases inside : offset ≤ f.pos ∧ f.pos - offset ≤ f.code.bytecode.size
      · rw [if_pos inside, if_pos ⟨inside.1, Nat.le_trans inside.2 longer⟩]
        exact .inl rfl
      · exact .inr ⟨forgives, if_neg inside⟩
  · unfold target?
    rw [alike.pos, same]
    exact .inl rfl

theorem planJump_variant (lawful : V.Lawful) (alike : f.Variant V f') (dir : Direction)
    (offset : Nat) : (f.planJump dir offset).Variant V (f'.planJump dir offset) := by
  unfold planJump
  rcases target?_variant lawful alike dir offset with same | ⟨forgives, none⟩
  · rw [same, alike.pos]
    cases f.target? dir offset with
    | some pos => exact .next (alike.at pos)
    | none => exact .fail _ alike
  · rw [none]
    exact .forgiven _ forgives

theorem planJumpIf_variant (lawful : V.Lawful) (alike : f.Variant V f') (hf : f.Storable)
    (wanted : Bool) (dir : Direction) (offset : Nat) :
    (f.planJumpIf wanted dir offset).Variant V (f'.planJumpIf wanted dir offset) := by
  refine planPop_variant alike hf fun v v' g g' same below _ _ => ?_
  rw [same.holds_eq]
  split
  next => exact planJump_variant lawful below dir offset
  next => exact .next below

theorem planStore_variant (alike : f.Variant V f') (hf : f.Storable) (slot : Nat) :
    (f.planStore slot).Variant V (f'.planStore slot) := by
  refine planPop_variant alike hf fun v v' g g' same below _ _ => ?_
  rw [below.locals.size_eq]
  split
  next =>
    exact .next ⟨below.depth, below.code, below.locals.setIfInBounds slot (.some same),
      below.stack, below.pos⟩
  next => exact .fail _ below

theorem planLoad_variant (lawful : V.Lawful) (alike : f.Variant V f') (slot : Nat) :
    (f.planLoad slot).Variant V (f'.planLoad slot) := by
  have bound := alike.locals slot
  unfold planLoad
  generalize f.locals[slot]? = found at bound ⊢
  generalize f'.locals[slot]? = found' at bound ⊢
  cases bound with
  | none => exact .fail _ alike
  | some value =>
    cases value with
    | some same => exact .result alike (.give same)
    | none =>
      refine .result alike ?_
      rcases alike.code.names_eq lawful with renames | same
      · exact .unbound _ _ renames
      · unfold localName
        rw [same]
        exact .throw _

theorem planCall_variant (lawful : V.Lawful) (alike : f.Variant V f') (hf : f.Storable)
    (argc : Nat) : (f.planCall h argc).Variant V (f'.planCall h argc) := by
  unfold planCall
  rw [alike.stack.size_eq]
  split
  next => exact .fail _ alike
  next =>
    dsimp only
    have args := pointwise_iff.mp (alike.stack.extract (f.stack.size - argc) f.stack.size)
    have lower : { f with stack := f.stack.take (f.stack.size - argc) }.Variant V
        { f' with stack := f'.stack.take (f.stack.size - argc) } :=
      ⟨alike.depth, alike.code, alike.locals, alike.stack.extract 0 _, alike.pos⟩
    refine planPop_variant lower (hf.take _) fun callee callee' g g' same below _ _ => ?_
    have code := same.code?
    rw [same.classNameOf_eq]
    generalize callee.code? = c at code ⊢
    generalize callee'.code? = c' at code ⊢
    cases code with
    | none => exact .result below (.throw _)
    | some called =>
      dsimp only
      rw [called.name_eq lawful, called.argcount_eq lawful]
      split
      next => exact .call below called args
      next => exact .result below (.throw _)

theorem planOf_variant (lawful : V.Lawful) (alike : f.Variant V f') (hf : f.Storable)
    (i : Instruction) : (f.planOf h i).Variant V (f'.planOf h i) := by
  cases i with
  | nop => exact .next alike
  | loadInt n => exact .result alike (.give (.int _))
  | loadFloat x => exact .result alike (.give (.float x))
  | loadConst index =>
    have const := forall₂_getElem? alike.code.consts index.toNat
    unfold planOf
    dsimp only
    generalize f.code.consts[index.toNat]? = found at const ⊢
    generalize f'.code.consts[index.toNat]? = found' at const ⊢
    cases const with
    | some same => exact .result alike (.give same)
    | none => exact .fail _ alike
  | arith op =>
    refine planPop_variant alike hf fun b b' g g' right below hb hg => ?_
    refine planPop_variant below hg fun a a' k k' left lower ha _ => ?_
    exact .result lower (Effect.arith_variant h op left right ha hb)
  | sign s =>
    refine planPop_variant alike hf fun v v' g g' same below hv _ => ?_
    exact .result below (Effect.sign_variant h s same hv)
  | store slot => exact planStore_variant alike hf slot.toNat
  | load slot => exact planLoad_variant lawful alike slot.toNat
  | print =>
    refine planPop_variant alike hf fun v v' g g' same below _ _ => ?_
    rw [same.line_eq lawful]
    exact .print _ below
  | jump dir guard offset =>
    cases guard with
    | always => exact planJump_variant lawful alike dir offset.toNat
    | ifTrue => exact planJumpIf_variant lawful alike hf true dir offset.toNat
    | ifFalse => exact planJumpIf_variant lawful alike hf false dir offset.toNat
  | call argc => exact planCall_variant lawful alike hf argc.toNat
  | ret => exact .leave alike.stack.back?

theorem plan_variant (lawful : V.Lawful) (alike : f.Variant V f') (hf : f.Storable) :
    (f.plan h).Variant V (f'.plan h) := by
  have continues := alike.code.continues lawful
  by_cases past : f.code.bytecode.size ≤ f.pos
  -- Where the first code has ended, the second one has too, or its return stands there.
  · have returning : f'.Returning := by
      unfold Returning At
      rw [alike.pos]
      exact continues.ends past
    rw [plan_of_returning (.inl past), plan_of_returning returning]
    exact .leave alike.stack.back?
  · cases decoded : Instruction.decode f.code.bytecode f.pos with
    | ok r =>
      have here : f.At r.1 r.2 := decoded
      have here' : f'.At r.1 r.2 := by
        unfold At
        rw [alike.pos]
        exact continues.decode (Nat.lt_of_not_le past) decoded
      rw [plan_of_at here, plan_of_at here']
      exact planOf_variant lawful (alike.at r.2) (hf.at r.2) r.1
    | error cause =>
      have plan : f.plan h = .fail f cause := by
        unfold Frame.plan
        rw [if_neg past, decoded]
      rw [plan]
      rcases alike.code.bytecode_eq lawful with forgives | same
      · exact .forgiven _ forgives
      · have plan' : f'.plan h = .fail f' cause := by
          unfold Frame.plan
          rw [same, alike.pos, if_neg past, decoded]
        rw [plan']
        exact .fail _ alike

end Frame

end SlotVM
