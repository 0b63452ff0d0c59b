import SlotVM.Proofs.InstructionCodec
import SlotVM.Proofs.ValueClosure

namespace SlotVM

/-- The instruction assigns to no variable and neither enters nor leaves a frame. -/
def Instruction.Plain (i : Instruction) : Prop :=
  (∀ slot, i ≠ .store slot) ∧ (∀ argc, i ≠ .call argc) ∧ i ≠ .ret

namespace Frame

/-- The instruction at the position of the frame, and the position after it. -/
def At (f : Frame) (i : Instruction) (next : Nat) : Prop :=
  Instruction.decode f.code.bytecode f.pos = .ok (i, next)

/-- The frame returns next: it stands at a return or at the end of its code. -/
def Returning (f : Frame) : Prop := f.code.bytecode.size ≤ f.pos ∨ ∃ next, f.At .ret next

/-- The frame calls the code `d`, which lies right below the arguments on the stack. What is left of
the frame keeps what lies further down and waits at the next instruction. -/
inductive Calls (f : Frame) (d : CodeObject) (args : Array Value) : Frame → Prop
  | intro {argc : UInt8} {next : Nat} {lower : Array Value} {callee : Value} :
      f.At (.call argc) next → f.stack = lower.push callee ++ args → args.size = argc.toNat →
      callee.code? = some d → Calls f d args { f with pos := next, stack := lower }

/-- The value is a constant or has a variable of the frame, or it is no code. -/
def Brings (f : Frame) (v : Value) : Prop :=
  v ∈ f.code.consts ∨ some v ∈ f.locals ∨ v.code? = none

/-- What an instruction other than a call or a return makes of its frame. -/
structure Stays (config : Config) (f : Frame) (i : Instruction) (next : Nat) (g : Frame) :
    Prop where
  inside : (∀ argc, i ≠ .call argc) ∧ i ≠ .ret
  code : g.code = f.code
  depth : g.depth = f.depth
  pos : g.pos = next ∨ ∃ dir guard offset, i = .jump dir guard offset ∧
    { f with pos := next }.target? dir offset.toNat = some g.pos
  locals : (g.locals = f.locals ∧ ∀ slot, i ≠ .store slot) ∨ ∃ slot v, i = .store slot ∧
    v ∈ f.stack ∧ slot.toNat < f.locals.size ∧
    g.locals = f.locals.setIfInBounds slot.toNat (some v)
  stack : g.stack.size ≤ max f.stack.size config.maxStack
  values : ∀ v ∈ g.stack, v ∈ f.stack ∨ f.Brings v

/-- The causes for which the instruction of a frame fails. -/
inductive Fails (f : Frame) : Fault → Prop
  | undecodable {cause : Fault} :
      Instruction.decode f.code.bytecode f.pos = .error cause → Fails f cause
  | jumpOutOfRange {dir : Direction} {guard : Guard} {offset : UInt8} {next : Nat} :
      f.At (.jump dir guard offset) next →
      { f with pos := next }.target? dir offset.toNat = none → Fails f (.jumpOutOfRange next)
  | stackUnderflow {i : Instruction} {next : Nat} : f.At i next → Fails f .stackUnderflow
  | stackOverflow {i : Instruction} {next : Nat} : f.At i next → Fails f .stackOverflow
  | invalidConstant {index : UInt8} {next : Nat} : f.At (.loadConst index) next →
      Fails f (.invalidConstant index.toNat)
  | invalidLocal {slot : UInt32} {next : Nat} :
      f.At (.store slot) next ∨ f.At (.load slot) next → Fails f (.invalidLocal slot.toNat)

end Frame

/-- What a step can lead to, for a frame on top of others. -/
inductive Machine.Turn (env : Setting) (f : Frame) (rest : List Frame) : Progress → Prop
  /-- The frame stays on top. -/
  | stay {i : Instruction} {next : Nat} {g : Frame} {store : Store} {output : Array String} :
      f.At i next → f.Stays env.config i next g →
      Turn env f rest (.running ⟨g :: rest, store, output⟩)
  /-- A call enters a frame above what is left of this one. -/
  | enter {d : CodeObject} {args : Array Value} {caller : Frame} {store : Store}
      {output : Array String} :
      f.Calls d args caller → d.argcount = args.size → f.depth + 1 < env.config.maxFrames →
      Turn env f rest
        (.running ⟨.enter (f.depth + 1) d args.toList :: caller :: rest, store, output⟩)
  /-- There cannot be as much memory as the operands of the frame of a call should have. -/
  | unallocated {argc : UInt8} {next : Nat} {stack more : Array Value} {store : Store}
      {output : Array String} :
      f.At (.call argc) next → f.stack = stack ++ more → ¬ env.config.Allocates →
      Turn env f rest (.panicked ⟨{ f with pos := next, stack } :: rest, store, output⟩)
  /-- There is no room for the frame of a call. -/
  | tooDeep {argc : UInt8} {next : Nat} {stack more : Array Value} {store : Store}
      {output : Array String} :
      f.At (.call argc) next → f.stack = stack ++ more → env.config.maxFrames ≤ f.depth + 1 →
      Turn env f rest (.ended ⟨{ f with pos := next, stack } :: rest, store, output⟩
        (.fatal Fault.callDepthExceeded.error))
  /-- A return hands its result, if it has one, to the frame below. -/
  | back {g : Frame} {below : List Frame} {store : Store} {output : Array String} :
      f.Returning → rest = g :: below →
      (∀ v, f.stack.back? = some v → g.stack.size < env.config.maxStack) →
      Turn env f rest (.running
        ⟨{ g with stack := g.stack ++ f.stack.back?.toArray } :: below, store, output⟩)
  /-- There is no room for the result of a return. -/
  | full {g : Frame} {below : List Frame} {v : Value} {store : Store} {output : Array String} :
      f.Returning → rest = g :: below → f.stack.back? = some v →
      env.config.maxStack ≤ g.stack.size →
      Turn env f rest (.ended ⟨rest, store, output⟩ (.fatal Fault.stackOverflow.error))
  /-- The lowest frame returns. -/
  | finish {store : Store} {output : Array String} : f.Returning → rest = [] →
      Turn env f rest (.ended ⟨[], store, output⟩ (.finished f.stack.back?))
  | raise {cls message : String} {store : Store} {output : Array String} :
      Turn env f rest (.ended ⟨[], store, output⟩ (.uncaught cls message))
  | fail {pos : Nat} {stack more : Array Value} {cause : Fault} {store : Store}
      {output : Array String} : f.Fails cause → (pos = f.pos ∨ ∃ i, f.At i pos) →
      f.stack = stack ++ more →
      Turn env f rest (.ended ⟨{ f with pos, stack } :: rest, store, output⟩ (.fatal cause.error))

namespace Frame

variable {f : Frame} {i : Instruction} {next : Nat}

theorem At.bounds (at_ : f.At i next) : f.pos < next ∧ next ≤ f.code.bytecode.size := by
  obtain ⟨after, within⟩ := Instruction.decode_eq_ok at_
  have positive := Instruction.size_pos i
  omega

theorem At.unique (at_ : f.At i next) {j : Instruction} {after : Nat} (at' : f.At j after) :
    i = j ∧ next = after := by
  have same := Except.ok.inj (Eq.trans (Eq.symm at_) at')
  exact ⟨congrArg Prod.fst same, congrArg Prod.snd same⟩

theorem plan_of_at (at_ : f.At i next) (h : Hierarchy) :
    f.plan h = { f with pos := next }.planOf h i := by
  have inside := at_.bounds
  have decoded : Instruction.decode f.code.bytecode f.pos = .ok (i, next) := at_
  unfold plan
  rw [if_neg (by omega), decoded]

theorem plan_of_returning (returning : f.Returning) (h : Hierarchy) :
    f.plan h = .leave f.stack.back? := by
  rcases returning with past | ⟨next, at_⟩
  · exact if_pos past
  · exact plan_of_at at_ h

end Frame

namespace Effect

/-- The effect gives no code. -/
def Codeless : Effect → Prop
  | give v => v.code? = none
  | _ => True

theorem Codeless.orElse {e e' : Effect} (he : e.Codeless) (he' : e'.Codeless) :
    (e.orElse e').Codeless := by
  cases e with
  | give v =>
    cases v with
    | unsupported => exact he'
    | _ => exact he
  | text s => exact he
  | throw c => exact he

theorem Codeless.settle {e : Effect} (he : e.Codeless) (token left right : String) :
    (e.settle token left right).Codeless := by
  cases e with
  | give v =>
    cases v with
    | unsupported | divByZero => trivial
    | _ => exact he
  | text s => exact he
  | throw c => exact he

theorem concat_codeless (s : String) (b : Value) : (concat s b).Codeless := by
  unfold concat
  split
  next => trivial
  next => rfl

theorem copies_codeless (s : String) (b : Value) : (copies s b).Codeless := by
  unfold copies
  split
  next => split <;> trivial
  next => rfl

theorem forward_codeless (op : Arithmetic) (a b : Value) : (forward op a b).Codeless := by
  unfold forward
  split
  next x => exact intArithWith_codeless op.op x b
  next x => exact floatArithWith_codeless op.op x b
  next s => exact concat_codeless s b
  next s => exact copies_codeless s b
  next => rfl

theorem reflected_codeless (op : Arithmetic) (b a : Value) : (reflected op b a).Codeless := by
  unfold reflected
  split
  next y =>
    cases a.number? with
    | some x => exact floatArith_codeless .mod x y
    | none => rfl
  next s => exact copies_codeless s a
  next => rfl

theorem arith_codeless (h : Hierarchy) (op : Arithmetic) (a b : Value) :
    (arith h op a b).Codeless :=
  ((forward_codeless op a b).orElse (reflected_codeless op b a)).settle _ _ _

theorem sign_codeless (h : Hierarchy) (s : Sign) (v : Value) : (sign h s v).Codeless := by
  unfold sign
  split
  next => cases s <;> rfl
  next => cases s <;> rfl
  next => trivial

end Effect

/-- The frame `g` is `f` after an instruction was read and operands were taken from the top. -/
def Frame.Drops (f : Frame) (next : Nat) (g : Frame) : Prop :=
  ∃ stack more, f.stack = stack ++ more ∧ g = { f with pos := next, stack }

/-- Carrying out the plan is one of the turns that a step of the frame can take. -/
def Plan.Turns (env : Setting) (f : Frame) (rest : List Frame) (p : Plan) : Prop :=
  ∀ heap store output,
    Machine.Turn env f rest (Machine.apply env ⟨rest, store, output⟩ (p.perform env.config heap).1)

namespace Frame

variable {env : Setting} {f g : Frame} {rest : List Frame} {i : Instruction} {next : Nat}

theorem drops_refl (f : Frame) (next : Nat) : f.Drops next { f with pos := next } :=
  ⟨f.stack, #[], (Array.append_empty).symm, rfl⟩

theorem Drops.pop (drops : f.Drops next g) {v : Value} {k : Frame}
    (popped : g.pop? = some (v, k)) : v ∈ f.stack ∧ f.Drops next k := by
  obtain ⟨stack, more, parts, rfl⟩ := drops
  obtain ⟨top, rfl⟩ := pop?_eq_some_iff.mp popped
  obtain ⟨lower, rfl⟩ := Array.back?_eq_some_iff.mp top
  refine ⟨?_, lower, #[v] ++ more, ?_, ?_⟩
  · rw [parts]
    exact Array.mem_append_left _ (Array.mem_push_self)
  · rw [parts, ← Array.append_assoc, Array.append_singleton]
  · simp

theorem Drops.stays (config : Config) (drops : f.Drops next g) (plain : i.Plain) :
    f.Stays config i next g := by
  obtain ⟨stack, more, parts, rfl⟩ := drops
  refine ⟨plain.2, rfl, rfl, .inl rfl, .inl ⟨rfl, plain.1⟩, ?_, fun v hv => ?_⟩
  · have size := congrArg Array.size parts
    rw [Array.size_append] at size
    dsimp only
    omega
  · exact .inl (parts ▸ Array.mem_append_left _ hv)

theorem Drops.fail_turns (drops : f.Drops next g) (at_ : f.At i next) {cause : Fault}
    (fails : f.Fails cause) : (Plan.fail g cause).Turns env f rest := by
  obtain ⟨stack, more, parts, rfl⟩ := drops
  exact fun heap store output => .fail fails (.inr ⟨i, at_⟩) parts

theorem Drops.next_turns (drops : f.Drops next g) (at_ : f.At i next) (plain : i.Plain) :
    (Plan.next g).Turns env f rest :=
  fun _ _ _ => .stay at_ (drops.stays _ plain)

theorem throw_turns (g : Frame) (c : Condition) :
    (Plan.result g (.throw c)).Turns env f rest := fun _ _ _ => .raise

/-- A value that the frame holds already, or one that is no code, is put on top. -/
theorem Drops.push_turns (drops : f.Drops next g) (at_ : f.At i next)
    (plain : i.Plain) {v : Value} (origin : f.Brings v) (store : Store) (output : Array String) :
    Machine.Turn env f rest (Machine.apply env ⟨rest, store, output⟩ (g.push env.config v)) := by
  unfold push push?
  by_cases room : g.stack.size < env.config.maxStack
  · rw [if_pos room]
    obtain ⟨inside, code, depth, pos, locals, stack, values⟩ := drops.stays env.config plain
    refine .stay at_ ⟨inside, code, depth, pos, locals, ?_, fun w hw => ?_⟩
    · rw [Array.size_push]
      omega
    · rcases Array.mem_push.mp hw with old | rfl
      · exact values w old
      · exact .inr origin
  · rw [if_neg room]
    exact drops.fail_turns at_ (.stackOverflow at_) default store output

theorem Drops.result_turns (drops : f.Drops next g) (at_ : f.At i next)
    (plain : i.Plain) {e : Effect} (origin : ∀ v, e = .give v → f.Brings v) :
    (Plan.result g e).Turns env f rest := by
  cases e with
  | give v => exact fun _ store output => drops.push_turns at_ plain (origin v rfl) store output
  | text s =>
    exact fun _ store output => drops.push_turns at_ plain (.inr (.inr rfl)) store output
  | throw c => exact throw_turns g c

theorem Drops.pop_turns (drops : f.Drops next g) (at_ : f.At i next)
    {go : Value → Frame → Plan}
    (later : ∀ v k, v ∈ f.stack → f.Drops next k → (go v k).Turns env f rest) :
    (g.planPop go).Turns env f rest := by
  unfold planPop
  cases popped : g.pop? with
  | none => exact drops.fail_turns at_ (.stackUnderflow at_)
  | some p =>
    obtain ⟨member, dropped⟩ := drops.pop popped
    exact later p.1 p.2 member dropped

theorem Drops.jump_turns (drops : f.Drops next g) {dir : Direction} {guard : Guard}
    {offset : UInt8} (at_ : f.At (.jump dir guard offset) next) :
    (g.planJump dir offset.toNat).Turns env f rest := by
  have same : g.target? dir offset.toNat = { f with pos := next }.target? dir offset.toNat ∧
      g.pos = next := by
    obtain ⟨stack, more, parts, rfl⟩ := drops
    exact ⟨rfl, rfl⟩
  unfold planJump
  split
  next pos found =>
    obtain ⟨inside, code, depth, -, locals, stack, values⟩ :=
      drops.stays (i := .jump dir guard offset) env.config ⟨nofun, nofun, nofun⟩
    refine fun _ _ _ => .stay at_ ⟨inside, code, depth, .inr ?_, locals, stack, values⟩
    exact ⟨dir, guard, offset, rfl, same.1 ▸ found⟩
  next out =>
    rw [same.2]
    exact drops.fail_turns at_ (.jumpOutOfRange at_ (same.1 ▸ out))

theorem Drops.jumpIf_turns (drops : f.Drops next g) {dir : Direction} {guard : Guard}
    {offset : UInt8} (at_ : f.At (.jump dir guard offset) next) (wanted : Bool) :
    (g.planJumpIf wanted dir offset.toNat).Turns env f rest := by
  refine drops.pop_turns at_ fun v k _ dropped => ?_
  split
  next => exact dropped.jump_turns at_
  next => exact dropped.next_turns at_ ⟨nofun, nofun, nofun⟩

theorem Drops.store_turns (drops : f.Drops next g) {slot : UInt32} (at_ : f.At (.store slot) next) :
    (g.planStore slot.toNat).Turns env f rest := by
  refine drops.pop_turns at_ fun v k member dropped => ?_
  split
  next within =>
    obtain ⟨stack, more, parts, rfl⟩ := dropped
    refine fun _ _ _ => .stay at_ ⟨⟨nofun, nofun⟩, rfl, rfl, .inl rfl,
      .inr ⟨slot, v, rfl, member, within, rfl⟩, ?_,
      fun w hw => .inl (parts ▸ Array.mem_append_left _ hw)⟩
    have size := congrArg Array.size parts
    rw [Array.size_append] at size
    dsimp only
    omega
  next => exact dropped.fail_turns at_ (.invalidLocal (.inl at_))

theorem Drops.load_turns (drops : f.Drops next g) {slot : UInt32} (at_ : f.At (.load slot) next) :
    (g.planLoad slot.toNat).Turns env f rest := by
  have locals : g.locals = f.locals := by
    obtain ⟨stack, more, parts, rfl⟩ := drops
    rfl
  unfold planLoad
  split
  next => exact drops.fail_turns at_ (.invalidLocal (.inr at_))
  next v bound =>
    refine drops.result_turns at_ ⟨nofun, nofun, nofun⟩ fun w eq => ?_
    cases eq
    exact .inr (.inl (locals ▸ Array.mem_of_getElem? bound))
  next => exact throw_turns g _

theorem loadConst_turns {index : UInt8} (at_ : f.At (.loadConst index) next) (h : Hierarchy) :
    ({ f with pos := next }.planOf h (.loadConst index)).Turns env f rest := by
  unfold planOf
  dsimp only
  split
  next v found =>
    refine (drops_refl f next).result_turns at_ ⟨nofun, nofun, nofun⟩ fun w eq => ?_
    cases eq
    exact .inl (List.mem_of_getElem? found)
  next => exact (drops_refl f next).fail_turns at_ (.invalidConstant at_)

theorem exists_operands {stack : Array Value} {n : Nat} (enough : n < stack.size) :
    ∃ (lower args : Array Value) (callee : Value),
      stack = lower.push callee ++ args ∧ args.size = n := by
  have parts : stack =
      stack.take (stack.size - n) ++ stack.extract (stack.size - n) stack.size := by
    simp [Array.take]
  have occupied : 0 < (stack.take (stack.size - n)).size := by
    rw [Array.take, Array.size_extract]
    omega
  obtain ⟨lower, callee, split⟩ := Array.eq_push_of_size_ne_zero (Nat.ne_of_gt occupied)
  rw [split] at parts
  refine ⟨lower, _, callee, parts, ?_⟩
  rw [Array.size_extract]
  omega

theorem planPop_of_push {lower : Array Value} {v : Value} (top : f.stack = lower.push v)
    (go : Value → Frame → Plan) : f.planPop go = go v { f with stack := lower } := by
  have popped : f.pop? = some (v, { f with stack := lower }) :=
    pop?_eq_some_iff.mpr ⟨by rw [top, Array.back?_push], by rw [top, Array.pop_push]⟩
  rw [planPop, popped]

theorem planCall_of_stack (h : Hierarchy) {lower args : Array Value} {callee : Value}
    (parts : f.stack = lower.push callee ++ args) : f.planCall h args.size =
      match callee.code? with
      | some d =>
        if d.argcount = args.size then .call { f with stack := lower } d args.toList
        else .result { f with stack := lower } (.throw (.argumentCount d.name d.argcount args.size))
      | none =>
        .result { f with stack := lower } (.throw (.notCallable (h.classNameOf callee))) := by
  have size : f.stack.size = lower.size + 1 + args.size := by
    rw [parts, Array.size_append, Array.size_push]
  have below : f.stack.take (f.stack.size - args.size) = lower.push callee := by
    rw [size, Nat.add_sub_cancel, parts, ← Array.size_push, Array.take, Array.extract_append_left]
    simp
  have above : f.stack.extract (f.stack.size - args.size) f.stack.size = args := by
    rw [size, Nat.add_sub_cancel, parts, ← Array.size_push callee]
    simp
  unfold planCall
  rw [if_neg (by omega), above, below]
  exact planPop_of_push rfl _

theorem call_turns {argc : UInt8} (at_ : f.At (.call argc) next) (h : Hierarchy) :
    ({ f with pos := next }.planCall h argc.toNat).Turns env f rest := by
  by_cases enough : argc.toNat < f.stack.size
  · obtain ⟨lower, args, callee, parts, size⟩ := exists_operands enough
    rw [← size, planCall_of_stack (f := { f with pos := next }) h parts]
    split
    next d found =>
      split
      next arity =>
        intro heap store output
        change Machine.Turn env f rest (Machine.enter env.config _ (f.depth + 1) d _)
        rw [Machine.enter_eq]
        have dropped := parts
        rw [← Array.append_singleton, Array.append_assoc] at dropped
        split
        next deep => exact .tooDeep at_ dropped deep
        next shallow =>
          split
          next => exact .enter (.intro at_ parts size found) arity (Nat.lt_of_not_le shallow)
          next none => exact .unallocated at_ dropped none
      next => exact throw_turns _ _
    next => exact throw_turns _ _
  · have dropped : f.Drops next { f with pos := next, stack := #[] } :=
      ⟨#[], f.stack, Array.empty_append.symm, rfl⟩
    unfold planCall
    split
    next => exact (drops_refl f next).fail_turns at_ (.stackUnderflow at_)
    next =>
      have bare : f.stack.take (f.stack.size - argc.toNat) = #[] := by
        rw [Nat.sub_eq_zero_of_le (Nat.le_of_not_lt enough), Array.take, Array.extract_zero]
      dsimp only
      rw [bare]
      exact dropped.fail_turns at_ (.stackUnderflow at_)

theorem plan_of_calls {d : CodeObject} {args : Array Value} {caller : Frame}
    (calls : f.Calls d args caller) (h : Hierarchy) :
    f.plan h =
      if d.argcount = args.size then .call caller d args.toList
      else .result caller (.throw (.argumentCount d.name d.argcount args.size)) := by
  obtain @⟨argc, next, lower, callee, at_, parts, size, found⟩ := calls
  have planned := planCall_of_stack (f := { f with pos := next }) h parts
  rw [found, size] at planned
  rw [plan_of_at at_, size]
  exact planned

theorem leave_turns (returning : f.Returning) :
    (Plan.leave f.stack.back?).Turns env f rest := by
  intro heap store output
  change Machine.Turn env f rest (Machine.leave env.config ⟨rest, store, output⟩ f.stack.back?)
  unfold Machine.leave
  cases rest with
  | nil => exact .finish returning rfl
  | cons g below =>
    cases top : f.stack.back? with
    | none =>
      have turn : Machine.Turn env f (g :: below) (.running ⟨_, store, output⟩) :=
        .back returning rfl fun v eq => by simp [top] at eq
      simpa [top] using turn
    | some v =>
      dsimp only
      unfold push?
      by_cases room : g.stack.size < env.config.maxStack
      · rw [if_pos room]
        have turn : Machine.Turn env f (g :: below) (.running ⟨_, store, output⟩) :=
          .back returning rfl fun _ _ => room
        simpa [top] using turn
      · rw [if_neg room]
        exact .full returning rfl top (Nat.le_of_not_lt room)

theorem planOf_turns (at_ : f.At i next) (h : Hierarchy) :
    ({ f with pos := next }.planOf h i).Turns env f rest := by
  have drops := drops_refl f next
  cases i with
  | nop => exact drops.next_turns at_ ⟨nofun, nofun, nofun⟩
  | loadInt n =>
    refine drops.result_turns at_ ⟨nofun, nofun, nofun⟩ fun w eq => ?_
    cases eq
    exact .inr (.inr rfl)
  | loadFloat x =>
    refine drops.result_turns at_ ⟨nofun, nofun, nofun⟩ fun w eq => ?_
    cases eq
    exact .inr (.inr rfl)
  | loadConst index => exact loadConst_turns at_ h
  | arith op =>
    refine drops.pop_turns at_ fun b k _ dropped => dropped.pop_turns at_ fun a l _ dropped => ?_
    refine dropped.result_turns at_ ⟨nofun, nofun, nofun⟩ fun w eq => .inr (.inr ?_)
    have codeless := Effect.arith_codeless h op a b
    rwa [eq] at codeless
  | sign s =>
    refine drops.pop_turns at_ fun v k _ dropped => ?_
    refine dropped.result_turns at_ ⟨nofun, nofun, nofun⟩ fun w eq => .inr (.inr ?_)
    have codeless := Effect.sign_codeless h s v
    rwa [eq] at codeless
  | store slot => exact drops.store_turns at_
  | load slot => exact drops.load_turns at_
  | print =>
    refine drops.pop_turns at_ fun v k _ dropped heap store output => ?_
    exact .stay at_ (dropped.stays _ ⟨nofun, nofun, nofun⟩)
  | jump dir guard offset =>
    cases guard with
    | always => exact drops.jump_turns at_
    | ifTrue => exact drops.jumpIf_turns at_ true
    | ifFalse => exact drops.jumpIf_turns at_ false
  | call argc => exact call_turns at_ h
  | ret => exact leave_turns (.inr ⟨next, at_⟩)

theorem plan_turns (env : Setting) (f : Frame) (rest : List Frame) (h : Hierarchy) :
    (f.plan h).Turns env f rest := by
  unfold plan
  split
  next ended => exact leave_turns (.inl ended)
  next =>
    split
    next cause failed =>
      exact fun _ _ _ => .fail (.undecodable failed) (.inl rfl) (Array.append_empty).symm
    next i next decoded => exact planOf_turns decoded h

end Frame

namespace Machine

/-- Without frames a run is over. -/
theorem step_nil (env : Setting) {m : Machine} (frames : m.frames = []) :
    m.step env = .ended m (.finished none) := by
  obtain ⟨_, store, output⟩ := m
  obtain rfl : _ = [] := frames
  rfl

/-- A step carries out the plan of the top frame. -/
theorem step_eq (env : Setting) (standard : env.hierarchy.Standard) {m : Machine}
    (closed : m.Closed env.hierarchy) {f : Frame} {rest : List Frame}
    (frames : m.frames = f :: rest) :
    ∃ cache : Resolver, cache.Sound env.hierarchy ∧
      let performed := (f.plan env.hierarchy).perform env.config m.store.heap
      m.step env = apply env ⟨rest, ⟨cache, performed.2⟩, m.output⟩ performed.1 := by
  obtain ⟨_, ⟨cache, heap⟩, output⟩ := m
  obtain rfl : _ = f :: rest := frames
  obtain ⟨action, after, sound⟩ := Frame.yields_act env.host env.config standard
    (closed.frames f List.mem_cons_self) heap cache closed.sound
  refine ⟨_, sound, ?_⟩
  change apply env ⟨rest, (f.act env.host env.config env.hierarchy ⟨cache, heap⟩).2, output⟩
    (f.act env.host env.config env.hierarchy ⟨cache, heap⟩).1 = _
  rw [action, ← after]

theorem step_turn (env : Setting) (standard : env.hierarchy.Standard) {m : Machine}
    (closed : m.Closed env.hierarchy) {f : Frame} {rest : List Frame}
    (frames : m.frames = f :: rest) : Turn env f rest (m.step env) := by
  obtain ⟨cache, -, eq⟩ := step_eq env standard closed frames
  rw [eq]
  exact Frame.plan_turns env f rest env.hierarchy _ _ _

end Machine

end SlotVM
