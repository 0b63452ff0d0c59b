import SlotVM.Proofs.ExactReading
import SlotVM.Proofs.StepCases

namespace SlotVM

namespace CodeObject

/-- The code is that of the module or a constant of code that is part of it. -/
def PartOf (d module : CodeObject) : Prop := ∃ n, d.Within n module

theorem partOf_refl (module : CodeObject) : module.PartOf module := ⟨0, .here⟩

theorem PartOf.const {c d module : CodeObject} (part : c.PartOf module) {v : Value}
    (member : v ∈ c.consts) (code : v.code? = some d) : d.PartOf module := by
  obtain ⟨n, within⟩ := part
  induction within with
  | here => exact ⟨1, .inside member code .here⟩
  | inside outer code' _ ih =>
    obtain ⟨n, within⟩ := ih
    exact ⟨n + 1, .inside outer code' within⟩

end CodeObject

namespace Frame

/-- The variable has a value. -/
def Holds (f : Frame) (slot : Nat) : Prop := ∃ v, f.locals[slot]? = some (some v)

/-- The frame assigns to the variable next. -/
def Assigns (f : Frame) (slot : Nat) : Prop := ∃ index next, f.At (.store index) next ∧
  index.toNat = slot

/-- The frame keeps within the limits and to code of the module. -/
structure Bounded (config : Config) (module : CodeObject) (f : Frame) : Prop where
  code : f.code.PartOf module
  stack : f.stack.size ≤ config.maxStack
  pos : f.pos ≤ f.code.bytecode.size
  locals : f.locals.size = f.code.names.length
  parameters : 0 < f.depth → ∀ slot < f.code.argcount, f.Holds slot
  values : ∀ v d, v ∈ f.stack ∨ some v ∈ f.locals → v.code? = some d → d.PartOf module

/-- Frames on top of each other, the top first, no more than the limit. -/
inductive Stacked (config : Config) (module : CodeObject) : List Frame → Prop
  | nil : Stacked config module []
  | cons {f : Frame} {rest : List Frame} : f.Bounded config module → f.depth = rest.length →
      rest.length < config.maxFrames → Stacked config module rest →
      Stacked config module (f :: rest)

section

variable {config : Config} {module d : CodeObject} {f g caller : Frame} {args : Array Value}
  {i : Instruction} {next : Nat}

theorem target?_le {dir : Direction} {offset pos : Nat} (found : f.target? dir offset = some pos) :
    pos ≤ f.code.bytecode.size := by
  unfold target? at found
  cases dir with
  | forward => grind
  | backward => grind

/-- An instruction that stays in the frame gives a value to the variable it stores to and takes none
from any other. -/
theorem Stays.holds_iff (stays : f.Stays config i next g) (at_ : f.At i next) (slot : Nat) :
    g.Holds slot ↔ f.Holds slot ∨ f.Assigns slot := by
  rcases stays.locals with ⟨same, ordinary⟩ | ⟨index, v, rfl, -, inside, stored⟩
  · have idle : ¬ f.Assigns slot := by
      rintro ⟨index, after, at', -⟩
      exact ordinary index (at_.unique at').1
    rw [Holds, same]
    exact (or_iff_left idle).symm
  · have assigns : f.Assigns slot ↔ index.toNat = slot := by
      constructor
      · rintro ⟨index', after, at', rfl⟩
        cases (at_.unique at').1
        rfl
      · exact fun same => ⟨index, next, at_, same⟩
    rw [assigns, Holds, Holds, stored]
    by_cases same : index.toNat = slot
    · subst same
      simp [inside]
    · simp [Array.getElem?_setIfInBounds_ne same, same]

theorem Stays.bounded (stays : f.Stays config i next g) (at_ : f.At i next)
    (hf : f.Bounded config module) : g.Bounded config module := by
  have size : g.locals.size = f.locals.size := by
    rcases stays.locals with ⟨same, -⟩ | ⟨index, v, -, -, -, stored⟩
    · rw [same]
    · rw [stored, Array.size_setIfInBounds]
  refine ⟨stays.code ▸ hf.code, ?_, ?_, ?_, ?_, ?_⟩
  · have stack := stays.stack
    have room := hf.stack
    omega
  · rw [stays.code]
    rcases stays.pos with after | ⟨dir, guard, offset, -, target⟩
    · exact after ▸ at_.bounds.2
    · exact target?_le (f := { f with pos := next }) target
  · rw [size, stays.code, hf.locals]
  · rw [stays.depth, stays.code]
    exact fun called slot parameter =>
      (stays.holds_iff at_ slot).mpr (.inl (hf.parameters called slot parameter))
  · rintro v d (operand | variable_) code
    · rcases stays.values v operand with old | const | old | plain
      · exact hf.values v d (.inl old) code
      · exact hf.code.const const code
      · exact hf.values v d (.inr old) code
      · rw [plain] at code
        cases code
    · rcases stays.locals with ⟨same, -⟩ | ⟨index, w, -, operand, -, stored⟩
      · exact hf.values v d (.inr (same ▸ variable_)) code
      · rw [stored] at variable_
        rcases Array.mem_or_eq_of_mem_setIfInBounds variable_ with old | new
        · exact hf.values v d (.inr old) code
        · cases new
          exact hf.values v d (.inl operand) code

/-- Operands can be taken away, and the position can be any in the code. -/
theorem Bounded.cut (hf : f.Bounded config module) {pos : Nat} {stack more : Array Value}
    (inside : pos ≤ f.code.bytecode.size) (parts : f.stack = stack ++ more) :
    { f with pos, stack }.Bounded config module := by
  have room := hf.stack
  rw [parts, Array.size_append] at room
  refine ⟨hf.code, Nat.le_trans (Nat.le_add_right _ _) room, inside, hf.locals, hf.parameters,
    fun v d place code => hf.values v d (place.imp_left fun operand => ?_) code⟩
  exact parts ▸ Array.mem_append_left more operand

theorem Calls.lower_size (calls : f.Calls d args caller) : caller.stack.size < f.stack.size := by
  obtain ⟨-, parts, -, -⟩ := calls
  rw [parts, Array.size_append, Array.size_push]
  dsimp only
  omega

theorem Calls.caller_eq (calls : f.Calls d args caller) :
    caller.code = f.code ∧ caller.depth = f.depth ∧ caller.locals = f.locals := by
  cases calls
  exact ⟨rfl, rfl, rfl⟩

theorem Calls.holds_iff (calls : f.Calls d args caller) (slot : Nat) :
    caller.Holds slot ↔ f.Holds slot ∨ f.Assigns slot := by
  have idle : ¬ f.Assigns slot := by
    obtain ⟨at_, -, -, -⟩ := calls
    rintro ⟨index, after, at', -⟩
    cases (at_.unique at').1
  rw [or_iff_left idle, Holds, calls.caller_eq.2.2, Holds]

theorem Calls.caller_bounded (calls : f.Calls d args caller) (hf : f.Bounded config module) :
    caller.Bounded config module := by
  obtain ⟨at_, parts, -, -⟩ := calls
  rw [← Array.append_singleton, Array.append_assoc] at parts
  exact hf.cut at_.bounds.2 parts

theorem Calls.part (calls : f.Calls d args caller) (hf : f.Bounded config module) :
    d.PartOf module := by
  obtain ⟨-, parts, -, found⟩ := calls
  refine hf.values _ d (.inl ?_) found
  rw [parts]
  exact Array.mem_append_left _ Array.mem_push_self

theorem Calls.mem_of_mem (calls : f.Calls d args caller) {v : Value} (member : v ∈ args) :
    v ∈ f.stack := by
  obtain ⟨-, parts, -, -⟩ := calls
  rw [parts]
  exact Array.mem_append_right _ member

/-- A new frame has the arguments in its first variables and no value in the others. -/
theorem locals_enter (depth : Nat) (fits : args.size ≤ d.names.length) :
    (enter depth d args.toList).locals =
      args.map some ++ Array.replicate (d.names.length - args.size) none := by
  have assigned : (args.toList.map some).toArray = args.map some := by
    rw [← List.map_toArray, Array.toArray_toList]
  simp only [enter, CodeObject.localCount, Array.length_toList, Nat.max_eq_left fits, assigned]

theorem enter_holds_iff (depth slot : Nat) (fits : args.size ≤ d.names.length) :
    (enter depth d args.toList).Holds slot ↔ slot < args.size := by
  rw [Holds, locals_enter depth fits, Array.getElem?_append, Array.size_map]
  split
  next parameter => simp [parameter]
  next other => simp [Array.getElem?_replicate, other]

theorem enter_bounded (config : Config) (depth : Nat) (part : d.PartOf module)
    (fits : args.size ≤ d.names.length) (full : 0 < depth → args.size = d.argcount)
    (values : ∀ v ∈ args, ∀ e, v.code? = some e → e.PartOf module) :
    (enter depth d args.toList).Bounded config module := by
  refine ⟨part, Nat.zero_le _, Nat.zero_le _, ?_, ?_, ?_⟩
  · rw [locals_enter depth fits]
    simp [enter]
    omega
  · intro called slot parameter
    rw [enter_holds_iff depth slot fits, full called]
    exact parameter
  · rintro v e (operand | variable_) code
    · simp [enter] at operand
    · rw [locals_enter depth fits] at variable_
      simp at variable_
      exact values v variable_ e code

/-- The frame below goes on with what the frame on top returned. -/
theorem Bounded.resume (hg : g.Bounded config module) (hf : f.Bounded config module)
    (room : ∀ v, f.stack.back? = some v → g.stack.size < config.maxStack) :
    { g with stack := g.stack ++ f.stack.back?.toArray }.Bounded config module := by
  refine ⟨hg.code, ?_, hg.pos, hg.locals, hg.parameters, ?_⟩
  · have stack := hg.stack
    cases top : f.stack.back? with
    | none => simpa [top] using stack
    | some v => simpa [top, Nat.succ_le_iff] using room v top
  · rintro v d (operand | variable_) code
    · rcases Array.mem_append.mp operand with old | new
      · exact hg.values v d (.inl old) code
      · rw [Option.mem_toArray] at new
        exact hf.values v d (.inl (Array.mem_of_back? new)) code
    · exact hg.values v d (.inr variable_) code

theorem Stacked.count {frames : List Frame} (stacked : Stacked config module frames) :
    frames.length ≤ config.maxFrames := by
  cases stacked with
  | nil => exact Nat.zero_le _
  | cons _ _ room _ => exact room

theorem Stacked.of_mem {frames : List Frame} (stacked : Stacked config module frames)
    (member : f ∈ frames) : f.Bounded config module := by
  induction stacked with
  | nil => cases member
  | cons bounded _ _ _ ih =>
    rcases List.mem_cons.mp member with rfl | member
    · exact bounded
    · exact ih member

theorem Stacked.base {inner base : List Frame} (stacked : Stacked config module (inner ++ base)) :
    Stacked config module base := by
  induction inner with
  | nil => exact stacked
  | cons g inner ih =>
    cases stacked with
    | cons _ _ _ lower => exact ih lower

end

end Frame

namespace Machine

/-- Whatever turn the frame on top takes, the frames stay within their bounds. -/
theorem Turn.stacked {env : Setting} {module : CodeObject} {f : Frame} {rest : List Frame}
    {p : Progress} (turn : Turn env f rest p)
    (arguments : ∀ d : CodeObject, d.PartOf module → d.argcount ≤ d.names.length)
    (stacked : Frame.Stacked env.config module (f :: rest)) :
    Frame.Stacked env.config module p.machine.frames := by
  cases stacked with
  | cons hf depth room lower =>
  cases turn with
  | stay at_ stays => exact .cons (stays.bounded at_ hf) (stays.depth.trans depth) room lower
  | enter calls arity deep =>
    have part := calls.part hf
    have fits := arguments _ part
    rw [arity] at fits
    have entered := Frame.enter_bounded env.config (f.depth + 1) part fits (fun _ => arity.symm)
      fun v member e code => hf.values v e (.inl (calls.mem_of_mem member)) code
    have waits : Frame.Stacked env.config module (_ :: rest) :=
      .cons (calls.caller_bounded hf) (calls.caller_eq.2.1.trans depth) room lower
    rw [depth] at entered deep ⊢
    exact .cons entered rfl deep waits
  | tooDeep at_ parts _ | unallocated at_ parts _ =>
    exact .cons (hf.cut at_.bounds.2 parts) depth room lower
  | back _ below top =>
    cases below
    cases lower with
    | cons hg depth' room' lower' => exact .cons (hg.resume hf top) depth' room' lower'
  | full _ _ _ _ => exact lower
  | finish _ _ => exact .nil
  | raise => exact .nil
  | fail _ place parts =>
    refine .cons (hf.cut ?_ parts) depth room lower
    rcases place with rfl | ⟨i, at_⟩
    · exact hf.pos
    · exact at_.bounds.2

/-- What holds at every moment of a run of the module. -/
structure Regular (env : Setting) (module : CodeObject) (m : Machine) : Prop where
  standard : env.hierarchy.Standard
  arguments : ∀ d : CodeObject, d.PartOf module → d.argcount ≤ d.names.length
  closed : m.Closed env.hierarchy
  stacked : Frame.Stacked env.config module m.frames
  allocates : m.frames ≠ [] → env.config.Allocates

namespace Regular

variable {env : Setting} {module : CodeObject} {m : Machine}

theorem turn (regular : m.Regular env module) {f : Frame} {rest : List Frame}
    (frames : m.frames = f :: rest) : Turn env f rest (m.step env) :=
  step_turn env regular.standard regular.closed frames

theorem step (regular : m.Regular env module) : (m.step env).machine.Regular env module := by
  have closed : (m.step env).Closed env.hierarchy [] :=
    step_closed env regular.standard regular.closed
  have stacked := regular.stacked
  refine ⟨regular.standard, regular.arguments, closed.machine, ?_, fun some => ?_⟩
  · cases frames : m.frames with
    | nil =>
      rw [step_nil env frames, Progress.machine, frames]
      exact .nil
    | cons f rest => exact (regular.turn frames).stacked regular.arguments (frames ▸ stacked)
  · refine regular.allocates fun frames => some ?_
    rw [step_nil env frames, Progress.machine, frames]

theorem exists_turn (regular : m.Regular env module) {m₁ : Machine}
    (stepped : m.step env = .running m₁) :
    ∃ f rest, m.frames = f :: rest ∧ Turn env f rest (.running m₁) := by
  cases frames : m.frames with
  | nil => cases (step_nil env frames).symm.trans stepped
  | cons f rest => exact ⟨f, rest, rfl, stepped ▸ regular.turn frames⟩

end Regular

section

variable {env : Setting} {store : Store} {code : CodeObject} {m : Machine}

theorem start_eq (env : Setting) (store : Store) (code : CodeObject) :
    start env store code =
      if env.config.maxFrames = 0 then
        .ended ⟨[], store, #[]⟩ (.fatal Fault.callDepthExceeded.error)
      else if env.config.Allocates then .running ⟨[.enter 0 code []], store, #[]⟩
      else .panicked ⟨[], store, #[]⟩ := by
  rw [start, enter_eq]
  simp only [Nat.le_zero]

/-- A run begins with the frame of its code, or with none. -/
theorem start_frames (env : Setting) (store : Store) (code : CodeObject) :
    (start env store code).machine.frames = [] ∨
      env.config.maxFrames ≠ 0 ∧ env.config.Allocates ∧
        (start env store code).machine.frames = [.enter 0 code []] := by
  rw [start_eq]
  split
  next => exact .inl rfl
  next room =>
    split
    next allocates => exact .inr ⟨room, allocates, rfl⟩
    next => exact .inl rfl

theorem start_eq_running (started : start env store code = .running m) :
    m.frames = [.enter 0 code []] := by
  rw [start_eq] at started
  split at started
  next => cases started
  next =>
    split at started
    next => cases started; rfl
    next => cases started

theorem start_eq_ended {outcome : Outcome} (started : start env store code = .ended m outcome) :
    m.frames = [] ∧ outcome = .fatal Fault.callDepthExceeded.error := by
  rw [start_eq] at started
  split at started
  next => cases started; exact ⟨rfl, rfl⟩
  next => split at started <;> cases started

theorem start_ne_panicked (allocates : env.config.Allocates) :
    start env store code ≠ .panicked m := by
  rw [start_eq, if_pos allocates]
  split <;> exact nofun

theorem start_ne_running (none : ¬ env.config.Allocates) : start env store code ≠ .running m := by
  rw [start_eq, if_neg none]
  split <;> exact nofun

end

end Machine

def Progress.report : Progress → Option (Outcome × String)
  | ended m outcome => some (outcome, m.printed)
  | _ => none

theorem Progress.run_regular {env : Setting} {module : CodeObject} {p : Progress}
    (regular : p.machine.Regular env module) (limit : Nat) :
    (p.run env limit).machine.Regular env module :=
  run_induction (P := fun p => p.machine.Regular env module) regular
    (fun _ regular => Machine.Regular.step regular) limit

namespace Vm

/-- How far the run of the code is after so many steps. -/
def progress (vm : Vm) (host : Host) (code : CodeObject) (steps : Nat) : Progress :=
  (Machine.start (vm.setting host) vm.store code).run (vm.setting host) steps

theorem runWithin_eq (vm : Vm) (host : Host) (limit : Nat) (code : CodeObject) :
    vm.runWithin host limit code =
      ((vm.progress host code limit).report,
        { vm with
          store := (vm.progress host code limit).machine.store
          frames := (vm.progress host code limit).machine.frames }) := by
  unfold runWithin progress
  dsimp only
  cases (Machine.start (vm.setting host) vm.store code).run (vm.setting host) limit <;> rfl

section

variable {vm : Vm} {host : Host} {code : CodeObject} {steps : Nat} {m : Machine}

theorem progress_zero (vm : Vm) (host : Host) (code : CodeObject) :
    vm.progress host code 0 = Machine.start (vm.setting host) vm.store code :=
  Progress.run_zero _ _

theorem progress_next (vm : Vm) (host : Host) (code : CodeObject) (steps : Nat) :
    vm.progress host code (steps + 1) = (vm.progress host code steps).next (vm.setting host) :=
  Progress.run_succ _ _ steps

theorem progress_succ (running : vm.progress host code steps = .running m) :
    vm.progress host code (steps + 1) = m.step (vm.setting host) := by
  rw [progress_next, running]
  rfl

/-- A run goes on, or it stays as it is. -/
theorem progress_cases (vm : Vm) (host : Host) (code : CodeObject) (steps : Nat) :
    (∃ m, vm.progress host code steps = .running m) ∨
      vm.progress host code (steps + 1) = vm.progress host code steps := by
  rw [progress_next]
  cases vm.progress host code steps with
  | running m => exact .inl ⟨m, rfl⟩
  | ended m outcome => exact .inr rfl
  | panicked m => exact .inr rfl

theorem progress_later (stopped : ∀ m, vm.progress host code steps ≠ .running m) {later : Nat}
    (after : steps ≤ later) : vm.progress host code later = vm.progress host code steps := by
  induction after with
  | refl => rfl
  | @step later _ ih =>
    rcases vm.progress_cases host code later with ⟨m, running⟩ | still
    · exact absurd (ih.symm.trans running) (stopped m)
    · exact still.trans ih

theorem progress_later_ended {outcome : Outcome}
    (ended : vm.progress host code steps = .ended m outcome) {later : Nat} (after : steps ≤ later) :
    vm.progress host code later = .ended m outcome :=
  (progress_later (fun _ running => nomatch ended.symm.trans running) after).trans ended

theorem progress_earlier (running : vm.progress host code steps = .running m) {earlier : Nat}
    (before : earlier ≤ steps) : ∃ m', vm.progress host code earlier = .running m' := by
  refine Classical.byContradiction fun none => ?_
  have stopped : ∀ m', vm.progress host code earlier ≠ .running m' := fun m' there => none ⟨m', there⟩
  exact stopped m ((progress_later stopped before).symm.trans running)

end

/-- The frames keep within their bounds at every moment of the run. -/
def Regular (vm : Vm) (host : Host) (code : CodeObject) : Prop :=
  ∀ steps, (vm.progress host code steps).machine.Regular (vm.setting host) code

theorem Regular.at {vm : Vm} {host : Host} {code : CodeObject} (regular : vm.Regular host code)
    {steps : Nat} {m : Machine} (reached : vm.progress host code steps = .running m) :
    m.Regular (vm.setting host) code := by
  have moment := regular steps
  rwa [reached] at moment

theorem Consistent.load {vm vm' : Vm} (consistent : vm.Consistent) {bytes : List UInt8}
    {code : CodeObject} (loaded : vm.load bytes = .ok (code, vm')) : vm'.Consistent := by
  obtain ⟨-, -, hierarchy, resolver, -⟩ := load_eq_ok loaded
  have sound := consistent.sound
  rw [← hierarchy, ← resolver] at sound
  exact ⟨hierarchy ▸ consistent.standard, sound⟩

theorem Consistent.start_closed {vm : Vm} (consistent : vm.Consistent) {code : CodeObject}
    (storable : ∀ v ∈ code.consts, v.Storable) (host : Host) :
    (Machine.start (vm.setting host) vm.store code).Closed (vm.setting host).hierarchy [] :=
  Machine.start_closed (vm.setting host) vm.store consistent.sound storable

theorem start_regular {vm vm' : Vm} (consistent : vm.Consistent) {bytes : List UInt8}
    {code : CodeObject} (loaded : vm.load bytes = .ok (code, vm')) (host : Host) :
    (Machine.start (vm'.setting host) vm'.store code).machine.Regular (vm'.setting host) code := by
  have consistent' : vm'.Consistent := consistent.load loaded
  have closed := consistent'.start_closed (load_eq_ok loaded).2.1 host
  have arguments (d : CodeObject) (part : d.PartOf code) : d.argcount ≤ d.names.length :=
    part.elim fun _ within => (load_arguments loaded within).1
  rcases Machine.start_frames (vm'.setting host) vm'.store code with none | ⟨room, allocates, one⟩
  · exact ⟨consistent'.standard, arguments, closed.machine, none ▸ .nil,
      fun some => absurd none some⟩
  · have entered : (Frame.enter 0 code []).Bounded vm'.config code :=
      Frame.enter_bounded vm'.config 0 (CodeObject.partOf_refl code) (Nat.zero_le _)
        nofun fun _ member => nomatch member
    exact ⟨consistent'.standard, arguments, closed.machine,
      one ▸ .cons entered rfl (Nat.pos_of_ne_zero room) .nil, fun _ => allocates⟩

theorem regular_of_load {vm vm' : Vm} (consistent : vm.Consistent) {bytes : List UInt8}
    {code : CodeObject} (loaded : vm.load bytes = .ok (code, vm')) (host : Host) :
    vm'.Regular host code :=
  Progress.run_regular (start_regular consistent loaded host)

end Vm

end SlotVM
