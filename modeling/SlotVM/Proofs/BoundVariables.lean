import SlotVM.Proofs.FrameIsolation

namespace SlotVM

namespace Frame

variable {f : Frame} {index : UInt32} {next : Nat}

theorem plan_of_load_bound (at_ : f.At (.load index) next) {v : Value}
    (bound : f.locals[index.toNat]? = some (some v)) (h : Hierarchy) :
    f.plan h = .result { f with pos := next } (.give v) := by
  rw [plan_of_at at_, planOf, planLoad, bound]

theorem plan_of_load_unbound (at_ : f.At (.load index) next)
    (unbound : f.locals[index.toNat]? = some none) (h : Hierarchy) :
    f.plan h = .result { f with pos := next }
      (.throw (.unboundName (localName { f with pos := next } index.toNat))) := by
  rw [plan_of_at at_, planOf, planLoad, unbound]

end Frame

theorem Hierarchy.Standard.nameOf_nameException {h : Hierarchy} (standard : h.Standard) :
    h.nameOf ClassId.nameException = "NameException" := by
  rw [standard.nameOf_eq rfl]
  decide +kernel

namespace Machine

variable {env : Setting} {m : Machine}

/-- Reading one of the named variables raises a name exception just if it has no value. -/
theorem step_load {module : CodeObject} (regular : m.Regular env module) {f : Frame}
    {rest : List Frame} (frames : m.frames = f :: rest) {index : UInt32} {next : Nat}
    (at_ : f.At (.load index) next) (named : index.toNat < f.code.names.length) :
    (∃ m' message, m.step env = .ended m' (.uncaught "NameException" message)) ↔
      ¬ f.Holds index.toNat := by
  obtain ⟨cache, -, eq⟩ := step_eq env regular.standard regular.closed frames
  have hf := regular.stacked.of_mem (frames ▸ List.mem_cons_self)
  have inside : index.toNat < f.locals.size := hf.locals ▸ named
  cases local_ : f.locals[index.toNat] with
  | some v =>
    have bound : f.locals[index.toNat]? = some (some v) := by
      rw [Array.getElem?_eq_getElem inside, local_]
    rw [Frame.plan_of_load_bound at_ bound] at eq
    refine iff_of_false ?_ (not_not_intro ⟨v, bound⟩)
    rintro ⟨m', message, raised⟩
    rw [raised] at eq
    change _ = apply env _ (Frame.push env.config _ v) at eq
    unfold Frame.push at eq
    split at eq <;> cases eq
  | none =>
    have unbound : f.locals[index.toNat]? = some none := by
      rw [Array.getElem?_eq_getElem inside, local_]
    rw [Frame.plan_of_load_unbound at_ unbound] at eq
    refine iff_of_true ?_ ?_
    · have name := regular.standard.nameOf_nameException
      change _ = unwind env.hierarchy ⟨rest, ⟨cache, _⟩, m.output⟩
        ((Effect.throw (.unboundName _)).perform m.store.heap).1 at eq
      rw [unwind_thrown _ _ _ rfl, Condition.cls, name] at eq
      exact ⟨_, _, eq⟩
    · rintro ⟨v, bound⟩
      rw [unbound] at bound
      cases bound

theorem Turn.entered {f : Frame} {rest : List Frame} {m₁ : Machine}
    (turn : Turn env f rest (.running m₁)) (more : rest.length + 1 < m₁.frames.length) :
    ∃ d args caller, f.Calls d args caller ∧ d.argcount = args.size ∧
      m₁.frames = .enter (f.depth + 1) d args.toList :: caller :: rest := by
  cases turn with
  | stay _ _ => exact absurd more (Nat.lt_irrefl _)
  | enter calls arity _ => exact ⟨_, _, _, calls, arity, rfl⟩
  | back _ below _ =>
    subst below
    simp only [List.length_cons] at more
    omega

end Machine

theorem exists_suffix {frames : List Frame} {n : Nat} (within : n < frames.length) :
    ∃ f base, f :: base <:+ frames ∧ base.length = n := by
  induction frames with
  | nil => cases within
  | cons g rest ih =>
    by_cases lower : n < rest.length
    · obtain ⟨f, base, place, length⟩ := ih lower
      exact ⟨f, base, place.trans (List.suffix_cons g rest), length⟩
    · exact ⟨g, rest, List.suffix_rfl, by rw [List.length_cons] at within; omega⟩

namespace Vm

/-- Before this moment the frame with `depth` others below it, which was not left since, assigned to
the variable. -/
def AssignedBefore (vm : Vm) (host : Host) (code : CodeObject) (steps depth slot : Nat) : Prop :=
  ∃ k < steps, vm.Keeps host code depth k steps ∧ ∃ f base,
    (vm.progress host code k).machine.frames = f :: base ∧ base.length = depth ∧ f.Assigns slot

section

variable {vm : Vm} {host : Host} {code : CodeObject} {steps depth slot : Nat}

theorem assignedBefore_succ
    (kept : depth < (vm.progress host code (steps + 1)).machine.frames.length) :
    vm.AssignedBefore host code (steps + 1) depth slot ↔
      vm.AssignedBefore host code steps depth slot ∨ ∃ f base,
        (vm.progress host code steps).machine.frames = f :: base ∧ base.length = depth ∧
          f.Assigns slot := by
  constructor
  · rintro ⟨k, before, keeps, assigns⟩
    rcases Nat.lt_succ_iff_lt_or_eq.mp before with earlier | rfl
    · exact .inl ⟨k, earlier, fun j least most => keeps j least (Nat.le_succ_of_le most), assigns⟩
    · exact .inr assigns
  · rintro (⟨k, before, keeps, assigns⟩ | ⟨f, base, frames, length, assigns⟩)
    · refine ⟨k, Nat.lt_succ_of_lt before, fun j least most => ?_, assigns⟩
      rcases Nat.le_succ_iff.mp most with earlier | rfl
      · exact keeps j least earlier
      · exact kept
    · refine ⟨steps, Nat.lt_succ_self steps, fun j least most => ?_,
        f, base, frames, length, assigns⟩
      rcases Nat.le_succ_iff.mp most with earlier | rfl
      · obtain rfl : j = steps := Nat.le_antisymm earlier least
        rw [frames, List.length_cons, length]
        exact Nat.lt_succ_self depth
      · exact kept

/-- By induction on the steps: a frame is new, or it was there before the step, on top or not. -/
theorem progress_holds (regular : vm.Regular host code) {m : Machine}
    (reached : vm.progress host code steps = .running m) {g : Frame} {base : List Frame}
    (place : g :: base <:+ m.frames) (slot : Nat) :
    g.Holds slot ↔ (base ≠ [] ∧ slot < g.code.argcount) ∨
      vm.AssignedBefore host code steps base.length slot := by
  induction steps generalizing m g with
  | zero =>
    rw [progress_zero] at reached
    rw [Machine.start_eq_running reached] at place
    rcases List.suffix_cons_iff.mp place with same | lower
    · cases same
      have empty : (Frame.enter 0 code (#[] : Array Value).toList).Holds slot ↔ slot < 0 :=
        Frame.enter_holds_iff 0 slot (Nat.zero_le _)
      refine iff_of_false (fun holds => Nat.not_lt_zero slot (empty.mp holds)) ?_
      rintro (⟨called, -⟩ | ⟨k, before, -⟩)
      · exact called rfl
      · exact Nat.not_lt_zero k before
    · cases List.suffix_nil.mp lower
  | succ steps ih =>
    have kept : base.length < (vm.progress host code (steps + 1)).machine.frames.length := by
      rw [reached]
      exact place.length_le
    obtain ⟨m₀, reached₀⟩ := progress_earlier reached (Nat.le_succ steps)
    have regular₀ := regular.at reached₀
    rw [progress_succ reached₀] at reached
    obtain ⟨top, rest, frames, turn⟩ := regular₀.exists_turn reached
    by_cases old : base.length < m₀.frames.length
    · obtain ⟨f, below, place₀, length⟩ := exists_suffix old
      obtain ⟨g', place', code', -, holds⟩ :=
        turn.frame (frames ▸ place₀) (length ▸ place.length_le)
      have count : (g' :: below).length = (g :: base).length := congrArg Nat.succ length
      have same : g' :: below = g :: base :=
        (List.suffix_of_suffix_length_le place' place (Nat.le_of_eq count)).eq_of_length count
      cases same
      -- the frame assigns in this step just if it is the one on top
      have assigns : (∃ f' below, (vm.progress host code steps).machine.frames = f' :: below ∧
          below.length = base.length ∧ f'.Assigns slot) ↔
          f :: base = top :: rest ∧ f.Assigns slot := by
        rw [reached₀]
        constructor
        · rintro ⟨f', below, frames', length', assigns⟩
          cases (frames' ▸ place₀).eq_of_length (congrArg Nat.succ length'.symm)
          exact ⟨frames'.symm.trans frames, assigns⟩
        · rintro ⟨same, assigns⟩
          exact ⟨f, base, frames.trans same.symm, rfl, assigns⟩
      rw [holds ⟨m, rfl⟩, ih reached₀ place₀, assignedBefore_succ kept, assigns, code', or_assoc]
    · have outside : rest.length + 1 ≤ base.length :=
        Nat.le_of_not_lt fun inside => old (frames ▸ inside)
      have more : rest.length + 1 < m.frames.length :=
        Nat.lt_of_le_of_lt outside place.length_le
      obtain ⟨d, args, caller, calls, arity, entered⟩ := turn.entered more
      rw [entered] at place
      rcases List.suffix_cons_iff.mp place with same | lower
      · cases same
        have hf := regular₀.stacked.of_mem (frames ▸ List.mem_cons_self)
        have fits : args.size ≤ d.names.length := arity ▸ regular₀.arguments d (calls.part hf)
        have new : ¬ vm.AssignedBefore host code (steps + 1) (caller :: rest).length slot := by
          rintro ⟨k, before, keeps, -⟩
          have there := keeps steps (Nat.le_of_lt_succ before) (Nat.le_succ steps)
          rw [reached₀] at there
          exact old there
        rw [Frame.enter_holds_iff _ slot fits, or_iff_left new, ← arity]
        exact (and_iff_right (List.cons_ne_nil caller rest)).symm
      · exact absurd lower.length_le (Nat.not_le_of_lt (Nat.lt_succ_of_le outside))

/-- The bounds that the run of the code keeps to, and which variables have values in it. -/
structure WithinBounds (vm : Vm) (host : Host) (code : CodeObject) : Prop where
  frames : ∀ steps, (vm.progress host code steps).machine.frames.length ≤ vm.config.maxFrames
  stack : ∀ steps, ∀ f ∈ (vm.progress host code steps).machine.frames,
    f.stack.size ≤ vm.config.maxStack
  pos : ∀ steps, ∀ f ∈ (vm.progress host code steps).machine.frames,
    f.pos ≤ f.code.bytecode.size
  locals : ∀ steps, ∀ f ∈ (vm.progress host code steps).machine.frames,
    f.locals.size = f.code.names.length
  /-- All frames but the lowest were entered by a call. -/
  parameters : ∀ steps f base, f :: base <:+ (vm.progress host code steps).machine.frames →
    base ≠ [] → ∀ slot < f.code.argcount, f.Holds slot
  stays : ∀ first last f base, f :: base <:+ (vm.progress host code first).machine.frames →
    first ≤ last → vm.Keeps host code base.length first last →
    ∃ g, g :: base <:+ (vm.progress host code last).machine.frames ∧ g.code = f.code ∧
      ∀ slot, f.Holds slot → g.Holds slot
  unbound : ∀ steps m f base index next, vm.progress host code steps = .running m →
    m.frames = f :: base → f.At (.load index) next → index.toNat < f.code.names.length →
    ((∃ m' message,
        vm.progress host code (steps + 1) = .ended m' (.uncaught "NameException" message)) ↔
      ¬ vm.AssignedBefore host code steps base.length index.toNat ∧
        ¬ (base ≠ [] ∧ index.toNat < f.code.argcount))

end

/-- Every run of a module keeps to the limits of the machine, the length of the code and its
variables. -/
theorem within_bounds {vm vm' : Vm} (consistent : vm.Consistent) {bytes : List UInt8}
    {code : CodeObject} (loaded : vm.load bytes = .ok (code, vm')) (host : Host) :
    vm'.WithinBounds host code := by
  have regular := regular_of_load consistent loaded host
  refine ⟨fun steps => (regular steps).stacked.count,
    fun steps f member => ((regular steps).stacked.of_mem member).stack,
    fun steps f member => ((regular steps).stacked.of_mem member).pos,
    fun steps f member => ((regular steps).stacked.of_mem member).locals, ?_,
    fun first last f base place later keeps => progress_frame regular place later keeps, ?_⟩
  · intro steps f base ⟨inner, parts⟩ called
    have stacked := (regular steps).stacked
    rw [← parts] at stacked
    cases stacked.base with
    | cons hf depth _ _ => exact hf.parameters (depth ▸ List.length_pos_iff.mpr called)
  · intro steps m f base index next reached frames at_ named
    have place : f :: base <:+ m.frames := frames ▸ List.suffix_rfl
    have holds := progress_holds regular reached place index.toNat
    rw [progress_succ reached,
      Machine.step_load (regular.at reached) frames at_ named, holds, not_or]
    exact and_comm

end Vm

namespace UnboundVariable

/-- A module that assigns to its first variable and then reads its second one. -/
def source : Segment :=
  ⟨"m", 0, ["x", "y"], [], [], #[0x31, 7, 0, 0, 0, 0x3c, 0, 0, 0, 0, 0x3d, 1, 0, 0, 0]⟩

theorem source_encodable : source.Encodable Segment.maxNesting :=
  .of_below (by constructor <;> decide) (by simp [source])

/-- The virtual machine that has loaded the module. -/
def vm : Vm := ((Vm.new {}).eval (Segment.load { source with name := "<module>" })).2

/-- The frame of the module at its start, and before the second and the third instruction. -/
def first : Frame :=
  ⟨0, ⟨"<module>", 0, ["x", "y"], [], [], source.code⟩, #[none, none], #[], 0⟩

def second : Frame := { first with stack := #[.int 7], pos := 5 }

def third : Frame := { first with locals := #[some (.int 7), none], pos := 10 }

/-- The run of the module when it has this frame. -/
def machine (f : Frame) : Machine := ⟨[f], vm.store, #[]⟩

theorem load_source : (Vm.new {}).load source.writeModule = .ok (first.code, vm) :=
  Vm.load_written (Vm.new {}) source_encodable

theorem progress_first : vm.progress .none first.code 0 = .running (machine first) := rfl

theorem progress_second : vm.progress .none first.code 1 = .running (machine second) :=
  (Vm.progress_succ progress_first).trans rfl

theorem progress_third : vm.progress .none first.code 2 = .running (machine third) :=
  (Vm.progress_succ progress_second).trans rfl

theorem first_at : first.At (.loadInt 7) 5 := rfl

theorem second_at : second.At (.store 0) 10 := rfl

theorem third_at : third.At (.load 1) 15 := rfl

theorem not_assignedBefore : ¬ vm.AssignedBefore .none first.code 2 0 1 := by
  rintro ⟨k, before, -, f, base, frames, -, index, next, at_, same⟩
  obtain rfl | rfl : k = 0 ∨ k = 1 := by omega
  · rw [progress_first] at frames
    cases frames
    cases (first_at.unique at_).1
  · rw [progress_second] at frames
    cases frames
    cases (second_at.unique at_).1
    cases same

theorem within_bounds_unbound :
    (Vm.new {}).Consistent ∧ (Vm.new {}).load source.writeModule = .ok (first.code, vm) ∧
    vm.WithinBounds .none first.code ∧
    vm.progress .none first.code 2 = .running (machine third) ∧ third.At (.load 1) 15 ∧
    ∃ m message, vm.progress .none first.code 3 = .ended m (.uncaught "NameException" message) := by
  have bounds := Vm.within_bounds (Vm.new_consistent {}) load_source .none
  have raised := bounds.unbound 2 _ third [] 1 15 progress_third rfl third_at (by decide)
  exact ⟨Vm.new_consistent {}, load_source, bounds, progress_third, third_at,
    raised.mpr ⟨not_assignedBefore, fun called => called.1 rfl⟩⟩

end UnboundVariable

end SlotVM
