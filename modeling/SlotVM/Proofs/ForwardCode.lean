import SlotVM.Proofs.FrameBounds

namespace SlotVM

/-- No position of the code reads as a jump backward. -/
def CodeObject.Forward (c : CodeObject) : Prop :=
  ∀ pos guard offset next,
    Instruction.decode c.bytecode pos ≠ .ok (.jump .backward guard offset, next)

theorem CodeObject.forward_of_bytes {c : CodeObject}
    (bytes : ∀ guard, (Opcode.jump .backward guard).byte ∉ c.bytecode.toList) : c.Forward := by
  intro pos guard offset next decoded
  obtain ⟨-, front, rest, parts, -⟩ := Instruction.decode_eq_ok_iff.mp decoded
  refine bytes guard (parts ▸ List.mem_append_right front ?_)
  exact List.mem_append_left rest List.mem_cons_self

namespace Frame

/-- What a step is worth in a frame with `level` frames below it: more than all that can happen in a
frame above it. -/
def worth (bound limit level : Nat) : Nat := (bound + 2) ^ (limit - level)

/-- A bound on the steps that frames can still make, where code is at most `bound` bytes long and
there are at most `limit` frames. -/
def stepsLeft (bound limit : Nat) : List Frame → Nat
  | [] => 0
  | f :: rest => (bound + 1 - f.pos) * worth bound limit rest.length + stepsLeft bound limit rest

theorem worth_pos (bound limit level : Nat) : 0 < worth bound limit level :=
  Nat.pow_pos (Nat.succ_pos _)

theorem lt_worth (bound : Nat) {limit level : Nat} (room : level + 1 < limit) :
    (bound + 1) * worth bound limit (level + 1) < worth bound limit level := by
  have next : limit - level = limit - (level + 1) + 1 := by omega
  unfold worth
  rw [next, Nat.pow_succ, Nat.mul_comm]
  exact (Nat.mul_lt_mul_left (worth_pos bound limit (level + 1))).mpr (Nat.lt_succ_self _)

theorem stepsLeft_start (bound limit : Nat) (code : CodeObject) :
    stepsLeft bound limit [.enter 0 code []] < (bound + 2) ^ (limit + 1) := by
  have positive : 0 < (bound + 2) ^ limit := Nat.pow_pos (Nat.succ_pos _)
  simp only [stepsLeft, worth, enter, List.length_nil, Nat.sub_zero, Nat.add_zero]
  rw [Nat.pow_succ, Nat.mul_comm]
  exact (Nat.mul_lt_mul_left positive).mpr (Nat.lt_succ_self _)

variable {config : Config} {f g : Frame} {i : Instruction} {next : Nat}

theorem le_of_target?_forward {offset pos : Nat} (found : f.target? .forward offset = some pos) :
    f.pos ≤ pos := by
  unfold target? at found
  grind

theorem Stays.pos_lt (stays : f.Stays config i next g) (at_ : f.At i next)
    (forward : f.code.Forward) : f.pos < g.pos := by
  have bounds := at_.bounds
  rcases stays.pos with after | ⟨dir, guard, offset, rfl, target⟩
  · omega
  · cases dir with
    | forward =>
      have further : next ≤ g.pos := le_of_target?_forward target
      omega
    | backward => exact absurd at_ (forward f.pos guard offset next)

end Frame

namespace Machine

variable {env : Setting} {module : CodeObject}

/-- A turn after which the run goes on leaves fewer steps. -/
theorem Turn.stepsLeft_lt {f : Frame} {rest : List Frame} {m₁ : Machine} {bound : Nat}
    (turn : Turn env f rest (.running m₁)) (forward : f.code.Forward)
    (small : f.code.bytecode.size ≤ bound) (inside : f.pos ≤ f.code.bytecode.size)
    (depth : f.depth = rest.length) :
    Frame.stepsLeft bound env.config.maxFrames m₁.frames <
      Frame.stepsLeft bound env.config.maxFrames (f :: rest) := by
  have positive := Frame.worth_pos bound env.config.maxFrames rest.length
  cases turn with
  | stay at_ stays =>
    have later := stays.pos_lt at_ forward
    refine Nat.add_lt_add_right ((Nat.mul_lt_mul_right positive).mpr ?_) _
    omega
  | @enter d args caller store output calls _ room =>
    rw [depth] at room
    have above := Frame.lt_worth bound room
    -- the caller has gone on by one position at least, which pays for the new frame
    have later : f.pos < caller.pos := by
      obtain ⟨at_, -, -, -⟩ := calls
      exact at_.bounds.1
    have paid : (bound + 1 - caller.pos + 1) * Frame.worth bound env.config.maxFrames rest.length ≤
        (bound + 1 - f.pos) * Frame.worth bound env.config.maxFrames rest.length :=
      Nat.mul_le_mul_right _ (by omega)
    rw [Nat.succ_mul] at paid
    simp only [Frame.stepsLeft, Frame.enter, List.length_cons, Nat.sub_zero]
    omega
  | back _ below _ =>
    subst below
    exact Nat.lt_add_of_pos_left (Nat.mul_pos (by omega) positive)

/-- All code of the module jumps forward only and is at most so many bytes long. -/
structure Advancing (bound : Nat) (module : CodeObject) : Prop where
  forward : ∀ d : CodeObject, d.PartOf module → d.Forward
  small : ∀ d : CodeObject, d.PartOf module → d.bytecode.size ≤ bound

theorem Regular.stepsLeft_lt {m m₁ : Machine} {bound : Nat} (regular : m.Regular env module)
    (advancing : Advancing bound module) (stepped : m.step env = .running m₁) :
    Frame.stepsLeft bound env.config.maxFrames m₁.frames <
      Frame.stepsLeft bound env.config.maxFrames m.frames := by
  obtain ⟨f, rest, frames, turn⟩ := regular.exists_turn stepped
  have stacked := regular.stacked
  rw [frames] at stacked ⊢
  cases stacked with
  | cons hf depth _ _ =>
    exact turn.stepsLeft_lt (advancing.forward _ hf.code) (advancing.small _ hf.code) hf.pos depth

/-- A run that is regular cannot panic in a step: the operands of its frames were given memory. -/
theorem Regular.step_ne_panicked {m m' : Machine} (regular : m.Regular env module) :
    m.step env ≠ .panicked m' := by
  intro panicked
  cases frames : m.frames with
  | nil => cases (step_nil env frames).symm.trans panicked
  | cons f rest =>
    have turn := regular.turn frames
    rw [panicked] at turn
    cases turn with
    | unallocated _ _ none => exact none (regular.allocates (frames ▸ List.cons_ne_nil f rest))

theorem Regular.run_ends {m : Machine} {bound : Nat} (regular : m.Regular env module)
    (advancing : Advancing bound module) {limit : Nat}
    (enough : Frame.stepsLeft bound env.config.maxFrames m.frames < limit) :
    ∃ m' outcome, m.run env limit = .ended m' outcome := by
  induction limit generalizing m with
  | zero => exact absurd enough (Nat.not_lt_zero _)
  | succ limit ih =>
    unfold Machine.run
    cases stepped : m.step env with
    | ended m' outcome => exact ⟨m', outcome, rfl⟩
    | panicked m' => exact absurd stepped regular.step_ne_panicked
    | running m₁ =>
      have fewer := regular.stepsLeft_lt advancing stepped
      have next := regular.step
      rw [stepped] at next
      exact ih next (by omega)

end Machine

namespace Vm

variable {vm vm' : Vm} {bytes : List UInt8} {code : CodeObject}

/-- The length of the code of a module fits into four bytes. -/
theorem load_code_size (loaded : vm.load bytes = .ok (code, vm')) {d : CodeObject}
    (part : d.PartOf code) : d.bytecode.size ≤ 2 ^ 32 - 1 := by
  obtain ⟨s, stands, -, encodable⟩ := load_segment? loaded
  obtain ⟨n, within⟩ := part
  obtain ⟨t, within, stands⟩ := within.segment? stands
  obtain ⟨-, -, -, -, bytecode, -⟩ := CodeObject.segment?_eq_some_iff.mp stands
  rw [bytecode]
  exact Nat.le_sub_one_of_lt (encodable n t within).1.code

/-- The run of a module ends, whatever it calls and however deep, if no code of the module jumps
back. -/
theorem run_of_forward_ends (consistent : vm.Consistent)
    (loaded : vm.load bytes = .ok (code, vm'))
    (forward : ∀ d : CodeObject, d.PartOf code → d.Forward) (host : Host) :
    (vm'.config.Allocates → ∃ outcome printed,
      (vm'.runWithin host ((2 ^ 32 + 1) ^ (vm'.config.maxFrames + 1)) code).1 =
        some (outcome, printed)) ∧
    (¬ vm'.config.Allocates → ∀ m, vm'.progress host code 0 ≠ .running m) := by
  have regular := start_regular consistent loaded host
  have advancing : Machine.Advancing (2 ^ 32 - 1) code :=
    ⟨forward, fun d part => load_code_size loaded part⟩
  refine ⟨fun allocates => ?_, fun none m => ?_⟩
  · have ends : ∃ m outcome, vm'.progress host code ((2 ^ 32 + 1) ^ (vm'.config.maxFrames + 1)) =
        .ended m outcome := by
      unfold progress
      cases started : Machine.start (vm'.setting host) vm'.store code with
      | ended m outcome => exact ⟨m, outcome, rfl⟩
      | panicked m => exact absurd started (Machine.start_ne_panicked allocates)
      | running m =>
        rw [started] at regular
        have enough := Frame.stepsLeft_start (2 ^ 32 - 1) vm'.config.maxFrames code
        rw [← Machine.start_eq_running started] at enough
        exact Machine.Regular.run_ends regular advancing enough
    obtain ⟨m, outcome, ended⟩ := ends
    refine ⟨outcome, m.printed, ?_⟩
    rw [runWithin_eq, ended]
    rfl
  · rw [progress_zero]
    exact Machine.start_ne_running none

end Vm

namespace SelfApplication

/-- A function that calls its argument with itself as the argument. -/
def function : CodeObject := ⟨"f", 1, ["g"], [], [], #[0x3d, 0, 0, 0, 0, 0x3d, 0, 0, 0, 0, 0x45, 1]⟩

/-- A module that calls the function with itself. -/
def source : Segment :=
  ⟨"m", 0, [], [],
    [.code ⟨"f", 1, ["g"], [], [], #[0x3d, 0, 0, 0, 0, 0x3d, 0, 0, 0, 0, 0x45, 1]⟩],
    #[0x33, 0, 0x33, 0, 0x45, 1]⟩

theorem source_encodable : source.Encodable Segment.maxNesting := by
  refine .of_below (by constructor <;> decide) fun t member => ?_
  simp only [source, List.mem_cons, Const.code.injEq, List.not_mem_nil, or_false] at member
  subst member
  exact .of_below (by constructor <;> decide) (by simp)

def module : CodeObject :=
  ⟨"<module>", 0, [], [], [.object ⟨0, .code, .code function⟩], #[0x33, 0, 0x33, 0, 0x45, 1]⟩

/-- The virtual machine, with room for two frames, that has loaded the module. -/
def vm : Vm :=
  ((Vm.new { maxFrames := 2 }).eval (Segment.load { source with name := "<module>" })).2

theorem load_source :
    (Vm.new { maxFrames := 2 }).load source.writeModule = .ok (module, vm) :=
  Vm.load_written (Vm.new { maxFrames := 2 }) source_encodable

theorem module_forward (d : CodeObject) (part : d.PartOf module) : d.Forward := by
  obtain ⟨n, within⟩ := part
  cases within with
  | here => exact CodeObject.forward_of_bytes fun guard => by cases guard <;> decide
  | inside member code within =>
    cases List.mem_singleton.mp member
    cases code
    cases within with
    | here => exact CodeObject.forward_of_bytes fun guard => by cases guard <;> decide
    | inside member _ _ => cases member

/-- The function would call itself without end. -/
theorem run_of_self_application_ends :
    (Vm.new { maxFrames := 2 }).Consistent ∧
    (Vm.new { maxFrames := 2 }).load source.writeModule = .ok (module, vm) ∧
    (∀ d : CodeObject, d.PartOf module → d.Forward) ∧ vm.config.Allocates ∧
    ∃ outcome printed, (vm.runWithin .none ((2 ^ 32 + 1) ^ (vm.config.maxFrames + 1)) module).1 =
      some (outcome, printed) := by
  have allocates : vm.config.Allocates := by decide
  obtain ⟨ends, -⟩ :=
    Vm.run_of_forward_ends (Vm.new_consistent { maxFrames := 2 }) load_source module_forward .none
  exact ⟨Vm.new_consistent _, load_source, module_forward, allocates, ends allocates⟩

end SelfApplication

end SlotVM
