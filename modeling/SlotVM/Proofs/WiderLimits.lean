import SlotVM.Proofs.FrameBounds
import SlotVM.Proofs.InlineArithmetic

namespace SlotVM

/-- The second limits are no narrower than the first ones. -/
structure Config.Within (config wider : Config) : Prop where
  maxStack : config.maxStack ≤ wider.maxStack
  maxFrames : config.maxFrames ≤ wider.maxFrames

namespace Frame

/-- A computation of an action runs out of room for operands, or else the other one is the same. -/
def Widens (narrow wide : Run Action) : Prop :=
  ∀ h s, (∃ f, (narrow.run h s).1 = fault f .stackOverflow) ∨ wide.run h s = narrow.run h s

theorem widens_refl (c : Run Action) : Widens c c := fun _ _ => .inr rfl

theorem widens_bind {α : Type} (c : Run α) {narrow wide : α → Run Action}
    (widens : ∀ a, Widens (narrow a) (wide a)) : Widens (c >>= narrow) (c >>= wide) :=
  fun h s => widens (c.run h s).1 h (c.run h s).2

variable {config wider : Config} (host : Host) (f : Frame)

theorem push?_wider (limits : config.Within wider) {v : Value} {g : Frame}
    (pushed : f.push? config v = some g) : f.push? wider v = some g := by
  unfold push? at pushed ⊢
  split at pushed
  next room => rw [if_pos (Nat.lt_of_lt_of_le room limits.maxStack), ← pushed]
  next => cases pushed

theorem push_widens (limits : config.Within wider) (v : Value) :
    Widens (pure (f.push config v)) (pure (f.push wider v)) := by
  intro h s
  change (∃ g, f.push config v = fault g .stackOverflow) ∨
    (f.push wider v, s) = (f.push config v, s)
  unfold push
  cases pushed : f.push? config v with
  | none => exact .inl ⟨f, rfl⟩
  | some g => rw [f.push?_wider limits pushed]; exact .inr rfl

/-- A failure is dealt with before the limit is looked at. -/
theorem pushResult_widens (limits : config.Within wider) (v : Value) :
    Widens (f.pushResult config v) (f.pushResult wider v) := by
  have plain (v : Value) : Widens
      (do if (← Run.heap).isActive v then return .raise v else return f.push config v)
      (do if (← Run.heap).isActive v then return .raise v else return f.push wider v) := by
    refine widens_bind Run.heap fun heap => ?_
    split
    next => exact widens_refl _
    next => exact f.push_widens limits v
  cases v with
  | error | unsupported | divByZero | iterStop => exact widens_refl _
  | _ => exact plain _

theorem arith_widens (limits : config.Within wider) (op : BinaryOp) :
    Widens (f.arith host config op) (f.arith host wider op) := by
  rw [arith_eq, arith_eq]
  split
  next => exact widens_refl _
  next =>
    split
    next => exact widens_refl _
    next a f _ => exact widens_bind _ (f.pushResult_widens limits)

theorem sign_widens (limits : config.Within wider) (s : Sign) :
    Widens (f.sign host config s) (f.sign host wider s) := by
  rw [sign_eq, sign_eq]
  split
  next => exact widens_refl _
  next v f _ => exact widens_bind _ (f.pushResult_widens limits)

theorem loadConst_widens (limits : config.Within wider) (index : Nat) :
    Widens (pure (f.loadConst config index)) (pure (f.loadConst wider index)) := by
  unfold loadConst
  split
  next v _ => exact f.push_widens limits v
  next => exact widens_refl _

theorem load_widens (limits : config.Within wider) (slot : Nat) :
    Widens (f.load config slot) (f.load wider slot) := by
  unfold load
  split
  next => exact widens_refl _
  next v _ => exact f.push_widens limits v
  next => exact widens_refl _

theorem call_widens (limits : config.Within wider) (argc : Nat) :
    Widens (f.call host config argc) (f.call host wider argc) := by
  unfold call
  split
  next => exact widens_refl _
  next =>
    dsimp only
    split
    next => exact widens_refl _
    next callee f _ =>
      split
      next =>
        split
        next => exact widens_refl _
        next => exact widens_bind _ (f.pushResult_widens limits)
      next => exact widens_bind _ (f.pushResult_widens limits)

theorem execute_widens (limits : config.Within wider) (i : Instruction) :
    Widens (f.execute host config i) (f.execute host wider i) := by
  cases i with
  | loadInt n => exact f.push_widens limits _
  | loadFloat x => exact f.push_widens limits _
  | loadConst index => exact f.loadConst_widens limits _
  | arith a => exact f.arith_widens host limits _
  | sign s => exact f.sign_widens host limits s
  | load slot => exact f.load_widens limits _
  | call argc => exact f.call_widens host limits _
  | jump dir guard offset => cases guard <;> exact widens_refl _
  | nop | store _ | print | ret => exact widens_refl _

theorem act_widens (limits : config.Within wider) :
    Widens (f.act host config) (f.act host wider) := by
  unfold act
  split
  next => exact widens_refl _
  next =>
    split
    next => exact widens_refl _
    next i pos _ => exact execute_widens host { f with pos } limits i

end Frame

/-- The outcome is the error of one of the limits. -/
def Outcome.Limited (outcome : Outcome) : Prop :=
  outcome = .fatal Fault.stackOverflow.error ∨ outcome = .fatal Fault.callDepthExceeded.error

/-- The run was ended by one of its limits. -/
def Progress.Limited (p : Progress) : Prop :=
  ∃ m outcome, p = .ended m outcome ∧ outcome.Limited

/-- The setting with other limits. -/
def Setting.withConfig (env : Setting) (config : Config) : Setting := { env with config }

namespace Machine

variable {env : Setting} {config wider : Config} (m : Machine)

theorem enter_wider (limits : config.Within wider) (memory : config.Allocates)
    (memory' : wider.Allocates) (depth : Nat) (code : CodeObject) (args : List Value) :
    (m.enter config depth code args).Limited ∨
      m.enter wider depth code args = m.enter config depth code args := by
  rw [enter_eq, enter_eq, if_pos memory, if_pos memory']
  split
  next => exact .inl ⟨m, _, rfl, .inr rfl⟩
  next room => exact .inr (if_neg fun full => room (Nat.le_trans limits.maxFrames full))

theorem leave_wider (limits : config.Within wider) (result : Option Value) :
    (m.leave config result).Limited ∨ m.leave wider result = m.leave config result := by
  unfold leave
  split
  next => exact .inr rfl
  next => exact .inr rfl
  next f rest v _ =>
    cases pushed : f.push? config v with
    | none => exact .inl ⟨m, _, rfl, .inl rfl⟩
    | some g => rw [f.push?_wider limits pushed]; exact .inr rfl

theorem apply_wider (limits : env.config.Within wider) (memory : env.config.Allocates)
    (memory' : wider.Allocates) (action : Action) :
    (m.apply env action).Limited ∨ m.apply (env.withConfig wider) action = m.apply env action := by
  cases action with
  | call f code args => exact enter_wider _ limits memory memory' _ code args
  | leave result => exact m.leave_wider limits result
  | next | print | raise | fail => exact .inr rfl

theorem step_wider (limits : env.config.Within wider) (memory : env.config.Allocates)
    (memory' : wider.Allocates) :
    (m.step env).Limited ∨ m.step (env.withConfig wider) = m.step env := by
  obtain ⟨_ | ⟨f, rest⟩, store, output⟩ := m
  · exact .inr rfl
  · rcases f.act_widens env.host limits env.hierarchy store with ⟨g, overflow⟩ | same
    · exact .inl ⟨_, _, congrArg (apply env ⟨rest, _, output⟩) overflow, .inl rfl⟩
    · let acted := (f.act env.host env.config).run env.hierarchy store
      have stepped : step (env.withConfig wider) ⟨f :: rest, store, output⟩ =
          apply (env.withConfig wider) ⟨rest, acted.2, output⟩ acted.1 :=
        congrArg (fun acted : Action × Store =>
          apply (env.withConfig wider) ⟨rest, acted.2, output⟩ acted.1) same
      rw [stepped]
      exact apply_wider _ limits memory memory' acted.1

theorem start_wider (limits : env.config.Within wider) (memory : env.config.Allocates)
    (memory' : wider.Allocates) (store : Store) (code : CodeObject) :
    (start env store code).Limited ∨
      start (env.withConfig wider) store code = start env store code :=
  enter_wider _ limits memory memory' 0 code []

end Machine

theorem Progress.run_wider {env : Setting} {wider : Config} (limits : env.config.Within wider)
    (memory : env.config.Allocates) (memory' : wider.Allocates) {p p' : Progress}
    (start : p.Limited ∨ p' = p) (steps : Nat) :
    (p.run env steps).Limited ∨ p'.run (env.withConfig wider) steps = p.run env steps := by
  induction steps with
  | zero => rwa [run_zero, run_zero]
  | succ steps ih =>
    rw [run_succ, run_succ]
    rcases ih with ⟨m, outcome, ended, limited⟩ | same
    · rw [ended]
      exact .inl ⟨m, outcome, rfl, limited⟩
    · rw [same]
      cases p.run env steps with
      | running m => exact m.step_wider limits memory memory'
      | ended m outcome => exact .inr rfl
      | panicked m => exact .inr rfl

namespace Vm

/-- The virtual machine with other limits. -/
def withConfig (vm : Vm) (config : Config) : Vm := { vm with config }

variable {vm vm' : Vm} {bytes : List UInt8} {host : Host} {code : CodeObject} {wider : Config}

theorem progress_wider (limits : vm.config.Within wider) (memory : vm.config.Allocates)
    (memory' : wider.Allocates) (host : Host) (code : CodeObject) (steps : Nat) :
    (vm.progress host code steps).Limited ∨
      (vm.withConfig wider).progress host code steps = vm.progress host code steps := by
  let env := vm.setting host
  have limits : env.config.Within wider := limits
  exact Progress.run_wider limits memory memory'
    (Machine.start_wider limits memory memory' vm.store code) steps

theorem not_limited_of_ended {last : Nat} {m : Machine} {outcome : Outcome}
    (ended : vm.progress host code last = .ended m outcome) (free : ¬ outcome.Limited)
    (steps : Nat) : ¬ (vm.progress host code steps).Limited := by
  rintro ⟨m', outcome', ended', limited⟩
  have later := progress_later_ended ended (Nat.le_add_right last steps)
  have later' := progress_later_ended ended' (Nat.le_add_left steps last)
  cases later.symm.trans later'
  exact free limited

/-- A run whose first frame cannot be given memory panics before its first step. -/
theorem progress_panicked (frames : vm.config.maxFrames ≠ 0) (none : ¬ vm.config.Allocates)
    (host : Host) (code : CodeObject) (steps : Nat) :
    vm.progress host code steps = .panicked ⟨[], vm.store, #[]⟩ := by
  have started : vm.progress host code 0 = .panicked ⟨[], vm.store, #[]⟩ := by
    rw [progress_zero, Machine.start_eq]
    exact (if_neg frames).trans (if_neg none)
  have stopped : ∀ m, vm.progress host code 0 ≠ .running m :=
    fun m running => nomatch started.symm.trans running
  exact (progress_later stopped (Nat.zero_le steps)).trans started

/-- A run that ends, and not by a limit, began with a frame whose operands were given memory. -/
theorem allocates_of_ended {last : Nat} {m : Machine} {outcome : Outcome}
    (ended : vm.progress host code last = .ended m outcome) (free : ¬ outcome.Limited) :
    vm.config.maxFrames ≠ 0 ∧ vm.config.Allocates := by
  have frames : vm.config.maxFrames ≠ 0 := by
    intro none
    have started : vm.progress host code 0 = .ended ⟨[], vm.store, #[]⟩
        (.fatal Fault.callDepthExceeded.error) := by
      rw [progress_zero, Machine.start_eq]
      exact if_pos none
    cases (progress_later_ended started (Nat.zero_le last)).symm.trans ended
    exact free (.inr rfl)
  refine ⟨frames, Classical.byContradiction fun none => ?_⟩
  cases (progress_panicked frames none host code last).symm.trans ended

/-- A run that ends, and not by one of its limits, is the same run with wider limits, as long as the
operands of a frame can be given memory there. -/
theorem run_of_wider_limits (loaded : vm.load bytes = .ok (code, vm'))
    (limits : vm.config.Within wider) {last : Nat} {m : Machine} {outcome : Outcome}
    (ended : vm'.progress host code last = .ended m outcome) (free : ¬ outcome.Limited) :
    (vm.withConfig wider).load bytes = .ok (code, vm'.withConfig wider) ∧
    (wider.Allocates →
      (∀ steps, (vm'.withConfig wider).progress host code steps = vm'.progress host code steps) ∧
      ∀ limit, (vm'.withConfig wider).runWithin host limit code =
        ((vm'.runWithin host limit code).1, (vm'.runWithin host limit code).2.withConfig wider)) ∧
    (¬ wider.Allocates → ∀ steps, (vm'.withConfig wider).progress host code steps =
      .panicked ⟨[], vm'.store, #[]⟩) := by
  obtain ⟨⟨s, read, linked⟩, -, -, -, config⟩ := load_eq_ok loaded
  rw [← config] at limits
  obtain ⟨frames, memory⟩ := allocates_of_ended ended free
  refine ⟨?_, fun memory' => ?_, fun none steps => ?_⟩
  · cases linked
    unfold load
    rw [read]
    rfl
  · have same (steps : Nat) :
        (vm'.withConfig wider).progress host code steps = vm'.progress host code steps :=
      (progress_wider limits memory memory' host code steps).resolve_left
        (not_limited_of_ended ended free steps)
    refine ⟨same, fun limit => ?_⟩
    rw [runWithin_eq, runWithin_eq, same]
    rfl
  · have room : wider.maxFrames ≠ 0 := by
      have further := limits.maxFrames
      omega
    have frames : (vm'.withConfig wider).config.maxFrames ≠ 0 := room
    have none : ¬ (vm'.withConfig wider).config.Allocates := none
    exact progress_panicked frames none host code steps

end Vm

namespace TightLimits

/-- Room for one operand in one frame. -/
def config : Config := { maxStack := 1, maxFrames := 1 }

/-- A module that returns a number, which takes as much room as there is. -/
def source : Segment := ⟨"m", 0, [], [], [], #[0x31, 7, 0, 0, 0]⟩

theorem source_encodable : source.Encodable Segment.maxNesting :=
  .of_below (by constructor <;> decide) (by simp [source])

/-- The virtual machine that has loaded the module. -/
def vm : Vm := ((Vm.new config).eval (Segment.load { source with name := "<module>" })).2

/-- The frame of the module at its start. -/
def first : Frame := ⟨0, ⟨"<module>", 0, [], [], [], source.code⟩, #[], #[], 0⟩

/-- The frame of the module at the end of its code. -/
def last : Frame := { first with stack := #[.int 7], pos := 5 }

theorem load_source : (Vm.new config).load source.writeModule = .ok (first.code, vm) :=
  Vm.load_written (Vm.new config) source_encodable

theorem progress_first : vm.progress .none first.code 0 = .running ⟨[first], vm.store, #[]⟩ := rfl

theorem progress_last : vm.progress .none first.code 1 = .running ⟨[last], vm.store, #[]⟩ :=
  (Vm.progress_succ progress_first).trans rfl

theorem progress_ended :
    vm.progress .none first.code 2 = .ended ⟨[], vm.store, #[]⟩ (.finished (some (.int 7))) :=
  (Vm.progress_succ progress_last).trans rfl

theorem finished_free : ¬ (Outcome.finished (some (.int 7))).Limited := by
  rintro (limited | limited) <;> cases limited

theorem run_of_wider_limits_tight :
    (Vm.new config).load source.writeModule = .ok (first.code, vm) ∧
    (Vm.new config).config.Within { stackCapacity := 0 } ∧
    vm.progress .none first.code 2 = .ended ⟨[], vm.store, #[]⟩ (.finished (some (.int 7))) ∧
    ¬ (Outcome.finished (some (.int 7))).Limited ∧
    (vm.withConfig { stackCapacity := 0 }).progress .none first.code 2 =
      .ended ⟨[], vm.store, #[]⟩ (.finished (some (.int 7))) := by
  have limits : (Vm.new config).config.Within { stackCapacity := 0 } := ⟨by decide, by decide⟩
  have same := (Vm.run_of_wider_limits load_source limits progress_ended finished_free).2.1
  exact ⟨load_source, limits, progress_ended, finished_free,
    ((same (by decide)).1 2).trans progress_ended⟩

/-- With wider limits, but room for more operands than there can be, the module does not even start. -/
theorem run_of_wider_limits_panics :
    let wider : Config := { stackCapacity := 2 ^ 63 - 1 }
    (Vm.new config).load source.writeModule = .ok (first.code, vm) ∧
    (Vm.new config).config.Within wider ∧
    vm.progress .none first.code 2 = .ended ⟨[], vm.store, #[]⟩ (.finished (some (.int 7))) ∧
    ¬ (Outcome.finished (some (.int 7))).Limited ∧
    ∀ steps, (vm.withConfig wider).progress .none first.code steps =
      .panicked ⟨[], vm.store, #[]⟩ := by
  intro wider
  have none : ¬ wider.Allocates := by decide
  exact ⟨load_source, ⟨by decide, by decide⟩, progress_ended, finished_free,
    Vm.progress_panicked (by decide) none .none first.code⟩

end TightLimits

end SlotVM
