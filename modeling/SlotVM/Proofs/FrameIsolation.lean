import SlotVM.Proofs.FrameBounds

namespace SlotVM

namespace Machine

section

variable {env : Setting} {m m₁ : Machine}

/-- A frame that is not left keeps its place, its code and its variables; as long as the run goes on
it has values in those variables and in what it assigns to while it is on top. -/
theorem Turn.frame {top : Frame} {rest : List Frame} {p : Progress} (turn : Turn env top rest p)
    {f : Frame} {base : List Frame} (place : f :: base <:+ top :: rest)
    (kept : base.length < p.machine.frames.length) :
    ∃ g, g :: base <:+ p.machine.frames ∧ g.code = f.code ∧
      (∀ slot, f.Holds slot → g.Holds slot) ∧
      ((∃ m₁, p = .running m₁) → ∀ slot,
        g.Holds slot ↔ f.Holds slot ∨ f :: base = top :: rest ∧ f.Assigns slot) := by
  rcases List.suffix_cons_iff.mp place with on_top | lower
  · obtain ⟨rfl, rfl⟩ := List.cons.inj on_top
    simp only [true_and]
    cases turn with
    | stay at_ stays =>
      have holds := stays.holds_iff at_
      exact ⟨_, List.suffix_rfl, stays.code, fun slot h => (holds slot).mpr (.inl h),
        fun _ => holds⟩
    | enter calls _ _ =>
      have holds := calls.holds_iff
      exact ⟨_, List.suffix_cons _ _, calls.caller_eq.1, fun slot h => (holds slot).mpr (.inl h),
        fun _ => holds⟩
    | tooDeep _ _ _ | unallocated _ _ _ | fail _ _ _ =>
      exact ⟨_, List.suffix_rfl, rfl, fun _ h => h, nofun⟩
    | back _ below _ => exact absurd kept (below ▸ Nat.lt_irrefl _)
    | full _ _ _ _ => exact absurd kept (Nat.lt_irrefl _)
    | finish _ _ => exact absurd kept (Nat.not_lt_zero _)
    | raise => exact absurd kept (Nat.not_lt_zero _)
  · have covered : f :: base ≠ top :: rest := fun same =>
      absurd (same ▸ lower).length_le (Nat.not_succ_le_self rest.length)
    have idle : ∀ slot, f.Holds slot ↔ f.Holds slot ∨ f :: base = top :: rest ∧ f.Assigns slot :=
      fun slot => (or_iff_left fun h => covered h.1).symm
    cases turn with
    | stay _ _ =>
      exact ⟨f, lower.trans (List.suffix_cons _ _), rfl, fun _ h => h, fun _ => idle⟩
    | enter _ _ _ =>
      refine ⟨f, lower.trans ?_, rfl, fun _ h => h, fun _ => idle⟩
      exact (List.suffix_cons _ _).trans (List.suffix_cons _ _)
    | tooDeep _ _ _ | unallocated _ _ _ | fail _ _ _ =>
      exact ⟨f, lower.trans (List.suffix_cons _ _), rfl, fun _ h => h, nofun⟩
    | full _ _ _ _ => exact ⟨f, lower, rfl, fun _ h => h, nofun⟩
    | finish _ _ => exact absurd kept (Nat.not_lt_zero _)
    | raise => exact absurd kept (Nat.not_lt_zero _)
    | back _ below _ =>
      subst below
      rcases List.suffix_cons_iff.mp lower with next | lower
      · obtain ⟨rfl, rfl⟩ := List.cons.inj next
        exact ⟨_, List.suffix_rfl, rfl, fun _ h => h, fun _ => idle⟩
      · exact ⟨f, lower.trans (List.suffix_cons _ _), rfl, fun _ h => h, fun _ => idle⟩

/-- A call of code with the right number of arguments goes on as long as there is room for one more
frame; then the new frame is on top of what is left of its caller. -/
theorem step_calls {module d : CodeObject} (regular : m.Regular env module) {f caller : Frame}
    {rest : List Frame} {args : Array Value} (frames : m.frames = f :: rest)
    (calls : f.Calls d args caller) :
    ((∃ m₁, m.step env = .running m₁) ↔
      d.argcount = args.size ∧ m.frames.length < env.config.maxFrames) ∧
    ∀ m₁, m.step env = .running m₁ →
      m₁.frames = .enter m.frames.length d args.toList :: caller :: rest := by
  obtain ⟨cache, -, eq⟩ := step_eq env regular.standard regular.closed frames
  have depth : f.depth + 1 = m.frames.length := by
    have stacked := regular.stacked
    rw [frames] at stacked ⊢
    cases stacked with
    | cons _ depth _ _ => exact congrArg Nat.succ depth
  rw [Frame.plan_of_calls calls] at eq
  have settled : ∀ {m' : Machine} {outcome : Outcome}, m.step env = .ended m' outcome →
      ∀ m₁, m.step env ≠ .running m₁ := by
    intro m' outcome ends m₁ goes
    rw [ends] at goes
    cases goes
  by_cases arity : d.argcount = args.size
  · rw [if_pos arity] at eq
    change _ = enter env.config _ (caller.depth + 1) d args.toList at eq
    have allocates := regular.allocates (frames ▸ List.cons_ne_nil f rest)
    rw [calls.caller_eq.2.1, depth, enter_eq, if_pos allocates] at eq
    split at eq
    next deep =>
      refine ⟨⟨fun ⟨m₁, goes⟩ => absurd goes (settled eq m₁), fun ⟨_, room⟩ => ?_⟩,
        fun m₁ goes => absurd goes (settled eq m₁)⟩
      exact absurd room (Nat.not_lt_of_le deep)
    next shallow =>
      refine ⟨⟨fun _ => ⟨arity, Nat.lt_of_not_le shallow⟩, fun _ => ⟨_, eq⟩⟩, fun m₁ goes => ?_⟩
      cases goes.symm.trans eq
      rfl
  · rw [if_neg arity] at eq
    change _ = unwind env.hierarchy _ _ at eq
    exact ⟨⟨fun ⟨m₁, goes⟩ => absurd goes (settled eq m₁), fun ⟨same, _⟩ => absurd same arity⟩,
      fun m₁ goes => absurd goes (settled eq m₁)⟩

/-- A return to a frame with room for an operand goes on in that frame, which has the result on top
of its operands if there is one. -/
theorem step_returning {module : CodeObject} (regular : m.Regular env module) {g below : Frame}
    {rest : List Frame} (frames : m.frames = g :: below :: rest) (returning : g.Returning)
    (room : below.stack.size < env.config.maxStack) :
    ∃ m₁, m.step env = .running m₁ ∧
      m₁.frames = { below with stack := below.stack ++ g.stack.back?.toArray } :: rest := by
  obtain ⟨cache, -, eq⟩ := step_eq env regular.standard regular.closed frames
  rw [Frame.plan_of_returning returning] at eq
  change _ = leave env.config _ g.stack.back? at eq
  unfold leave at eq
  cases top : g.stack.back? with
  | none =>
    rw [top] at eq
    exact ⟨_, eq, by simp⟩
  | some v =>
    rw [top] at eq
    dsimp only [Frame.push?] at eq
    rw [if_pos room] at eq
    exact ⟨_, eq, by simp⟩

theorem Turn.length_le {f : Frame} {rest : List Frame} (turn : Turn env f rest (.running m₁)) :
    rest.length ≤ m₁.frames.length := by
  cases turn with
  | stay _ _ => exact Nat.le_succ _
  | enter _ _ _ => exact Nat.le_add_right _ 2
  | back _ below _ => exact below ▸ Nat.le_refl _

theorem Turn.returning {f : Frame} {rest : List Frame} (turn : Turn env f rest (.running m₁))
    (fewer : m₁.frames.length ≤ rest.length) : f.Returning := by
  cases turn with
  | back returning _ _ => exact returning
  | stay _ _ => exact absurd fewer (Nat.not_succ_le_self _)
  | enter _ _ _ => exact absurd fewer (Nat.not_le_of_lt (Nat.lt_add_of_pos_right Nat.two_pos))

end

end Machine

namespace Vm

/-- From the first moment to the last, more than `depth` frames are there, so the one with `depth`
others below it is not left. -/
def Keeps (vm : Vm) (host : Host) (code : CodeObject) (depth first last : Nat) : Prop :=
  ∀ k, first ≤ k → k ≤ last → depth < (vm.progress host code k).machine.frames.length

/-- At this moment the frame above `rest` calls the code `d`, and `caller` is what is left of it. -/
def CallsAt (vm : Vm) (host : Host) (code : CodeObject) (steps : Nat) (d : CodeObject)
    (args : Array Value) (caller : Frame) (rest : List Frame) : Prop :=
  ∃ m f, vm.progress host code steps = .running m ∧ m.frames = f :: rest ∧ f.Calls d args caller

/-- What the run of the code leaves alone in the frames. -/
structure Isolated (vm : Vm) (host : Host) (code : CodeObject) : Prop where
  /-- A step changes the frame on top, adds one above what is left of it, or removes it and hands
  its result to the frame below; the other frames stay as they are. -/
  turn : ∀ steps m m₁, vm.progress host code steps = .running m →
    vm.progress host code (steps + 1) = .running m₁ →
    ∃ f rest, m.frames = f :: rest ∧ Machine.Turn (vm.setting host) f rest (.running m₁)
  /-- A call of code goes on just if the number of arguments is right and there is room. -/
  goes_on : ∀ steps d args caller rest, vm.CallsAt host code steps d args caller rest →
    ((∃ m₁, vm.progress host code (steps + 1) = .running m₁) ↔
      d.argcount = args.size ∧ rest.length + 1 < vm.config.maxFrames)
  /-- The new frame begins with the arguments in its first variables and nothing else. -/
  enters : ∀ steps d args caller rest m₁, vm.CallsAt host code steps d args caller rest →
    vm.progress host code (steps + 1) = .running m₁ →
    ∃ g, m₁.frames = g :: caller :: rest ∧ g.code = d ∧ g.pos = 0 ∧ g.stack = #[] ∧
      g.locals = args.map some ++ Array.replicate (d.names.length - args.size) none
  /-- Until the new frame is left the caller stays as it is. It is left only by a return, which goes
  on in the caller with the result, if there is one, on top of its operands. -/
  returns : ∀ steps d args caller rest later m₂, vm.CallsAt host code steps d args caller rest →
    steps < later → vm.progress host code later = .running m₂ →
    vm.Keeps host code (rest.length + 1) (steps + 1) later →
    ∃ g, g :: caller :: rest <:+ m₂.frames ∧ g.code = d ∧
      (∀ m₃, vm.progress host code (later + 1) = .running m₃ →
        m₃.frames.length ≤ rest.length + 1 → m₂.frames = g :: caller :: rest ∧ g.Returning) ∧
      (m₂.frames = g :: caller :: rest → g.Returning →
        ∃ m₃, vm.progress host code (later + 1) = .running m₃ ∧
          m₃.frames = { caller with stack := caller.stack ++ g.stack.back?.toArray } :: rest)

section

variable {vm : Vm} {host : Host} {code : CodeObject}

/-- A frame that is not left in a run keeps what is below it and its code, and its variables keep
having values. By induction on the steps, which one at a time keep the frame. -/
theorem progress_frame (regular : vm.Regular host code) {first last : Nat} {f : Frame}
    {base : List Frame} (place : f :: base <:+ (vm.progress host code first).machine.frames)
    (later : first ≤ last) (keeps : vm.Keeps host code base.length first last) :
    ∃ g, g :: base <:+ (vm.progress host code last).machine.frames ∧ g.code = f.code ∧
      ∀ slot, f.Holds slot → g.Holds slot := by
  induction later with
  | refl => exact ⟨f, place, rfl, fun _ h => h⟩
  | @step last later ih =>
    obtain ⟨g, place', code', stays'⟩ :=
      ih fun k least most => keeps k least (Nat.le_succ_of_le most)
    have kept := keeps (last + 1) (Nat.le_succ_of_le later) (Nat.le_refl _)
    rcases vm.progress_cases host code last with ⟨m, reached⟩ | still
    · rw [reached] at place'
      rw [progress_succ reached] at kept ⊢
      obtain ⟨top, rest, frames⟩ : ∃ top rest, m.frames = top :: rest :=
        List.exists_cons_of_length_pos (Nat.lt_of_lt_of_le (Nat.succ_pos _) place'.length_le)
      have turn := (regular.at reached).turn frames
      obtain ⟨k, place₁, code₁, stays₁, -⟩ := turn.frame (frames ▸ place') kept
      exact ⟨k, place₁, code₁.trans code', fun slot holds => stays₁ slot (stays' slot holds)⟩
    · rw [still]
      exact ⟨g, place', code', stays'⟩

end

variable {vm vm' : Vm} {bytes : List UInt8} {code : CodeObject}

/-- The run of a module keeps its frames apart: a step works on the frame on top, and a call gives
back its caller as it was, with at most a result added. -/
theorem frames_isolated (consistent : vm.Consistent) (loaded : vm.load bytes = .ok (code, vm'))
    (host : Host) : vm'.Isolated host code := by
  have regular := regular_of_load consistent loaded host
  refine ⟨?_, ?_, ?_, ?_⟩
  · intro steps m m₁ reached goes
    rw [progress_succ reached] at goes
    exact (regular.at reached).exists_turn goes
  · rintro steps d args caller rest ⟨m, f, reached, frames, calls⟩
    have regular₀ := regular.at reached
    have possible := (Machine.step_calls regular₀ frames calls).1
    rwa [progress_succ reached, ← List.length_cons, ← frames]
  · rintro steps d args caller rest m₁ ⟨m, f, reached, frames, calls⟩ goes
    have regular₀ := regular.at reached
    rw [progress_succ reached] at goes
    obtain ⟨possible, entered⟩ := Machine.step_calls regular₀ frames calls
    have arity := (possible.mp ⟨m₁, goes⟩).1
    have hf := regular₀.stacked.of_mem (frames ▸ List.mem_cons_self)
    have fits : args.size ≤ d.names.length := arity ▸ regular₀.arguments d (calls.part hf)
    exact ⟨_, entered m₁ goes, rfl, rfl, rfl, Frame.locals_enter _ fits⟩
  · rintro steps d args caller rest later m₂ ⟨m, f, reached, frames, calls⟩ after ran keeps
    have regular₀ := regular.at reached
    have regular₂ := regular.at ran
    obtain ⟨m₁, goes⟩ := progress_earlier ran after
    have entered : Frame.enter m.frames.length d args.toList :: caller :: rest <:+
        (vm'.progress host code (steps + 1)).machine.frames := by
      rw [goes]
      rw [progress_succ reached] at goes
      exact (Machine.step_calls regular₀ frames calls).2 m₁ goes ▸ List.suffix_rfl
    obtain ⟨g, place, same, -⟩ := progress_frame regular entered after keeps
    rw [ran] at place
    refine ⟨g, place, same, fun m₃ goes₂ fewer => ?_, fun frames₂ returning => ?_⟩
    · rw [progress_succ ran] at goes₂
      obtain ⟨top, below, start, turn⟩ := regular₂.exists_turn goes₂
      have least := turn.length_le
      change g :: caller :: rest <:+ m₂.frames at place
      rw [start] at place ⊢
      rcases List.suffix_cons_iff.mp place with on_top | lower
      · obtain ⟨rfl, rfl⟩ := List.cons.inj on_top
        exact ⟨rfl, turn.returning fewer⟩
      · have count := lower.length_le
        simp only [List.length_cons] at count
        omega
    · -- the caller has one operand less at least than it had at the call
      have hf := regular₀.stacked.of_mem (frames ▸ List.mem_cons_self)
      rw [progress_succ ran]
      exact Machine.step_returning regular₂ frames₂ returning
        (Nat.lt_of_lt_of_le calls.lower_size hf.stack)

end Vm

namespace CallOfIdentity

/-- A function of one argument that gives it back. -/
def identity : CodeObject := ⟨"f", 1, ["n"], [], [], #[0x3d, 0, 0, 0, 0, 0x46]⟩

/-- A module that calls the function with the number seven and returns what it gave back. -/
def source : Segment :=
  ⟨"m", 0, [], [], [.code ⟨"f", 1, ["n"], [], [], #[0x3d, 0, 0, 0, 0, 0x46]⟩],
    #[0x33, 0, 0x31, 7, 0, 0, 0, 0x45, 1, 0x46]⟩

theorem source_encodable : source.Encodable Segment.maxNesting := by
  refine .of_below (by constructor <;> decide) fun t member => ?_
  simp only [source, List.mem_cons, Const.code.injEq, List.not_mem_nil, or_false] at member
  subst member
  exact .of_below (by constructor <;> decide) (by simp)

/-- The virtual machine that has loaded the module. -/
def vm : Vm := ((Vm.new {}).eval (Segment.load { source with name := "<module>" })).2

/-- The frame of the module while it waits for the function. -/
def waiting : Frame :=
  ⟨0, ⟨"<module>", 0, [], [], [.object ⟨0, .code, .code identity⟩],
    #[0x33, 0, 0x31, 7, 0, 0, 0, 0x45, 1, 0x46]⟩, #[], #[], 9⟩

/-- The frame of the module right before the call. -/
def ready : Frame :=
  { waiting with stack := #[.object ⟨0, .code, .code identity⟩, .int 7], pos := 7 }

/-- The frame of the function at its start and right before it returns. -/
def called : Frame := ⟨1, identity, #[some (.int 7)], #[], 0⟩

def returning : Frame := { called with stack := #[.int 7], pos := 5 }

/-- The run of the module when it has these frames. -/
def machine (frames : List Frame) : Machine := ⟨frames, vm.store, #[]⟩

theorem load_source : (Vm.new {}).load source.writeModule = .ok (waiting.code, vm) :=
  Vm.load_written (Vm.new {}) source_encodable

theorem progress_ready : vm.progress .none waiting.code 2 = .running (machine [ready]) := rfl

theorem progress_called :
    vm.progress .none waiting.code 3 = .running (machine [called, waiting]) :=
  (Vm.progress_succ progress_ready).trans rfl

theorem progress_returning :
    vm.progress .none waiting.code 4 = .running (machine [returning, waiting]) :=
  (Vm.progress_succ progress_called).trans rfl

theorem ready_calls : vm.CallsAt .none waiting.code 2 identity #[.int 7] waiting [] :=
  ⟨machine [ready], ready, progress_ready, rfl,
    @Frame.Calls.intro ready identity #[.int 7] 1 9 #[] _ rfl rfl rfl rfl⟩

theorem keeps_identity : vm.Keeps .none waiting.code 1 3 4 := by
  intro k least most
  obtain rfl | rfl : k = 3 ∨ k = 4 := by omega
  · rw [progress_called]
    exact Nat.lt_succ_self 1
  · rw [progress_returning]
    exact Nat.lt_succ_self 1

theorem frames_isolated_identity :
    (Vm.new {}).Consistent ∧ (Vm.new {}).load source.writeModule = .ok (waiting.code, vm) ∧
    vm.Isolated .none waiting.code ∧
    vm.CallsAt .none waiting.code 2 identity #[.int 7] waiting [] ∧
    vm.Keeps .none waiting.code 1 3 4 ∧ returning.Returning ∧
    vm.progress .none waiting.code 4 = .running (machine [returning, waiting]) ∧
    ∃ m, vm.progress .none waiting.code 5 = .running m ∧
      m.frames = [{ waiting with stack := #[.int 7] }] := by
  have isolated := Vm.frames_isolated (Vm.new_consistent {}) load_source .none
  have returns : returning.Returning := .inr ⟨6, rfl⟩
  obtain ⟨g, place, -, -, back⟩ := isolated.returns 2 identity #[.int 7] waiting [] 4 _ ready_calls
    (by decide) progress_returning keeps_identity
  obtain rfl : g = returning := by
    rcases List.suffix_cons_iff.mp place with same | lower
    · exact (List.cons.inj same).1
    · exact absurd lower.length_le (Nat.not_succ_le_self 1)
  exact ⟨Vm.new_consistent {}, load_source, isolated, ready_calls, keeps_identity, returns,
    progress_returning, back rfl returns⟩

end CallOfIdentity

end SlotVM
