import SlotVM.Proofs.FrameBounds
import SlotVM.Proofs.UntaintedResults

namespace SlotVM

namespace Machine

/-- All frames keep to values that are no error records and no signals. -/
def Clean (m : Machine) : Prop := ∀ f ∈ m.frames, f.All Value.Clean

theorem enter_clean (config : Config) {m : Machine} (clean : m.Clean) {depth : Nat}
    {code : CodeObject} {args : List Value} (all : (Frame.enter depth code args).All Value.Clean) :
    (m.enter config depth code args).machine.Clean := by
  rw [enter_eq]
  split
  next => exact clean
  next =>
    split
    next => exact List.forall_mem_cons.mpr ⟨all, clean⟩
    next => exact clean

theorem leave_clean (config : Config) {m : Machine} (clean : m.Clean) {result : Option Value}
    (hr : ∀ v, result = some v → v.Clean) : (m.leave config result).machine.Clean := by
  unfold leave
  split
  next => exact clean
  next => exact clean
  next f rest v frames =>
    have below : ∀ g ∈ f :: rest, g.All Value.Clean := frames ▸ clean
    rw [List.forall_mem_cons] at below
    split
    next g pushed =>
      have top : g.All Value.Clean := below.1.push? (hr v rfl) pushed
      exact List.forall_mem_cons.mpr ⟨top, below.2⟩
    next => exact clean

theorem apply_clean (env : Setting) {m : Machine} (clean : m.Clean) {action : Action}
    (all : action.All Value.Clean) : (m.apply env action).machine.Clean := by
  cases action with
  | next f => exact List.forall_mem_cons.mpr ⟨all, clean⟩
  | print f lines => exact List.forall_mem_cons.mpr ⟨all, clean⟩
  | fail f e => exact List.forall_mem_cons.mpr ⟨all, clean⟩
  | call f code args =>
    obtain ⟨caller, consts, args⟩ := all
    have waiting : Clean { m with frames := f :: m.frames } :=
      List.forall_mem_cons.mpr ⟨caller, clean⟩
    exact enter_clean env.config waiting (.enter _ consts args)
  | leave result => exact leave_clean env.config clean all
  | raise exc => exact fun g hg => nomatch hg

theorem step_clean (env : Setting) {m : Machine} (clean : m.Clean)
    (trusted : ∀ f rest g op, m.frames = f :: rest → f.operation? env.host = some (g, op) →
      (op env.hierarchy m.store).1.Untainted) : (m.step env).machine.Clean := by
  obtain ⟨frames, store, output⟩ := m
  cases frames with
  | nil => exact clean
  | cons f rest =>
    obtain ⟨all, below⟩ := List.forall_mem_cons.mp clean
    have action : (f.act env.host env.config env.hierarchy store).1.All Value.Clean := by
      have done := Frame.act_does env.host env.config f
      cases operation : f.operation? env.host with
      | none =>
        rw [operation] at done
        cases done with
        | moves kept => exact kept all _ _
      | some p =>
        obtain ⟨g, op⟩ := p
        rw [operation] at done
        cases done with
        | operates same kept =>
          obtain ⟨v, s', ran⟩ : ∃ v s', op env.hierarchy store = (v, s') := ⟨_, _, rfl⟩
          have untainted := trusted f rest g op rfl operation
          dsimp only at untainted
          rw [ran] at untainted
          rw [same, Run.bind_eq ran]
          exact Frame.pushResult_all (kept all) untainted env.hierarchy s'
    have waiting : Clean ⟨rest, (f.act env.host env.config env.hierarchy store).2, output⟩ := below
    exact apply_clean env waiting action

end Machine

/-- The name of the class of exceptions that an error record of the kind becomes. -/
def ErrorKind.exceptionName : ErrorKind → Option String
  | type => some "TypeException"
  | name => some "NameException"
  | attr => some "AttributeException"
  | index => some "IndexException"
  | divByZero => some "DivisionByZeroException"
  | fatal | function => none

theorem Hierarchy.Standard.nameOf_classOf {h : Hierarchy} (standard : h.Standard)
    {kind : ErrorKind} {name : String} (named : kind.exceptionName = some name) :
    ∃ cls, Exception.classOf? kind = some cls ∧ h.nameOf cls = name := by
  cases kind with
  | fatal | function => cases named
  | type | name | attr | index | divByZero =>
    cases named
    refine ⟨_, rfl, ?_⟩
    rw [standard.nameOf_eq rfl]
    decide +kernel

namespace Machine

variable (env : Setting) {m : Machine} {f g : Frame} {rest : List Frame} {op : Run Value}

theorem step_of_operation (frames : m.frames = f :: rest)
    (operation : f.operation? env.host = some (g, op)) {v : Value} {s : Store}
    (ran : op env.hierarchy m.store = (v, s)) :
    m.step env = apply env ⟨rest, (g.pushResult env.config v env.hierarchy s).2, m.output⟩
      (g.pushResult env.config v env.hierarchy s).1 := by
  obtain ⟨_, store, output⟩ := m
  obtain rfl : _ = f :: rest := frames
  have acts : f.act env.host env.config env.hierarchy store =
      g.pushResult env.config v env.hierarchy s := by
    rw [Frame.act_of_operation env.config operation, Run.bind_eq ran]
  show apply env ⟨rest, (f.act env.host env.config env.hierarchy store).2, output⟩
    (f.act env.host env.config env.hierarchy store).1 = _
  rw [acts]

/-- An error record that can become an exception ends the run by this exception. -/
theorem step_of_error (standard : env.hierarchy.Standard) (frames : m.frames = f :: rest)
    (operation : f.operation? env.host = some (g, op)) {e : Error} {s : Store}
    (ran : op env.hierarchy m.store = (.error e, s)) {name : String}
    (named : e.kind.exceptionName = some name) :
    ∃ m', m.step env = .ended m' (.uncaught name (clamp e.message Exception.maxMessage)) ∧
      m'.frames = [] := by
  obtain ⟨cls, hc, rfl⟩ := standard.nameOf_classOf named
  let message := clamp e.message Exception.maxMessage
  let made := s.heap.alloc cls .exception (.exception (some message) true)
  have becomes : Exception.ofError? e env.hierarchy s =
      (some (.object made.1), { s with heap := made.2 }) := by
    unfold Exception.ofError?
    rw [hc]
    rfl
  have raised : g.pushResult env.config (.error e) env.hierarchy s =
      (.raise (.object made.1), { s with heap := made.2 }) := Run.bind_eq becomes
  have ended := unwind_new (h := env.hierarchy) cls message s.heap
    ⟨rest, { s with heap := made.2 }, m.output⟩ rfl
  rw [step_of_operation env frames operation ran, raised]
  exact ⟨_, ended, rfl⟩

theorem step_of_fatal (frames : m.frames = f :: rest)
    (operation : f.operation? env.host = some (g, op)) {e : Error} {s : Store}
    (ran : op env.hierarchy m.store = (.error e, s))
    (fatal : e.kind = .fatal ∨ e.kind = .function) :
    ∃ m', m.step env = .ended m' (.fatal e) := by
  have becomes : Exception.ofError? e env.hierarchy s = (none, s) := by
    unfold Exception.ofError?
    rcases fatal with eq | eq
    · rw [eq]
      rfl
    · rw [eq]
      rfl
  have failed : g.pushResult env.config (.error e) env.hierarchy s = (.fail g e, s) :=
    Run.bind_eq becomes
  rw [step_of_operation env frames operation ran, failed]
  exact ⟨_, rfl⟩

/-- A signal ends the run by an internal error. -/
theorem step_of_signal (frames : m.frames = f :: rest)
    (operation : f.operation? env.host = some (g, op)) {v : Value} {s : Store}
    (ran : op env.hierarchy m.store = (v, s))
    (signal : v = .unsupported ∨ v = .divByZero ∨ v = .iterStop) :
    ∃ m' e, m.step env = .ended m' (.fatal e) ∧ e.kind = .fatal := by
  rw [step_of_operation env frames operation ran]
  rcases signal with rfl | rfl | rfl
  · exact ⟨_, _, rfl, rfl⟩
  · exact ⟨_, _, rfl, rfl⟩
  · exact ⟨_, _, rfl, rfl⟩

end Machine

namespace Vm

/-- No operation of the run gives code with an error record or a signal among its constants. -/
def Trusted (vm : Vm) (host : Host) (code : CodeObject) : Prop :=
  ∀ steps m f rest g op, vm.progress host code steps = .running m → m.frames = f :: rest →
    f.operation? host = some (g, op) → (op vm.hierarchy m.store).1.Untainted

theorem progress_clean {vm : Vm} {host : Host} {code : CodeObject}
    (clean : ∀ v ∈ code.consts, v.Clean) (trusted : vm.Trusted host code) (steps : Nat) :
    (vm.progress host code steps).machine.Clean := by
  induction steps with
  | zero =>
    rw [progress_zero]
    have none : Machine.Clean ⟨[], vm.store, #[]⟩ := fun f hf => nomatch hf
    exact Machine.enter_clean vm.config none (.enter 0 clean nofun)
  | succ steps ih =>
    rcases vm.progress_cases host code steps with ⟨m, reached⟩ | still
    · rw [reached] at ih
      rw [progress_succ reached]
      exact Machine.step_clean (vm.setting host) ih fun f rest g op frames operation =>
        trusted steps m f rest g op reached frames operation
    · rw [still]
      exact ih

/-- No operand and no variable is ever an error record or a signal, as long as no function gives
code with one among its constants. -/
theorem sentinels_contained (config : Config) (requests : List Request) (store : Store)
    (host : Host) {code : CodeObject} (clean : ∀ v ∈ code.consts, v.Clean) :
    let vm : Vm := { (new config).serveAll requests with store }
    let env := vm.setting host
    (vm.Trusted host code → ∀ steps, ∀ f ∈ (vm.progress host code steps).machine.frames,
      (∀ v ∈ f.stack, v.isSentinel = false) ∧ ∀ v, some v ∈ f.locals → v.isSentinel = false) ∧
    (host.Untainted → vm.Trusted host code) ∧
    (∀ (f g : Frame) (op : Run Value), f.operation? host = some (g, op) →
      f.act host vm.config = op >>= g.pushResult vm.config) ∧
    ∀ (m : Machine) (f : Frame) (rest : List Frame) (g : Frame) (op : Run Value) (v : Value)
      (s : Store), m.frames = f :: rest → f.operation? host = some (g, op) →
      op vm.hierarchy m.store = (v, s) →
      (∀ e name, v = .error e → e.kind.exceptionName = some name →
        ∃ m', m.step env = .ended m' (.uncaught name (clamp e.message 199)) ∧ m'.frames = []) ∧
      (∀ e, v = .error e → e.kind = .fatal ∨ e.kind = .function →
        ∃ m', m.step env = .ended m' (.fatal e)) ∧
      (v = .unsupported ∨ v = .divByZero ∨ v = .iterStop →
        ∃ m' e, m.step env = .ended m' (.fatal e) ∧ e.kind = .fatal) := by
  intro vm env
  have standard : vm.hierarchy.Standard := ((new_consistent config).serveAll requests).standard
  refine ⟨?_, ?_, fun f g op => Frame.act_of_operation vm.config, ?_⟩
  · intro trusted steps f hf
    have all := progress_clean clean trusted steps f hf
    exact ⟨fun v hv => (all.stack v hv).not_sentinel,
      fun v hv => (all.locals v hv).not_sentinel⟩
  · intro untainted steps m f rest g op _ _ operation
    exact Operation.operation_untainted untainted operation vm.hierarchy m.store
  · intro m f rest g op v s frames operation ran
    refine ⟨?_, ?_, Machine.step_of_signal env frames operation ran⟩
    · rintro e name rfl named
      exact Machine.step_of_error env standard frames operation ran named
    · rintro e rfl fatal
      exact Machine.step_of_fatal env frames operation ran fatal

end Vm

namespace FailingCall

/-- A class whose instances are called by a function of the embedding program. -/
def callable : ClassSpec := ClassSpec.withSlot { name := "Callable" } .call (.host 0)

def callee : Value := .object ⟨0, 12, .plain⟩

/-- Called, it gives an error record. -/
def host : Host := fun sig =>
  match sig with
  | .call => fun _ _ _ => pure (.error ⟨.type, "no"⟩)
  | sig => Host.none sig

/-- The instance is loaded and called. -/
def code : CodeObject := ⟨"main", 0, [], [], [callee], #[0x33, 0, 0x45, 0]⟩

def vm : Vm := { (Vm.new {}).serveAll [.register callable] with store := .empty }

def frame : Frame := { Frame.enter 0 code [] with stack := #[callee], pos := 2 }

theorem code_clean : ∀ v ∈ code.consts, v.Clean :=
  List.forall_mem_singleton.mpr (.intro rfl nofun)

theorem host_untainted : host.Untainted where
  unary _ _ _ _ := Value.untainted_of_codeless rfl
  binary _ _ _ _ _ := Value.untainted_of_codeless rfl
  call _ _ _ _ _ := Value.untainted_of_codeless rfl
  method _ _ _ _ _ := Value.untainted_of_codeless rfl

theorem operation_frame : frame.operation? host =
    some ({ frame with stack := #[], pos := 4 }, Operation.call host callee []) := rfl

theorem call_fails : (Operation.call host callee [] vm.hierarchy vm.store).1 =
    .error ⟨.type, "no"⟩ := by
  have rooted : vm.hierarchy.Rooted :=
    ((Vm.new_consistent {}).serveAll [.register callable]).standard.rooted
  obtain ⟨c, found, slot⟩ : ∃ c, vm.hierarchy.get? 12 = some c ∧
      c.slots .call = some (.host 0) := ⟨_, rfl, rfl⟩
  have searched := Resolver.resolve_fst (Resolver.empty_sound vm.hierarchy) 12 .call
  rw [Hierarchy.lookup_own rooted found slot] at searched
  have resolved : Run.resolve 12 .call vm.hierarchy vm.store =
      (some (.host 0), (Run.resolve 12 .call vm.hierarchy vm.store).2) := Prod.ext searched rfl
  show ((Run.resolve 12 .call >>= _) vm.hierarchy vm.store).1 = _
  rw [Run.bind_eq resolved]
  rfl

theorem progress_loaded : vm.progress host code 1 = .running ⟨[frame], vm.store, #[]⟩ := rfl

theorem sentinels_contained_call :
    (∀ v ∈ code.consts, v.Clean) ∧ host.Untainted ∧
      (∀ steps, ∀ f ∈ (vm.progress host code steps).machine.frames,
        (∀ v ∈ f.stack, v.isSentinel = false) ∧ ∀ v, some v ∈ f.locals → v.isSentinel = false) ∧
      ∃ m', vm.progress host code 2 = .ended m' (.uncaught "TypeException" (clamp "no" 199)) ∧
        m'.frames = [] := by
  obtain ⟨contained, trusted, -, steps⟩ :=
    Vm.sentinels_contained {} [.register callable] .empty host code_clean
  obtain ⟨uncaught, -, -⟩ := steps ⟨[frame], vm.store, #[]⟩ frame [] _ _ _ _ rfl
    operation_frame (Prod.ext call_fails rfl)
  refine ⟨code_clean, host_untainted, contained (trusted host_untainted), ?_⟩
  rw [Vm.progress_succ progress_loaded]
  exact uncaught _ _ rfl rfl

end FailingCall

end SlotVM
