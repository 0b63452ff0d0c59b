import SlotVM.Execute
import SlotVM.Proofs.LoadedCode
import SlotVM.Proofs.PlanClosure
import SlotVM.Proofs.ReaderFaults
import SlotVM.Proofs.TextBytes

namespace SlotVM

namespace Fault

theorem toString_text (s : String) : toString s = s := rfl

theorem message_ne_internal {cause : Fault} (h : ∀ what, cause ≠ .internal what) (what : String) :
    cause.message ≠ "internal error: " ++ what := by
  intro eq
  have front := congrArg (fun s => s.toList.take 3) eq
  unfold message at front
  cases cause with
  | internal other => exact h other rfl
  | _ => simp [toString_text] at front

theorem Running.ne_internal {cause : Fault} (running : cause.Running) (what : String) :
    cause ≠ .internal what := by
  rintro rfl
  cases running

theorem Running.kind {cause : Fault} (running : cause.Running) : cause.kind = .fatal := by
  cases running <;> rfl

theorem Loading.ne_internal {cause : Fault} (loading : cause.Loading) (what : String) :
    cause ≠ .internal what := by
  rintro rfl
  cases loading

theorem Loading.kind {cause : Fault} (loading : cause.Loading) :
    cause.kind = .fatal ∨ cause.kind = .function ∧
      ∃ function parameter, cause = .duplicateParameter function parameter := by
  cases loading with
  | duplicateParameter function parameter => exact .inr ⟨rfl, function, parameter, rfl⟩
  | _ => exact .inl rfl

end Fault

/-- The ways in which the run of a module file can end. -/
inductive Outcome.Ordinary (bytes : List UInt8) : Outcome → Prop
  | nothing : Ordinary bytes (.finished none)
  | value {v : Value} : v.Storable → Ordinary bytes (.finished (some v))
  | uncaught {cls message : String} :
      cls ∈ ["TypeException", "NameException", "DivisionByZeroException", "Exception"] →
      message.utf8ByteSize ≤ 199 → Ordinary bytes (.uncaught cls message)
  | fatal {e : Error} : (∀ what, e.message ≠ "internal error: " ++ what) →
      (e.kind = .fatal ∨ e.kind = .function ∧ ∃ function parameter,
        Segment.readModule bytes = .error (.duplicateParameter function parameter)) →
      Ordinary bytes (.fatal e)

theorem Outcome.ordinary_of_running (bytes : List UInt8) {cause : Fault} (h : cause.Running) :
    Ordinary bytes (.fatal cause.error) :=
  .fatal (Fault.message_ne_internal h.ne_internal) (.inl h.kind)

theorem Outcome.ordinary_finished (bytes : List UInt8) {answer : Option Value}
    (h : ∀ v, answer = some v → v.Storable) : Ordinary bytes (.finished answer) := by
  cases answer with
  | none => exact .nothing
  | some v => exact .value (h v rfl)

/-- The cache is sound, and the frames keep to values that can be stored. -/
structure Machine.Closed (h : Hierarchy) (m : Machine) : Prop where
  sound : m.store.resolver.Sound h
  frames : ∀ f ∈ m.frames, f.Storable

/-- The machine that a run has come to. -/
def Progress.machine : Progress → Machine
  | running m => m
  | ended m _ => m
  | panicked m => m

/-- One more step, if the run goes on. -/
def Progress.next (env : Setting) : Progress → Progress
  | running m => m.step env
  | ended m outcome => ended m outcome
  | panicked m => panicked m

/-- The machine is closed, and if the run has ended, it has ended in one of the ordinary ways. -/
structure Progress.Closed (h : Hierarchy) (bytes : List UInt8) (p : Progress) : Prop where
  machine : p.machine.Closed h
  outcome : ∀ m o, p = .ended m o → o.Ordinary bytes

namespace Progress

variable {h : Hierarchy} {bytes : List UInt8}

theorem Closed.of_running {m : Machine} (hm : m.Closed h) : (running m).Closed h bytes :=
  ⟨hm, fun _ _ eq => nomatch eq⟩

theorem Closed.of_ended {m : Machine} {o : Outcome} (hm : m.Closed h) (ho : o.Ordinary bytes) :
    (ended m o).Closed h bytes := by
  refine ⟨hm, fun m' o' eq => ?_⟩
  cases eq
  exact ho

theorem Closed.of_panicked {m : Machine} (hm : m.Closed h) : (panicked m).Closed h bytes :=
  ⟨hm, fun _ _ eq => nomatch eq⟩

variable (env : Setting) (p : Progress)

theorem run_zero : p.run env 0 = p := by
  cases p <;> rfl

theorem run_succ (limit : Nat) : p.run env (limit + 1) = (p.run env limit).next env := by
  cases p with
  | ended m outcome => rfl
  | panicked m => rfl
  | running m =>
    change m.run env (limit + 1) = (m.run env limit).next env
    induction limit generalizing m with
    | zero =>
      rw [Machine.run, Machine.run, next]
      cases m.step env <;> rfl
    | succ limit ih =>
      rw [Machine.run, Machine.run]
      cases m.step env with
      | running m₁ => exact ih m₁
      | ended m₁ outcome => rfl
      | panicked m₁ => rfl

variable {env p}

theorem run_induction {P : Progress → Prop} (start : P p)
    (step : ∀ m, P (running m) → P (m.step env)) (limit : Nat) : P (p.run env limit) := by
  induction limit with
  | zero => rwa [run_zero]
  | succ limit ih =>
    rw [run_succ]
    generalize p.run env limit = q at ih ⊢
    cases q with
    | running m => exact step m ih
    | ended m outcome => exact ih
    | panicked m => exact ih

end Progress

namespace Machine

variable {h : Hierarchy} {bytes : List UInt8}

theorem Closed.cons {m : Machine} (hm : m.Closed h) {f : Frame} (hf : f.Storable) :
    { m with frames := f :: m.frames }.Closed h := by
  refine ⟨hm.sound, fun g hg => ?_⟩
  rcases List.mem_cons.mp hg with rfl | old
  · exact hf
  · exact hm.frames g old

theorem Closed.printed {m : Machine} (hm : m.Closed h) (output : Array String) :
    { m with output }.Closed h := ⟨hm.sound, hm.frames⟩

/-- The frame of a call is added if neither the limit nor the memory forbids it. -/
theorem enter_eq (config : Config) (m : Machine) (depth : Nat) (code : CodeObject)
    (args : List Value) : enter config m depth code args =
      if config.maxFrames ≤ depth then .ended m (.fatal Fault.callDepthExceeded.error)
      else if config.Allocates then .running { m with frames := .enter depth code args :: m.frames }
      else .panicked m := by
  unfold enter Frame.enter?
  split
  next => rfl
  next => by_cases config.Allocates <;> simp [*]

theorem enter_closed (config : Config) {m : Machine} (hm : m.Closed h) {depth : Nat}
    {code : CodeObject} {args : List Value} (hf : (Frame.enter depth code args).Storable) :
    (enter config m depth code args).Closed h bytes := by
  rw [enter_eq]
  split
  next => exact .of_ended hm (Outcome.ordinary_of_running bytes .callDepthExceeded)
  next =>
    split
    next => exact .of_running (hm.cons hf)
    next => exact .of_panicked hm

theorem leave_closed (config : Config) {m : Machine} (hm : m.Closed h) {answer : Option Value}
    (ha : ∀ v, answer = some v → v.Storable) : (m.leave config answer).Closed h bytes := by
  unfold leave
  split
  next => exact .of_ended hm (Outcome.ordinary_finished bytes ha)
  next => exact .of_running hm
  next f rest v frames =>
    have below : ∀ g ∈ f :: rest, g.Storable := frames ▸ hm.frames
    split
    next g pushed =>
      refine .of_running ⟨hm.sound, fun k hk => ?_⟩
      rcases List.mem_cons.mp hk with rfl | old
      · exact (below f List.mem_cons_self).push? (ha v rfl) pushed
      · exact below k (List.mem_cons_of_mem f old)
    next => exact .of_ended hm (Outcome.ordinary_of_running bytes .stackOverflow)

theorem nameOf_thrown (standard : h.Standard) {cls : ClassId} (hc : cls ∈ Effect.thrownClasses) :
    h.nameOf cls ∈ ["TypeException", "NameException", "DivisionByZeroException", "Exception"] := by
  simp only [Effect.thrownClasses, List.mem_cons, List.not_mem_nil, or_false] at hc
  rcases hc with rfl | rfl | rfl | rfl <;> rw [standard.nameOf_eq rfl] <;> decide +kernel

theorem unwind_new (cls : ClassId) (message : String) (heap : Heap) (m : Machine)
    (hm : m.store.heap = (heap.alloc cls .exception (.exception (some message) true)).2) :
    m.unwind h (.object (heap.alloc cls .exception (.exception (some message) true)).1) =
      .ended { m with frames := [] } (.uncaught (h.nameOf cls) message) := by
  have found : m.store.heap.messageOf?
      (.object (heap.alloc cls .exception (.exception (some message) true)).1) = some message := by
    rw [hm]
    simp [Heap.alloc, Heap.messageOf?, Heap.exceptionOf?, Value.object?, Heap.exception?]
  unfold unwind
  rw [found]
  rfl

/-- An exception that the library threw ends the run with the name of its class and its message. -/
theorem unwind_thrown (c : Condition) (heap : Heap) (m : Machine)
    (hm : m.store.heap = ((Effect.throw c).perform heap).2) :
    m.unwind h ((Effect.throw c).perform heap).1 =
      .ended { m with frames := [] }
        (.uncaught (h.nameOf c.cls) (clamp c.message Exception.maxMessage)) :=
  unwind_new c.cls (clamp c.message Exception.maxMessage) heap m hm

theorem push_closed (env : Setting) {m : Machine} (hm : m.Closed h) {f : Frame} (hf : f.Storable)
    {v : Value} (hv : v.Storable) : (apply env m (f.push env.config v)).Closed h bytes := by
  unfold Frame.push
  split
  next g pushed => exact .of_running (hm.cons (hf.push? hv pushed))
  next => exact .of_ended (hm.cons hf) (Outcome.ordinary_of_running bytes .stackOverflow)

theorem act_closed (env : Setting) (standard : env.hierarchy.Standard) {e : Effect}
    (he : e.Closed) {f : Frame} (hf : f.Storable) {heap : Heap} {m : Machine}
    (hm : m.Closed env.hierarchy) (after : m.store.heap = (e.act env.config f heap).2) :
    (apply env m (e.act env.config f heap).1).Closed env.hierarchy bytes := by
  cases e with
  | give v => exact push_closed env hm hf he
  | text s => exact push_closed env hm hf (.text _ s)
  | throw c =>
    have ended := unwind_thrown (h := env.hierarchy) c heap m after
    change (m.unwind env.hierarchy ((Effect.throw c).perform heap).1).Closed _ _
    rw [ended]
    refine .of_ended ⟨hm.sound, fun g hg => nomatch hg⟩ ?_
    exact .uncaught (nameOf_thrown standard he) (utf8ByteSize_clamp_le _ _)

theorem perform_closed (env : Setting) (standard : env.hierarchy.Standard) {p : Plan}
    (hp : p.Closed) {heap : Heap} {m : Machine} (hm : m.Closed env.hierarchy)
    (after : m.store.heap = (p.perform env.config heap).2) :
    (apply env m (p.perform env.config heap).1).Closed env.hierarchy bytes := by
  cases p with
  | next f => exact .of_running (hm.cons hp)
  | result f e => exact act_closed env standard hp.2 hp.1 hm after
  | print f line => exact .of_running ((hm.cons hp).printed _)
  | call f code args => exact enter_closed env.config (hm.cons hp.1) (.enter _ hp.2.1 hp.2.2)
  | leave answer => exact leave_closed env.config hm hp
  | fail f cause => exact .of_ended (hm.cons hp.1) (Outcome.ordinary_of_running bytes hp.2)

theorem step_closed (env : Setting) (standard : env.hierarchy.Standard) {m : Machine}
    (hm : m.Closed env.hierarchy) : (m.step env).Closed env.hierarchy bytes := by
  obtain ⟨frames, ⟨cache, heap⟩, output⟩ := m
  cases frames with
  | nil => exact .of_ended hm .nothing
  | cons f rest =>
    have hf : f.Storable := hm.frames f List.mem_cons_self
    have below : ∀ g ∈ rest, g.Storable := fun g hg => hm.frames g (List.mem_cons_of_mem f hg)
    obtain ⟨action, after, sound⟩ :=
      Frame.yields_act env.host env.config standard hf heap cache hm.sound
    have closed := Frame.plan_closed env.hierarchy hf
    change (apply env ⟨rest, (f.act env.host env.config env.hierarchy ⟨cache, heap⟩).2, output⟩
      (f.act env.host env.config env.hierarchy ⟨cache, heap⟩).1).Closed _ _
    rw [action]
    exact perform_closed env standard closed ⟨sound, below⟩ after

theorem start_closed (env : Setting) (store : Store) (sound : store.resolver.Sound env.hierarchy)
    {code : CodeObject} (hc : ∀ v ∈ code.consts, v.Storable) :
    (start env store code).Closed env.hierarchy bytes := by
  have fresh : Machine.Closed env.hierarchy ⟨[], store, #[]⟩ := ⟨sound, fun _ hf => nomatch hf⟩
  exact enter_closed env.config fresh (.enter 0 hc fun _ hv => nomatch hv)

end Machine

theorem Progress.run_closed (env : Setting) (standard : env.hierarchy.Standard)
    {bytes : List UInt8} {p : Progress} (hp : p.Closed env.hierarchy bytes) (limit : Nat) :
    (p.run env limit).Closed env.hierarchy bytes :=
  run_induction hp (fun _ closed => Machine.step_closed env standard closed.machine) limit

namespace Source

theorem load_eq_error {bytes : List UInt8} {config : Config} {cause : Fault}
    (h : load (.ok bytes) config = .error cause) : Segment.readModule bytes = .error cause := by
  have failed : (Vm.new config).load bytes = .error cause := h
  exact Vm.load_eq_error failed

theorem load_closed {bytes : List UInt8} {config : Config} {code : CodeObject} {vm : Vm}
    (h : load (.ok bytes) config = .ok (code, vm)) (limit : Nat) :
    let env := vm.setting .none
    ((Machine.start env vm.store code).run env limit).Closed env.hierarchy bytes := by
  have loaded : (Vm.new config).load bytes = .ok (code, vm) := h
  obtain ⟨-, consts, hierarchy, resolver, -⟩ := Vm.load_eq_ok loaded
  have standard : vm.hierarchy.Standard := hierarchy ▸ Hierarchy.builtin_standard
  have sound : vm.store.resolver.Sound vm.hierarchy := resolver ▸ Resolver.empty_sound _
  exact Progress.run_closed _ standard (Machine.start_closed _ vm.store sound consts) limit

/-- However a module file ends, all operands and variables were integers, floating-point numbers,
texts and code, and the error is no internal one. -/
theorem execute_ordinary (bytes : List UInt8) (config : Config) :
    (∀ limit outcome printed,
      executeWithin limit config (.ok bytes) = some (outcome, printed) → outcome.Ordinary bytes) ∧
    ∀ code vm, load (.ok bytes) config = .ok (code, vm) → ∀ limit,
      let env := vm.setting .none
      ∀ f ∈ ((Machine.start env vm.store code).run env limit).machine.frames,
        (∀ v ∈ f.stack, v.Storable) ∧ ∀ v, some v ∈ f.locals → v.Storable := by
  constructor
  · intro limit outcome printed ends
    unfold executeWithin at ends
    cases loaded : load (.ok bytes) config with
    | error cause =>
      rw [loaded] at ends
      cases ends
      have read := load_eq_error loaded
      have loading := Segment.readModule_careful read
      refine .fatal (Fault.message_ne_internal loading.ne_internal) ?_
      rcases loading.kind with fatal | ⟨kind, function, parameter, rfl⟩
      · exact .inl fatal
      · exact .inr ⟨kind, function, parameter, read⟩
    | ok result =>
      obtain ⟨code, vm⟩ := result
      have closed := load_closed loaded limit
      rw [loaded] at ends
      simp only [Vm.runWithin] at ends
      split at ends
      next => cases ends
      next m o ended =>
        cases ends
        exact closed.outcome m outcome ended
      next => cases ends
  · intro code vm loaded limit env f hf
    have storable := (load_closed loaded limit).machine.frames f hf
    exact ⟨storable.stack, storable.locals⟩

/-- A module that ends with the number seven. -/
def sevenModule : List UInt8 :=
  [0x1b, 0x4b, 0x45, 0x53, 0, 0x10, 0, 0, 0x11, 0x10, 0, 0, 0x11, 0x20, 0, 0, 0x25, 5, 0, 0, 0,
    0x31, 7, 0, 0, 0]

theorem execute_sevenModule_ordinary :
    executeWithin 2 {} (.ok sevenModule) = some (.finished (some (.int 7)), "") ∧
      (Outcome.finished (some (.int 7))).Ordinary sevenModule ∧
      ∃ code vm, load (.ok sevenModule) {} = .ok (code, vm) ∧
        let env := vm.setting .none
        ∀ f ∈ ((Machine.start env vm.store code).run env 1).machine.frames,
          (∀ v ∈ f.stack, v.Storable) ∧ ∀ v, some v ∈ f.locals → v.Storable :=
  ⟨rfl, (execute_ordinary sevenModule {}).1 2 _ "" rfl, _, _, rfl,
    (execute_ordinary sevenModule {}).2 _ _ rfl 1⟩

end Source

end SlotVM
