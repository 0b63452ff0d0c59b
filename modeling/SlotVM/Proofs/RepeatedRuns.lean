import SlotVM.Proofs.FrameBounds
import SlotVM.Proofs.HeapGrowth
import SlotVM.Proofs.LockStep

namespace SlotVM

theorem Progress.report_anonymous (p : Progress) :
    p.anonymous.report = p.report.map fun r => (r.1.anonymous, r.2) := by
  cases p <;> rfl

/-- Nothing in the heap changes, but an object may be new. -/
theorem Plan.perform_grows (config : Config) (p : Plan) (heap : Heap) :
    heap.Grows (p.perform config heap).2 := by
  cases p with
  | result f e =>
    cases e with
    | give v => exact heap.grows_refl
    | text s => exact heap.grows_alloc .text (.text s) .fixed
    | throw c => exact heap.grows_alloc c.cls .exception _
  | next | print | call | leave | fail => exact heap.grows_refl

namespace Machine

variable {env : Setting} {m m' : Machine}

theorem apply_store (env : Setting) (m : Machine) (action : Action) :
    (apply env m action).machine.store = m.store := by
  cases action with
  | call f code args =>
    change (enter env.config _ _ _ _).machine.store = _
    rw [enter_eq]
    split
    next => rfl
    next => split <;> rfl
  | leave result =>
    change (leave env.config m result).machine.store = _
    unfold leave
    split
    next => rfl
    next => rfl
    next => split <;> rfl
  | next | print | raise | fail => rfl

theorem start_store (env : Setting) (store : Store) (code : CodeObject) :
    (start env store code).machine.store = store := by
  rw [start_eq]
  split
  next => rfl
  next => split <;> rfl

/-- A step changes no object that was there before. -/
theorem step_grows (standard : env.hierarchy.Standard) (closed : m.Closed env.hierarchy) :
    m.store.heap.Grows (m.step env).machine.store.heap := by
  cases top : m.frames with
  | nil =>
    rw [step_nil env top]
    exact Heap.grows_refl _
  | cons f rest =>
    obtain ⟨cache, -, stepped⟩ := step_eq env standard closed top
    rw [stepped, apply_store]
    exact (f.plan env.hierarchy).perform_grows env.config m.store.heap

section

variable {outcome : Outcome}

theorem apply_emptied {action : Action} (applied : apply env m action = .ended m' outcome)
    (ordinary : ∀ e, outcome ≠ .fatal e) : m'.frames = [] := by
  cases action with
  | next f | print f lines => cases applied
  | call f code args =>
    change enter env.config _ _ _ _ = _ at applied
    rw [enter_eq] at applied
    split at applied
    next => cases applied; exact absurd rfl (ordinary _)
    next => split at applied <;> cases applied
  | leave result =>
    change leave env.config m result = _ at applied
    unfold leave at applied
    split at applied
    next empty => cases applied; exact empty
    next => cases applied
    next =>
      split at applied
      next => cases applied
      next => cases applied; exact absurd rfl (ordinary _)
  | raise exc => cases applied; rfl
  | fail f e => cases applied; exact absurd rfl (ordinary e)

theorem step_emptied (stepped : m.step env = .ended m' outcome)
    (ordinary : ∀ e, outcome ≠ .fatal e) : m'.frames = [] := by
  obtain ⟨_ | ⟨f, rest⟩, store, output⟩ := m
  · cases stepped
    rfl
  · exact apply_emptied stepped ordinary

end

end Machine

theorem Progress.run_grows {env : Setting} (standard : env.hierarchy.Standard) {p : Progress}
    (closed : p.Closed env.hierarchy []) (limit : Nat) :
    p.machine.store.heap.Grows (p.run env limit).machine.store.heap := by
  have both : (p.run env limit).Closed env.hierarchy [] ∧
      p.machine.store.heap.Grows (p.run env limit).machine.store.heap := by
    refine run_induction (P := fun q => q.Closed env.hierarchy [] ∧
      p.machine.store.heap.Grows q.machine.store.heap) ⟨closed, Heap.grows_refl _⟩ ?_ limit
    rintro m ⟨closed, grows⟩
    exact ⟨Machine.step_closed env standard closed.machine,
      grows.trans (Machine.step_grows standard closed.machine)⟩
  exact both.2

namespace CodeObject

/-- The code was loaded from these bytes, by some virtual machine. -/
def LoadedFrom (bytes : List UInt8) (code : CodeObject) : Prop :=
  ∃ vm vm' : Vm, vm.load bytes = .ok (code, vm')

variable {bytes : List UInt8} {code code' : CodeObject}

theorem LoadedFrom.storable (loaded : code.LoadedFrom bytes) : ∀ v ∈ code.consts, v.Storable := by
  obtain ⟨vm, vm', loaded⟩ := loaded
  exact (Vm.load_eq_ok loaded).2.1

/-- Code of the same module is the same up to identities. -/
theorem LoadedFrom.alike (loaded : code.LoadedFrom bytes) (loaded' : code'.LoadedFrom bytes) :
    code'.anonymous = code.anonymous := by
  obtain ⟨vm, _, loaded⟩ := loaded
  obtain ⟨vm', _, loaded'⟩ := loaded'
  obtain ⟨⟨s, read, linked⟩, -⟩ := Vm.load_eq_ok loaded
  obtain ⟨⟨s', read', linked'⟩, -⟩ := Vm.load_eq_ok loaded'
  cases read.symm.trans read'
  cases linked
  cases linked'
  exact Segment.load_anonymous _ _ s _ _

end CodeObject

namespace Vm

/-- The virtual machine comes from a new one by loading modules and by running code of modules,
however far the runs got and whichever way they ended. -/
inductive Used (config : Config) : Vm → Prop
  | new : Used config (Vm.new config)
  | load {vm vm' : Vm} {bytes : List UInt8} {code : CodeObject} :
      Used config vm → vm.load bytes = .ok (code, vm') → Used config vm'
  | run {vm : Vm} {bytes : List UInt8} {code : CodeObject} (host : Host) (limit : Nat) :
      Used config vm → code.LoadedFrom bytes → Used config (vm.runWithin host limit code).2

/-- The classes and the limits are those of a new virtual machine, and the cache is sound. -/
structure Unspoilt (config : Config) (vm : Vm) : Prop where
  hierarchy : vm.hierarchy = .builtin
  config : vm.config = config
  sound : vm.store.resolver.Sound .builtin

variable {vm vm' : Vm} {config : Config} {bytes : List UInt8} {code code' : CodeObject}

theorem Unspoilt.consistent (unspoilt : vm.Unspoilt config) : vm.Consistent :=
  ⟨unspoilt.hierarchy ▸ Hierarchy.builtin_standard, unspoilt.hierarchy ▸ unspoilt.sound⟩

theorem Unspoilt.start_closed (unspoilt : vm.Unspoilt config) (loaded : code.LoadedFrom bytes)
    (host : Host) :
    (Machine.start (vm.setting host) vm.store code).Closed (vm.setting host).hierarchy [] :=
  unspoilt.consistent.start_closed loaded.storable host

theorem Unspoilt.eq (unspoilt : vm.Unspoilt config) :
    vm = { Vm.new config with store := vm.store, frames := vm.frames } := by
  obtain ⟨hierarchy, store, frames, limits⟩ := vm
  obtain rfl : hierarchy = _ := unspoilt.hierarchy
  obtain rfl : limits = _ := unspoilt.config
  rfl

/-- A run leaves the classes and the limits alone and the cache sound. -/
theorem Unspoilt.run (unspoilt : vm.Unspoilt config) (loaded : code.LoadedFrom bytes)
    (host : Host) (limit : Nat) : (vm.runWithin host limit code).2.Unspoilt config := by
  have closed := Progress.run_closed (vm.setting host) unspoilt.consistent.standard
    (unspoilt.start_closed loaded host) limit
  have sound := closed.machine.sound
  rw [runWithin_eq]
  exact ⟨unspoilt.hierarchy, unspoilt.config, unspoilt.hierarchy ▸ sound⟩

/-- A run changes no object that was there before. -/
theorem Unspoilt.run_grows (unspoilt : vm.Unspoilt config) (loaded : code.LoadedFrom bytes)
    (host : Host) (limit : Nat) :
    vm.store.heap.Grows (vm.runWithin host limit code).2.store.heap := by
  have grows := Progress.run_grows unspoilt.consistent.standard
    (unspoilt.start_closed loaded host) limit
  rw [Machine.start_store] at grows
  rw [runWithin_eq]
  exact grows

theorem Used.unspoilt (used : vm.Used config) : vm.Unspoilt config := by
  induction used with
  | new => exact ⟨rfl, rfl, Resolver.empty_sound _⟩
  | load _ loaded ih =>
    obtain ⟨-, -, hierarchy, resolver, limits⟩ := load_eq_ok loaded
    exact ⟨hierarchy.trans ih.hierarchy, limits.trans ih.config, resolver ▸ ih.sound⟩
  | run host limit _ loaded ih => exact ih.run loaded host limit

/-- Code of the same module runs alike on any two such virtual machines. -/
theorem Unspoilt.progress_alike (unspoilt : vm.Unspoilt config) (unspoilt' : vm'.Unspoilt config)
    (loaded : code.LoadedFrom bytes) (loaded' : code'.LoadedFrom bytes) (host : Host)
    (steps : Nat) :
    (vm'.progress host code' steps).anonymous = (vm.progress host code steps).anonymous := by
  have closed := unspoilt.start_closed loaded host
  have closed' := unspoilt'.start_closed loaded' host
  have setting : vm'.setting host = vm.setting host := by
    simp [Vm.setting, unspoilt.hierarchy, unspoilt'.hierarchy, unspoilt.config, unspoilt'.config]
  have starts := Machine.start_alike (vm.setting host) vm.store vm'.store (loaded.alike loaded')
  unfold progress
  rw [setting] at closed' ⊢
  exact Progress.run_alike unspoilt.consistent.standard closed closed' starts steps

/-- What is reported of a run, up to identities, depends on the run up to identities. -/
theorem report_alike {host : Host} {limit : Nat}
    (alike : (vm'.progress host code' limit).anonymous = (vm.progress host code limit).anonymous) :
    ((vm'.runWithin host limit code').1.map fun r => (r.1.anonymous, r.2)) =
      (vm.runWithin host limit code).1.map fun r => (r.1.anonymous, r.2) := by
  rw [runWithin_eq, runWithin_eq, ← Progress.report_anonymous, alike, Progress.report_anonymous]

theorem progress_emptied {host : Host} {steps : Nat} {m : Machine} {outcome : Outcome}
    (ended : vm.progress host code steps = .ended m outcome) (ordinary : ∀ e, outcome ≠ .fatal e) :
    m.frames = [] := by
  refine Progress.run_induction (P := fun p => ∀ m outcome, p = .ended m outcome →
    (∀ e, outcome ≠ .fatal e) → m.frames = []) ?_ ?_ steps m outcome ended ordinary
  · exact fun _ _ started _ => (Machine.start_eq_ended started).1
  · exact fun _ _ _ _ stepped ordinary => Machine.step_emptied stepped ordinary

theorem runWithin_emptied {host : Host} {limit : Nat} {outcome : Outcome} {printed : String}
    (reported : (vm.runWithin host limit code).1 = some (outcome, printed))
    (ordinary : ∀ e, outcome ≠ .fatal e) : (vm.runWithin host limit code).2.frames = [] := by
  rw [runWithin_eq] at reported ⊢
  cases ended : vm.progress host code limit with
  | running | panicked => rw [ended] at reported; cases reported
  | ended m outcome' =>
    rw [ended] at reported
    cases reported
    exact progress_emptied ended ordinary

/-- A module runs on a used virtual machine as on a new one, up to identities. -/
theorem run_of_used (used : vm.Used config) (loaded : code.LoadedFrom bytes)
    (loaded' : code'.LoadedFrom bytes) (host : Host) :
    let fresh := Vm.new config
    (∀ steps, (vm.progress host code steps).anonymous =
        (fresh.progress host code' steps).anonymous ∧
      (vm.progress host code steps).machine.output =
        (fresh.progress host code' steps).machine.output) ∧
    (∀ limit, ((vm.runWithin host limit code).1.map fun r => (r.1.anonymous, r.2)) =
      (fresh.runWithin host limit code').1.map fun r => (r.1.anonymous, r.2)) ∧
    ∀ limit, ∃ frames store, (vm.runWithin host limit code).2 = { fresh with store, frames } ∧
      store.resolver.Sound fresh.hierarchy ∧ vm.store.heap.Grows store.heap ∧
      ∀ outcome printed, (vm.runWithin host limit code).1 = some (outcome, printed) →
        (∀ e, outcome ≠ .fatal e) → frames = [] := by
  intro fresh
  have unspoilt : vm.Unspoilt config := used.unspoilt
  have new : fresh.Unspoilt config := Used.new.unspoilt
  have alike := new.progress_alike unspoilt loaded' loaded host
  refine ⟨fun steps => ⟨alike steps, ?_⟩, fun limit => report_alike (alike limit), fun limit => ?_⟩
  · rw [← Progress.output_anonymous, alike, Progress.output_anonymous]
  · have after := unspoilt.run loaded host limit
    exact ⟨_, _, after.eq, after.sound, unspoilt.run_grows loaded host limit,
      fun _ _ => runWithin_emptied⟩

end Vm

namespace AfterFailure

/-- A module that prints where there is no operand. -/
def failing : Segment := ⟨"m", 0, [], [], [.str "y"], #[0x3e]⟩

/-- A module that returns a text. -/
def source : Segment := ⟨"m", 0, [], [], [.str "x"], #[0x33, 0]⟩

/-- The frame that the first module leaves behind. -/
def stuck : Frame :=
  ⟨0, ⟨"<module>", 0, [], [], [.object ⟨0, .text, .text "y"⟩], failing.code⟩, #[], #[], 1⟩

/-- The virtual machine that has loaded the first module. -/
def ready : Vm := ((Vm.new {}).eval (Segment.load { failing with name := "<module>" })).2

/-- The virtual machine on which the first module has failed. -/
def failed : Vm := (ready.runWithin .none 1 stuck.code).2

/-- The virtual machine that has loaded the second module after that. -/
def vm : Vm := (failed.eval (Segment.load { source with name := "<module>" })).2

/-- The code of the second module, with the identity of its text. -/
def code (id : Nat) : CodeObject :=
  ⟨"<module>", 0, [], [], [.object ⟨id, .text, .text "x"⟩], source.code⟩

theorem load_failing : (Vm.new {}).load failing.writeModule = .ok (stuck.code, ready) :=
  Vm.load_written (Vm.new {}) (.of_below (by constructor <;> decide) (by simp [failing]))

theorem source_encodable : source.Encodable Segment.maxNesting :=
  .of_below (by constructor <;> decide) (by simp [source])

theorem load_source : failed.load source.writeModule = .ok (code 1, vm) :=
  Vm.load_written failed source_encodable

theorem vm_used : vm.Used {} :=
  .load (.run .none 1 (.load .new load_failing) ⟨_, _, load_failing⟩) load_source

theorem source_loaded : (code 0).LoadedFrom source.writeModule :=
  ⟨_, _, Vm.load_written (Vm.new {}) source_encodable⟩

/-- The second module returns its text although a frame of the first one was left. -/
theorem run_after_failure :
    vm.frames = [stuck] ∧ vm.Used {} ∧ (code 1).LoadedFrom source.writeModule ∧
    (code 0).LoadedFrom source.writeModule ∧
    ((vm.runWithin .none 2 (code 1)).1.map fun r => (r.1.anonymous, r.2)) =
      some (.finished (some (.object ⟨0, .text, .text "x"⟩)), "") :=
  ⟨rfl, vm_used, ⟨_, _, load_source⟩, source_loaded,
    ((Vm.run_of_used vm_used ⟨_, _, load_source⟩ source_loaded .none).2.1 2).trans rfl⟩

end AfterFailure

end SlotVM
