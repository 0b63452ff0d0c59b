import SlotVM.Proofs.CodeVariation
import SlotVM.Proofs.RepeatedRuns

namespace SlotVM

variable {V : Variation} {env : Setting}

/-- The same end of a run up to the variation; an unbound variable may have another name. -/
inductive Outcome.Variant (V : Variation) : Outcome → Outcome → Prop
  | finished {result result' : Option Value} : Option.Rel (Value.Variant V) result result' →
      Variant V (.finished result) (.finished result')
  | uncaught (cls message : String) : Variant V (.uncaught cls message) (.uncaught cls message)
  | unbound (message message' : String) : V.renames →
      Variant V (.uncaught "NameException" message) (.uncaught "NameException" message')
  | fatal (e : Error) : Variant V (.fatal e) (.fatal e)

structure Machine.Variant (V : Variation) (m m' : Machine) : Prop where
  frames : List.Forall₂ (Frame.Variant V) m.frames m'.frames
  output : m'.output = m.output

/-- The runs are equally far, up to the variation, or the first one has failed. -/
inductive Progress.Variant (V : Variation) : Progress → Progress → Prop
  | running {m m' : Machine} : m.Variant V m' → Variant V (.running m) (.running m')
  | ended {m m' : Machine} {outcome outcome' : Outcome} : m'.output = m.output →
      outcome.Variant V outcome' → Variant V (.ended m outcome) (.ended m' outcome')
  | panicked {m m' : Machine} : m'.output = m.output → Variant V (.panicked m) (.panicked m')
  | forgiven {m : Machine} {e : Error} (p : Progress) : V.forgives →
      Variant V (.ended m (.fatal e)) p

namespace Frame

variable {f f' : Frame}

theorem push?_variant (config : Config) (alike : f.Variant V f') {v v' : Value}
    (same : v.Variant V v') : Option.Rel (Variant V) (f.push? config v) (f'.push? config v') := by
  unfold push?
  rw [alike.stack.size_eq]
  split
  next =>
    exact .some ⟨alike.depth, alike.code, alike.locals, alike.stack.push same, alike.pos⟩
  next => exact .none

theorem enter_variant (lawful : V.Lawful) (depth : Nat) {code code' : CodeObject}
    (same : code.Variant V code') {args args' : List Value}
    (given : List.Forall₂ (Value.Variant V) args args') :
    (enter depth code args).Variant V (enter depth code' args') := by
  refine ⟨rfl, same, ?_, pointwise_empty, rfl⟩
  have assigned : List.Forall₂ (Option.Rel (Value.Variant V)) (args.map some) (args'.map some) :=
    List.rel_map (fun _ _ alike => .some alike) given
  have unset (n : Nat) : List.Forall₂ (Option.Rel (Value.Variant V)) (List.replicate n none)
      (List.replicate n none) := by
    refine List.forall₂_same.mpr fun v hv => ?_
    rw [List.eq_of_mem_replicate hv]
    exact .none
  rw [pointwise_iff]
  simp only [enter, same.localCount_eq lawful, ← given.length_eq, Array.toList_append,
    Array.toList_replicate]
  exact List.rel_append assigned (unset _)

end Frame

namespace Machine

variable {m m' : Machine}

theorem Variant.cons (alike : m.Variant V m') {f f' : Frame} (frame : f.Variant V f') :
    { m with frames := f :: m.frames }.Variant V { m' with frames := f' :: m'.frames } :=
  ⟨.cons frame alike.frames, alike.output⟩

theorem enter_variant (lawful : V.Lawful) (config : Config) (alike : m.Variant V m') (depth : Nat)
    {code code' : CodeObject} (same : code.Variant V code') {args args' : List Value}
    (given : List.Forall₂ (Value.Variant V) args args') :
    (enter config m depth code args).Variant V (enter config m' depth code' args') := by
  rw [enter_eq, enter_eq]
  split
  next => exact .ended alike.output (.fatal _)
  next =>
    split
    next => exact .running (alike.cons (Frame.enter_variant lawful depth same given))
    next => exact .panicked alike.output

theorem push_variant (alike : m.Variant V m') {f f' : Frame} (frame : f.Variant V f')
    {v v' : Value} (same : v.Variant V v') :
    (apply env m (f.push env.config v)).Variant V (apply env m' (f'.push env.config v')) := by
  have pushed := Frame.push?_variant env.config frame same
  unfold Frame.push
  generalize f.push? env.config v = r at pushed ⊢
  generalize f'.push? env.config v' = r' at pushed ⊢
  cases pushed with
  | none => exact .ended alike.output (.fatal _)
  | some higher => exact .running (alike.cons higher)

theorem leave_variant (config : Config) (alike : m.Variant V m') {result result' : Option Value}
    (same : Option.Rel (Value.Variant V) result result') :
    (leave config m result).Variant V (leave config m' result') := by
  obtain ⟨frames, store, output⟩ := m
  obtain ⟨frames', store', output'⟩ := m'
  obtain ⟨below, printed⟩ := alike
  unfold leave
  cases below with
  | nil => exact .ended printed (.finished same)
  | cons frame rest =>
    cases same with
    | none => exact .running ⟨.cons frame rest, printed⟩
    | @some v v' value =>
      dsimp only
      have pushed := Frame.push?_variant config frame value
      generalize Frame.push? config _ v = r at pushed ⊢
      generalize Frame.push? config _ v' = r' at pushed ⊢
      cases pushed with
      | none => exact .ended printed (.fatal _)
      | some resumed => exact .running ⟨.cons resumed rest, printed⟩

theorem unwind_variant (alike : m.Variant V m') (c : Condition) {heap heap' : Heap}
    (after : m.store.heap = ((Effect.throw c).perform heap).2)
    (after' : m'.store.heap = ((Effect.throw c).perform heap').2) :
    (m.unwind env.hierarchy ((Effect.throw c).perform heap).1).Variant V
      (m'.unwind env.hierarchy ((Effect.throw c).perform heap').1) := by
  rw [unwind_thrown c heap m after, unwind_thrown c heap' m' after']
  exact .ended alike.output (.uncaught _ _)

theorem act_variant (standard : env.hierarchy.Standard) (alike : m.Variant V m') {f f' : Frame}
    (frame : f.Variant V f') {e e' : Effect} (same : e.Variant V e') {heap heap' : Heap}
    (after : m.store.heap = (e.act env.config f heap).2)
    (after' : m'.store.heap = (e'.act env.config f' heap').2) :
    (apply env m (e.act env.config f heap).1).Variant V
      (apply env m' (e'.act env.config f' heap').1) := by
  cases same with
  | give value => exact push_variant alike frame value
  | text s => exact push_variant alike frame (.text _ _ s)
  | throw c => exact unwind_variant alike c after after'
  | unbound name name' renames =>
    have ended := unwind_thrown (h := env.hierarchy) _ heap m after
    have ended' := unwind_thrown (h := env.hierarchy) _ heap' m' after'
    have cls : env.hierarchy.nameOf .nameException = "NameException" :=
      standard.nameOf_eq rfl
    change (m.unwind env.hierarchy _).Variant V (m'.unwind env.hierarchy _)
    rw [ended, ended']
    change Progress.Variant V (.ended _ (.uncaught (env.hierarchy.nameOf .nameException) _))
      (.ended _ (.uncaught (env.hierarchy.nameOf .nameException) _))
    rw [cls]
    exact .ended alike.output (.unbound _ _ renames)

theorem perform_variant (lawful : V.Lawful) (standard : env.hierarchy.Standard)
    (alike : m.Variant V m') {p p' : Plan} (same : p.Variant V p') {heap heap' : Heap}
    (after : m.store.heap = (p.perform env.config heap).2)
    (after' : m'.store.heap = (p'.perform env.config heap').2) :
    (apply env m (p.perform env.config heap).1).Variant V
      (apply env m' (p'.perform env.config heap').1) := by
  cases same with
  | next frame => exact .running (alike.cons frame)
  | result frame effect => exact act_variant standard alike frame effect after after'
  | print line frame =>
    have printed : { m with output := m.output ++ [line] }.Variant V
        { m' with output := m'.output ++ [line] } :=
      ⟨alike.frames, congrArg (fun lines : Array String => lines ++ [line]) alike.output⟩
    exact .running (printed.cons frame)
  | @call f f' code code' args args' frame called given =>
    have next := enter_variant lawful env.config (alike.cons frame) (f.depth + 1) called given
    change Progress.Variant V _ (enter env.config _ (f'.depth + 1) code' args')
    rw [frame.depth]
    exact next
  | leave answer => exact leave_variant env.config alike answer
  | fail cause frame => exact .ended alike.output (.fatal _)
  | forgiven p forgives => exact .forgiven _ forgives

/-- Variants of a machine take a step side by side. -/
theorem step_variant (lawful : V.Lawful) (standard : env.hierarchy.Standard)
    (closed : m.Closed env.hierarchy) (closed' : m'.Closed env.hierarchy)
    (alike : m.Variant V m') : (m.step env).Variant V (m'.step env) := by
  have frames := alike.frames
  cases top : m.frames with
  | nil =>
    rw [top, List.forall₂_nil_left_iff] at frames
    rw [step_nil env top, step_nil env frames]
    exact .ended alike.output (.finished .none)
  | cons f rest =>
    rw [top, List.forall₂_cons_left_iff] at frames
    obtain ⟨f', rest', frame, below, top'⟩ := frames
    obtain ⟨cache, -, stepped⟩ := step_eq env standard closed top
    obtain ⟨cache', -, stepped'⟩ := step_eq env standard closed' top'
    have hf : f.Storable := closed.frames f (top ▸ List.mem_cons_self)
    -- A plan is made from the frame and the classes alone: heaps and caches need not be related.
    have planned := Frame.plan_variant (h := env.hierarchy) lawful frame hf
    have lower (store store' : Store) :
        Variant V ⟨rest, store, m.output⟩ ⟨rest', store', m'.output⟩ := ⟨below, alike.output⟩
    rw [stepped, stepped']
    exact perform_variant lawful standard (lower _ _) planned rfl rfl

/-- Runs of variants start alike, whatever the heaps and the caches are. -/
theorem start_variant (lawful : V.Lawful) (store store' : Store) {code code' : CodeObject}
    (same : code.Variant V code') : (start env store code).Variant V (start env store' code') := by
  have blank : Variant V ⟨[], store, #[]⟩ ⟨[], store', #[]⟩ := ⟨.nil, rfl⟩
  exact enter_variant lawful env.config blank 0 same .nil

end Machine

namespace Progress

variable {p p' : Progress}

theorem next_variant (lawful : V.Lawful) (standard : env.hierarchy.Standard)
    (closed : p.Closed env.hierarchy []) (closed' : p'.Closed env.hierarchy [])
    (alike : p.Variant V p') : (p.next env).Variant V (p'.next env) := by
  cases alike with
  | running alike =>
    exact Machine.step_variant lawful standard closed.machine closed'.machine alike
  | ended output outcome => exact .ended output outcome
  | panicked output => exact .panicked output
  | forgiven p forgives => exact .forgiven _ forgives

theorem run_variant (lawful : V.Lawful) (standard : env.hierarchy.Standard)
    (closed : p.Closed env.hierarchy []) (closed' : p'.Closed env.hierarchy [])
    (alike : p.Variant V p') (limit : Nat) : (p.run env limit).Variant V (p'.run env limit) := by
  induction limit with
  | zero => rwa [run_zero, run_zero]
  | succ limit ih =>
    rw [run_succ, run_succ]
    exact next_variant lawful standard (run_closed env standard closed limit)
      (run_closed env standard closed' limit) ih

end Progress

/-- The unit of code that a segment holds, without its constants. -/
def Segment.shell (s : Segment) : CodeObject :=
  ⟨s.name, s.argcount.toNat, s.names, s.attrs, [], s.code⟩

/-- The same constants up to the variation of code. -/
inductive Const.Variant (V : Variation) : Const → Const → Prop
  | int (n : Int64) : Variant V (.int n) (.int n)
  | float (x : Double) : Variant V (.float x) (.float x)
  | str (t : String) : Variant V (.str t) (.str t)
  | code {s s' : Segment} : V.own s.shell s'.shell →
      List.Forall₂ (Variant V) s.consts s'.consts → Variant V (.code s) (.code s')

/-- Segments that differ in the given way, and their constants likewise. -/
structure Segment.Variant (V : Variation) (s s' : Segment) : Prop where
  own : V.own s.shell s'.shell
  consts : List.Forall₂ (Const.Variant V) s.consts s'.consts

section

variable (h h' : Hierarchy)

mutual

theorem Const.load_variant : ∀ (c c' : Const) (store store' : Store), c.Variant V c' →
    (c.load h store).1.Variant V (c'.load h' store').1
  | .int n, _, _, _, alike => by
    cases alike
    exact .int n
  | .float x, _, _, _, alike => by
    cases alike
    exact .float x
  | .str t, _, _, _, alike => by
    cases alike
    exact .text _ _ t
  | .code s, _, store, store', alike => by
    cases alike with
    | @code _ s' own consts =>
      obtain ⟨own', consts'⟩ := Segment.load_variant s s' store store' ⟨own, consts⟩
      exact .code own' consts'

theorem Segment.load_variant : ∀ (s s' : Segment) (store store' : Store), s.Variant V s' →
    (s.load h store).1.Variant V (s'.load h' store').1
  | ⟨_, _, _, _, consts, _⟩, ⟨_, _, _, _, consts', _⟩, store, store', alike =>
    ⟨alike.own, loadConsts_variant consts consts' store store' alike.consts⟩

theorem loadConsts_variant : ∀ (cs cs' : List Const) (store store' : Store),
    List.Forall₂ (Const.Variant V) cs cs' →
    List.Forall₂ (Value.Variant V) (loadConsts cs h store).1 (loadConsts cs' h' store').1
  | [], _, _, _, alike => by
    cases alike
    exact .nil
  | c :: rest, _, store, store', alike => by
    cases alike with
    | @cons _ c' _ rest' first others =>
      have value := Const.load_variant c c' store store' first
      have values := loadConsts_variant rest rest' (c.load h store).2 (c'.load h' store').2 others
      exact .cons value values

end

end

namespace CodeObject

/-- The code is what loading makes of the segment, on some virtual machine. -/
def MadeOf (s : Segment) (code : CodeObject) : Prop :=
  ∃ (h : Hierarchy) (store : Store), code = (s.load h store).1

variable {s s' : Segment} {code code' : CodeObject}

theorem LoadedFrom.madeOf {bytes : List UInt8} (loaded : code.LoadedFrom bytes)
    (read : Segment.readModule bytes = .ok s) : code.MadeOf s := by
  obtain ⟨vm, _, loaded⟩ := loaded
  obtain ⟨⟨s', read', linked⟩, -⟩ := Vm.load_eq_ok loaded
  cases read.symm.trans read'
  cases linked
  exact ⟨vm.hierarchy, vm.store, rfl⟩

theorem MadeOf.storable (made : code.MadeOf s) : ∀ v ∈ code.consts, v.Storable := by
  obtain ⟨h, store, rfl⟩ := made
  exact (Segment.load_storable h s store).1

theorem MadeOf.variant (made : code.MadeOf s) (made' : code'.MadeOf s')
    (alike : s.Variant V s') : code.Variant V code' := by
  obtain ⟨h, store, rfl⟩ := made
  obtain ⟨h', store', rfl⟩ := made'
  exact Segment.load_variant h h' s s' store store' alike

end CodeObject

namespace Vm

variable {vm vm' : Vm} {s s' : Segment} {code code' : CodeObject}

/-- Runs of variants of a module are equally far after every number of steps, on any two virtual
machines with the same classes and limits. -/
theorem progress_variant (lawful : V.Lawful) (consistent : vm.Consistent)
    (consistent' : vm'.Consistent) (hierarchy : vm'.hierarchy = vm.hierarchy)
    (config : vm'.config = vm.config) (made : code.MadeOf s) (made' : code'.MadeOf s')
    (alike : s.Variant V s') (host : Host) (steps : Nat) :
    (vm.progress host code steps).Variant V (vm'.progress host code' steps) := by
  have closed := consistent.start_closed made.storable host
  have closed' := consistent'.start_closed made'.storable host
  have setting : vm'.setting host = vm.setting host := by
    simp [Vm.setting, hierarchy, config]
  have starts : (Machine.start (vm.setting host) vm.store code).Variant V
      (Machine.start (vm.setting host) vm'.store code') :=
    Machine.start_variant lawful vm.store vm'.store (made.variant made' alike)
  unfold progress
  rw [setting] at closed' ⊢
  exact Progress.run_variant lawful consistent.standard closed closed' starts steps

/-- The same report of a run up to the variation: the outcome and the text printed. -/
def Reports (V : Variation) : Option (Outcome × String) → Option (Outcome × String) → Prop :=
  Option.Rel fun report report' => report.1.Variant V report'.1 ∧ report'.2 = report.2

/-- Runs that are equally far report the same, unless the first one has failed. -/
theorem reports_of_progress {host : Host} {limit : Nat}
    (alike : (vm.progress host code limit).Variant V (vm'.progress host code' limit)) :
    Reports V (vm.runWithin host limit code).1 (vm'.runWithin host limit code').1 ∨
      V.forgives ∧ ∃ e printed, (vm.runWithin host limit code).1 = some (.fatal e, printed) := by
  rw [runWithin_eq, runWithin_eq]
  generalize vm.progress host code limit = p at alike ⊢
  generalize vm'.progress host code' limit = p' at alike ⊢
  cases alike with
  | running alike => exact .inl .none
  | @ended m m' outcome outcome' output same =>
    have printed : m'.printed = m.printed := by
      unfold Machine.printed
      rw [output]
    exact .inl (.some ⟨same, printed⟩)
  | panicked => exact .inl .none
  | forgiven p forgives => exact .inr ⟨forgives, _, _, rfl⟩

end Vm

end SlotVM
