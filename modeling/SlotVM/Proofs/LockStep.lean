import SlotVM.Proofs.Identity
import SlotVM.Proofs.StepCases

namespace SlotVM

/-- The outcome with all identities in the result forgotten. -/
def Outcome.anonymous : Outcome → Outcome
  | .finished result => .finished (result.map Value.anonymous)
  | outcome => outcome

/-- The machine with all identities forgotten, and the heap and the cache with them. -/
def Machine.anonymous (m : Machine) : Machine :=
  ⟨m.frames.map Frame.anonymous, .empty, m.output⟩

/-- How far the run is, with all identities forgotten. -/
def Progress.anonymous : Progress → Progress
  | .running m => .running m.anonymous
  | .ended m outcome => .ended m.anonymous outcome.anonymous
  | .panicked m => .panicked m.anonymous

theorem Progress.output_anonymous (p : Progress) :
    p.anonymous.machine.output = p.machine.output := by
  cases p <;> rfl

namespace Frame

variable {f f' : Frame}

theorem anonymous_eq_iff : f'.anonymous = f.anonymous ↔
    f'.depth = f.depth ∧ f'.code.anonymous = f.code.anonymous ∧
      f'.locals.map (·.map Value.anonymous) = f.locals.map (·.map Value.anonymous) ∧
      f'.stack.map Value.anonymous = f.stack.map Value.anonymous ∧ f'.pos = f.pos := by
  simp [anonymous]

/-- There is room for an operand whatever the identities are. -/
theorem push?_alike (config : Config) (alike : f'.anonymous = f.anonymous) {v v' : Value}
    (same : v'.anonymous = v.anonymous) :
    (f'.push? config v' = none ∧ f.push? config v = none) ∨
      ∃ g' g, f'.push? config v' = some g' ∧ f.push? config v = some g ∧
        g'.anonymous = g.anonymous := by
  obtain ⟨depth, code, locals, stack, pos⟩ := anonymous_eq_iff.mp alike
  have size : f'.stack.size = f.stack.size := by simpa using congrArg Array.size stack
  unfold push?
  rw [size]
  split
  next =>
    refine .inr ⟨_, _, rfl, rfl, anonymous_eq_iff.mpr ⟨depth, code, locals, ?_, pos⟩⟩
    rw [Array.map_push, Array.map_push, stack, same]
  next => exact .inl ⟨rfl, rfl⟩

/-- The frame of a call depends on the code and the arguments up to identities. -/
theorem enter_alike (depth : Nat) {code code' : CodeObject}
    (same : code'.anonymous = code.anonymous) {args args' : List Value}
    (given : args'.map Value.anonymous = args.map Value.anonymous) :
    (enter depth code' args').anonymous = (enter depth code args).anonymous := by
  have names : code'.names = code.names := by simpa using congrArg CodeObject.names same
  have count : args'.length = args.length := by simpa using congrArg List.length given
  refine anonymous_eq_iff.mpr ⟨rfl, same, ?_, rfl, rfl⟩
  have assigned : args'.map ((·.map Value.anonymous) ∘ some) =
      args.map ((·.map Value.anonymous) ∘ some) := by
    simpa [Function.comp_def] using congrArg (List.map some) given
  simp only [enter, CodeObject.localCount, names, count, Array.map_append, List.map_toArray,
    List.map_map, assigned]

end Frame

namespace Machine

variable {env : Setting} {m m' : Machine}

theorem anonymous_eq_iff : m'.anonymous = m.anonymous ↔
    m'.frames.map Frame.anonymous = m.frames.map Frame.anonymous ∧ m'.output = m.output := by
  simp [anonymous]

theorem cons_alike (alike : m'.anonymous = m.anonymous) {f f' : Frame}
    (same : f'.anonymous = f.anonymous) :
    { m' with frames := f' :: m'.frames }.anonymous =
      { m with frames := f :: m.frames }.anonymous := by
  obtain ⟨frames, output⟩ := anonymous_eq_iff.mp alike
  refine anonymous_eq_iff.mpr ⟨?_, output⟩
  rw [List.map_cons, List.map_cons, same, frames]

theorem enter_alike (config : Config) (alike : m'.anonymous = m.anonymous) (depth : Nat)
    {code code' : CodeObject} (same : code'.anonymous = code.anonymous) {args args' : List Value}
    (given : args'.map Value.anonymous = args.map Value.anonymous) :
    (enter config m' depth code' args').anonymous = (enter config m depth code args).anonymous := by
  rw [enter_eq, enter_eq]
  split
  next => exact congrArg (Progress.ended · _) alike
  next =>
    split
    next => exact congrArg Progress.running (cons_alike alike (Frame.enter_alike depth same given))
    next => exact congrArg Progress.panicked alike

theorem push_alike (alike : m'.anonymous = m.anonymous) {f f' : Frame}
    (same : f'.anonymous = f.anonymous) {v v' : Value} (value : v'.anonymous = v.anonymous) :
    (apply env m' (f'.push env.config v')).anonymous =
      (apply env m (f.push env.config v)).anonymous := by
  unfold Frame.push
  rcases Frame.push?_alike env.config same value with ⟨full', full⟩ | ⟨g', g, room', room, pushed⟩
  · rw [full', full]
    exact congrArg (Progress.ended · _) (cons_alike alike same)
  · rw [room', room]
    exact congrArg Progress.running (cons_alike alike pushed)

theorem leave_alike (config : Config) (alike : m'.anonymous = m.anonymous)
    {result result' : Option Value}
    (same : result'.map Value.anonymous = result.map Value.anonymous) :
    (leave config m' result').anonymous = (leave config m result).anonymous := by
  obtain ⟨frames, output⟩ := anonymous_eq_iff.mp alike
  unfold leave
  cases top : m.frames with
  | nil =>
    rw [top, List.map_nil, List.map_eq_nil_iff] at frames
    rw [frames]
    change Progress.ended m'.anonymous (.finished (result'.map Value.anonymous)) =
      Progress.ended m.anonymous (.finished (result.map Value.anonymous))
    rw [alike, same]
  | cons f rest =>
    rw [top, List.map_cons, List.map_eq_cons_iff] at frames
    obtain ⟨f', rest', top', frame, below⟩ := frames
    rw [top']
    cases result with
    | none =>
      rw [Option.map_none, Option.map_eq_none_iff] at same
      rw [same]
      exact congrArg Progress.running alike
    | some v =>
      rw [Option.map_some, Option.map_eq_some_iff] at same
      obtain ⟨v', rfl, value⟩ := same
      dsimp only
      rcases Frame.push?_alike config frame value with
        ⟨full', full⟩ | ⟨g', g, room', room, resumed⟩
      · rw [full', full]
        exact congrArg (Progress.ended · _) alike
      · rw [room', room]
        refine congrArg Progress.running (anonymous_eq_iff.mpr ⟨?_, output⟩)
        rw [List.map_cons, List.map_cons, resumed, below]

theorem act_anonymous (alike : m'.anonymous = m.anonymous) (f : Frame) (e : Effect)
    {heap heap' : Heap} (after : m.store.heap = (e.act env.config f heap).2)
    (after' : m'.store.heap = (e.anonymous.act env.config f.anonymous heap').2) :
    (apply env m' (e.anonymous.act env.config f.anonymous heap').1).anonymous =
      (apply env m (e.act env.config f heap).1).anonymous := by
  cases e with
  | give v => exact push_alike alike f.anonymous_anonymous v.anonymous_anonymous
  | text s => exact push_alike alike f.anonymous_anonymous rfl
  | throw c =>
    have ended := unwind_thrown (h := env.hierarchy) c heap m after
    have ended' := unwind_thrown (h := env.hierarchy) c heap' m' after'
    change (m'.unwind env.hierarchy ((Effect.throw c).perform heap').1).anonymous =
      (m.unwind env.hierarchy ((Effect.throw c).perform heap).1).anonymous
    rw [ended, ended']
    exact congrArg (Progress.ended · _)
      (anonymous_eq_iff.mpr ⟨rfl, (anonymous_eq_iff.mp alike).2⟩)

/-- A plan without identities does the same as the plan, whatever the heap and the cache are. -/
theorem perform_anonymous (alike : m'.anonymous = m.anonymous) (p : Plan) {heap heap' : Heap}
    (after : m.store.heap = (p.perform env.config heap).2)
    (after' : m'.store.heap = (p.anonymous.perform env.config heap').2) :
    (apply env m' (p.anonymous.perform env.config heap').1).anonymous =
      (apply env m (p.perform env.config heap).1).anonymous := by
  cases p with
  | next f => exact congrArg Progress.running (cons_alike alike f.anonymous_anonymous)
  | result f e => exact act_anonymous alike f e after after'
  | print f line =>
    obtain ⟨frames, output⟩ := anonymous_eq_iff.mp alike
    have printed : { m' with output := m'.output ++ [line] }.anonymous =
        { m with output := m.output ++ [line] }.anonymous :=
      anonymous_eq_iff.mpr ⟨frames, congrArg (fun lines : Array String => lines ++ [line]) output⟩
    exact congrArg Progress.running (cons_alike printed f.anonymous_anonymous)
  | call f code args =>
    have args_ : (args.map Value.anonymous).map Value.anonymous = args.map Value.anonymous := by
      simp [Function.comp_def, Value.anonymous_anonymous]
    exact enter_alike env.config (cons_alike alike f.anonymous_anonymous) (f.depth + 1)
      code.anonymous_anonymous args_
  | leave answer =>
    refine leave_alike env.config alike ?_
    simp [Function.comp_def, Value.anonymous_anonymous]
  | fail f cause => exact congrArg (Progress.ended · _) (cons_alike alike f.anonymous_anonymous)

theorem perform_alike (alike : m'.anonymous = m.anonymous) {p p' : Plan}
    (same : p'.anonymous = p.anonymous) {heap heap' : Heap}
    (after : m.store.heap = (p.perform env.config heap).2)
    (after' : m'.store.heap = (p'.perform env.config heap').2) :
    (apply env m' (p'.perform env.config heap').1).anonymous =
      (apply env m (p.perform env.config heap).1).anonymous := by
  -- each does what the plan without identities does on an empty heap
  let blank : Machine := { m with store := ⟨.empty, (p.anonymous.perform env.config .empty).2⟩ }
  have plain : blank.anonymous = m.anonymous := rfl
  have first : (apply env blank (p.anonymous.perform env.config .empty).1).anonymous =
      (apply env m (p.perform env.config heap).1).anonymous := perform_anonymous plain p after rfl
  have second : (apply env blank (p'.anonymous.perform env.config .empty).1).anonymous =
      (apply env m' (p'.perform env.config heap').1).anonymous :=
    perform_anonymous (plain.trans alike.symm) p' after' (by rw [same])
  rw [same] at second
  exact second.symm.trans first

/-- Machines that are alike up to identities take the same step up to identities. -/
theorem step_alike (standard : env.hierarchy.Standard) (closed : m.Closed env.hierarchy)
    (closed' : m'.Closed env.hierarchy) (alike : m'.anonymous = m.anonymous) :
    (m'.step env).anonymous = (m.step env).anonymous := by
  obtain ⟨frames, output⟩ := anonymous_eq_iff.mp alike
  cases top : m.frames with
  | nil =>
    rw [top, List.map_nil, List.map_eq_nil_iff] at frames
    rw [step_nil env top, step_nil env frames]
    exact congrArg (Progress.ended · _) alike
  | cons f rest =>
    rw [top, List.map_cons, List.map_eq_cons_iff] at frames
    obtain ⟨f', rest', top', frame, below⟩ := frames
    obtain ⟨cache, -, stepped⟩ := step_eq env standard closed top
    obtain ⟨cache', -, stepped'⟩ := step_eq env standard closed' top'
    have planned : (f'.plan env.hierarchy).anonymous = (f.plan env.hierarchy).anonymous := by
      rw [← f'.plan_anonymous, ← f.plan_anonymous, frame]
    have lower (store store' : Store) : anonymous ⟨rest', store', m'.output⟩ =
        anonymous ⟨rest, store, m.output⟩ := anonymous_eq_iff.mpr ⟨below, output⟩
    rw [stepped, stepped']
    exact perform_alike (lower _ _) planned rfl rfl

/-- Runs start alike, whatever the heap and the cache are. -/
theorem start_alike (env : Setting) (store store' : Store) {code code' : CodeObject}
    (same : code'.anonymous = code.anonymous) :
    (start env store' code').anonymous = (start env store code).anonymous := by
  have blank : anonymous ⟨[], store', #[]⟩ = anonymous ⟨[], store, #[]⟩ := rfl
  exact enter_alike env.config blank 0 same rfl

end Machine

namespace Progress

variable {env : Setting} {p p' : Progress}

theorem next_alike (standard : env.hierarchy.Standard) (closed : p.Closed env.hierarchy [])
    (closed' : p'.Closed env.hierarchy []) (alike : p'.anonymous = p.anonymous) :
    (p'.next env).anonymous = (p.next env).anonymous := by
  cases p with
  | running m =>
    cases p' with
    | running m' =>
      exact Machine.step_alike standard closed.machine closed'.machine (running.inj alike)
    | ended | panicked => cases alike
  | ended m outcome =>
    cases p' with
    | ended m' outcome' => exact alike
    | running | panicked => cases alike
  | panicked m =>
    cases p' with
    | panicked m' => exact alike
    | running | ended => cases alike

theorem run_alike (standard : env.hierarchy.Standard) (closed : p.Closed env.hierarchy [])
    (closed' : p'.Closed env.hierarchy []) (alike : p'.anonymous = p.anonymous) (limit : Nat) :
    (p'.run env limit).anonymous = (p.run env limit).anonymous := by
  induction limit with
  | zero => rwa [run_zero, run_zero]
  | succ limit ih =>
    rw [run_succ, run_succ]
    exact next_alike standard (run_closed env standard closed limit)
      (run_closed env standard closed' limit) ih

end Progress

end SlotVM
