import SlotVM.Proofs.FrameBounds
import SlotVM.Proofs.ListedUnits

namespace SlotVM

/-- The causes that lie in the layout of code. -/
inductive Fault.Layout : Fault → Prop
  | unexpectedByte (context : String) (byte : UInt8) : Layout (.unexpectedByte context byte)
  | unexpectedEnd (context : String) : Layout (.unexpectedEnd context)
  | jumpOutOfRange (position : Nat) : Layout (.jumpOutOfRange position)

theorem Fault.Layout.error_ne {cause other : Fault} (layout : cause.Layout)
    (running : other.Running) (apart : ¬ other.Layout) : other.error ≠ cause.error := by
  intro same
  have front := congrArg (fun e : Error => e.message.toList.take 2) same
  unfold error message at front
  cases running with
  | unexpectedByte context byte => exact apart (.unexpectedByte context byte)
  | unexpectedEnd context => exact apart (.unexpectedEnd context)
  | jumpOutOfRange position => exact apart (.jumpOutOfRange position)
  | _ => cases layout <;> simp [toString_text] at front

namespace CodeObject

variable {c d module : CodeObject} {pos : Nat} {i j : Instruction}

/-- The listing of the code has the instruction at the position. -/
def Lists (c : CodeObject) (pos : Nat) (i : Instruction) : Prop :=
  ∃ listing, c.instructions = .ok listing ∧ (pos, i) ∈ listing

/-- The position is that of a listed instruction or the end of the code. -/
def Boundary (c : CodeObject) (pos : Nat) : Prop := pos = c.bytecode.size ∨ ∃ i, c.Lists pos i

/-- The code can be listed, and every jump of the listing leads to a listed instruction or to the
end. -/
structure Aimed (c : CodeObject) : Prop where
  listed : ∃ listing, c.instructions = .ok listing
  jumps : ∀ pos dir guard offset, c.Lists pos (.jump dir guard offset) →
    ∃ target, Listing.target? (pos + (Instruction.jump dir guard offset).size) dir offset.toNat =
      some target ∧ c.Boundary target

theorem instructions_eq_ok_iff {listing : List (Nat × Instruction)} :
    c.instructions = .ok listing ↔ Instruction.Laid 0 listing c.bytecode.size ∧
      Instruction.bytesOf listing = c.bytecode.toList := by
  rw [instructions, Instruction.sweep_eq_ok_iff, Nat.zero_add, Array.length_toList]

theorem Lists.decode (lists : c.Lists pos i) :
    Instruction.decode c.bytecode pos = .ok (i, pos + i.size) := by
  obtain ⟨listing, swept, member⟩ := lists
  obtain ⟨laid, bytes⟩ := instructions_eq_ok_iff.mp swept
  obtain ⟨front, rest, rfl⟩ := List.append_of_mem member
  obtain ⟨middle, before, rfl, -⟩ := Instruction.laid_append.mp laid
  refine Instruction.decode_eq_ok_iff.mpr ⟨rfl, Instruction.bytesOf front,
    Instruction.bytesOf rest, ?_, by rw [← before.length_bytesOf, Nat.zero_add]⟩
  rw [← bytes, Instruction.bytesOf_append, Instruction.bytesOf_cons]

theorem Lists.unique (lists : c.Lists pos i) (lists' : c.Lists pos j) : j = i := by
  obtain ⟨same, -⟩ := Prod.mk.inj (Except.ok.inj (lists'.decode.symm.trans lists.decode))
  exact same

theorem Lists.next (lists : c.Lists pos i) : c.Boundary (pos + i.size) := by
  obtain ⟨listing, swept, member⟩ := lists
  obtain ⟨laid, -⟩ := instructions_eq_ok_iff.mp swept
  obtain ⟨front, rest, rfl⟩ := List.append_of_mem member
  obtain ⟨middle, -, rfl, after⟩ := Instruction.laid_append.mp laid
  cases rest with
  | nil => exact .inl after
  | cons entry rest =>
    obtain ⟨position, k⟩ := entry
    obtain ⟨rfl, -⟩ := after
    exact .inr ⟨k, _, swept, by simp⟩

theorem Aimed.start (aimed : c.Aimed) : c.Boundary 0 := by
  obtain ⟨listing, swept⟩ := aimed.listed
  obtain ⟨laid, -⟩ := instructions_eq_ok_iff.mp swept
  cases listing with
  | nil => exact .inl laid
  | cons entry rest =>
    obtain ⟨position, i⟩ := entry
    obtain ⟨rfl, -⟩ := laid
    exact .inr ⟨i, _, swept, List.mem_cons_self⟩

theorem Boundary.le_size (boundary : c.Boundary pos) : pos ≤ c.bytecode.size := by
  rcases boundary with rfl | ⟨i, lists⟩
  · exact Nat.le_refl _
  · have bounds := Instruction.decode_eq_ok lists.decode
    omega

theorem Boundary.lists_of_decode (boundary : c.Boundary pos) {next : Nat}
    (decoded : Instruction.decode c.bytecode pos = .ok (i, next)) : c.Lists pos i := by
  rcases boundary with rfl | ⟨j, lists⟩
  · have bounds := Instruction.decode_eq_ok decoded
    have positive := Instruction.size_pos i
    omega
  · obtain ⟨rfl, -⟩ := Prod.mk.inj (Except.ok.inj (decoded.symm.trans lists.decode))
    exact lists

end CodeObject

namespace Frame

variable {f g caller : Frame} {config : Config} {i : Instruction} {next : Nat}

theorem target?_of_listed {dir : Direction} {offset target : Nat}
    (leads : Listing.target? f.pos dir offset = some target)
    (inside : target ≤ f.code.bytecode.size) : f.target? dir offset = some target := by
  cases dir with
  | forward =>
    cases leads
    exact if_pos inside
  | backward =>
    unfold Listing.target? at leads
    dsimp only at leads
    split at leads
    next enough =>
      cases leads
      exact if_pos ⟨enough, inside⟩
    next => cases leads

/-- The frame stands at a listed instruction or at the end of its code. -/
def OnBoundary (f : Frame) : Prop := f.code.Boundary f.pos

theorem OnBoundary.after (here : f.OnBoundary) (at_ : f.At i next) : f.code.Boundary next := by
  obtain ⟨rfl, -⟩ := Instruction.decode_eq_ok at_
  exact (here.lists_of_decode at_).next

theorem OnBoundary.jump (here : f.OnBoundary) (aimed : f.code.Aimed) {dir : Direction}
    {guard : Guard} {offset : UInt8} (at_ : f.At (.jump dir guard offset) next) :
    ∃ target, { f with pos := next }.target? dir offset.toNat = some target ∧
      f.code.Boundary target := by
  obtain ⟨target, leads, boundary⟩ := aimed.jumps _ _ _ _ (here.lists_of_decode at_)
  obtain ⟨rfl, -⟩ := Instruction.decode_eq_ok at_
  exact ⟨target, target?_of_listed leads boundary.le_size, boundary⟩

theorem Stays.onBoundary (stays : f.Stays config i next g) (at_ : f.At i next)
    (here : f.OnBoundary) (aimed : f.code.Aimed) : g.OnBoundary := by
  unfold OnBoundary
  rw [stays.code]
  rcases stays.pos with after | ⟨dir, guard, offset, rfl, leads⟩
  · exact after ▸ here.after at_
  · obtain ⟨target, leads', boundary⟩ := here.jump aimed at_
    rw [leads] at leads'
    cases leads'
    exact boundary

theorem Fails.running {cause : Fault} (fails : f.Fails cause) : cause.Running := by
  cases fails with
  | undecodable failed => exact Instruction.decode_running failed
  | jumpOutOfRange _ _ => exact .jumpOutOfRange _
  | stackUnderflow _ => exact .stackUnderflow
  | stackOverflow _ => exact .stackOverflow
  | invalidConstant _ => exact .invalidConstant _
  | invalidLocal _ => exact .invalidLocal _

theorem act_of_at (at_ : f.At i next) (host : Host) (config : Config) :
    f.act host config = execute host config { f with pos := next } i := by
  have inside := at_.bounds
  have decoded : Instruction.decode f.code.bytecode f.pos = .ok (i, next) := at_
  unfold act
  rw [if_neg (by omega), decoded]

theorem OnBoundary.not_layout (here : f.OnBoundary) (aimed : f.code.Aimed)
    (inside : f.pos < f.code.bytecode.size) {cause : Fault} (fails : f.Fails cause) :
    ¬ cause.Layout := by
  have listed : ∃ i, f.code.Lists f.pos i := here.resolve_left (Nat.ne_of_lt inside)
  obtain ⟨i, lists⟩ := listed
  intro layout
  cases fails with
  | undecodable failed => rw [lists.decode] at failed; cases failed
  | jumpOutOfRange at_ out =>
    obtain ⟨target, leads, -⟩ := here.jump aimed at_
    rw [out] at leads
    cases leads
  | stackUnderflow _ | stackOverflow _ | invalidConstant _ | invalidLocal _ => cases layout

end Frame

namespace Machine

/-- The frames stand at listed instructions or at the ends of their code. -/
def OnBoundaries (m : Machine) : Prop := ∀ f ∈ m.frames, f.OnBoundary

section

variable {env : Setting} {module : CodeObject} {f : Frame} {rest : List Frame} {p : Progress}

theorem Turn.onBoundaries (turn : Turn env f rest p) (aimed : f.code.Aimed)
    (entered : ∀ d args caller, f.Calls d args caller → d.Aimed)
    (here : f.OnBoundary) (below : ∀ g ∈ rest, g.OnBoundary) : p.machine.OnBoundaries := by
  have stands {pos : Nat} {stack : Array Value} (boundary : f.code.Boundary pos) :
      ∀ g ∈ { f with pos, stack } :: rest, g.OnBoundary :=
    List.forall_mem_cons.mpr ⟨boundary, below⟩
  cases turn with
  | stay at_ stays => exact List.forall_mem_cons.mpr ⟨stays.onBoundary at_ here aimed, below⟩
  | @enter d args caller _ _ calls _ _ =>
    have start : (Frame.enter (f.depth + 1) d args.toList).OnBoundary :=
      (entered d args caller calls).start
    obtain ⟨at_, -, -, -⟩ := calls
    exact List.forall_mem_cons.mpr ⟨start, stands (here.after at_)⟩
  | tooDeep at_ _ _ | unallocated at_ _ _ => exact stands (here.after at_)
  | @back g under _ _ _ same _ =>
    subst same
    obtain ⟨next, others⟩ := List.forall_mem_cons.mp below
    exact List.forall_mem_cons.mpr ⟨next, others⟩
  | full _ _ _ _ => exact below
  | finish _ _ => exact nofun
  | raise => exact nofun
  | fail _ place _ =>
    rcases place with rfl | ⟨i, at_⟩
    · exact stands here
    · exact stands (here.after at_)

theorem step_returning_fatal {m m' : Machine} {e : Error} (regular : m.Regular env module)
    (frames : m.frames = f :: rest) (returning : f.Returning)
    (ended : m.step env = .ended m' (.fatal e)) : e = Fault.stackOverflow.error := by
  obtain ⟨cache, -, eq⟩ := step_eq env regular.standard regular.closed frames
  rw [Frame.plan_of_returning returning] at eq
  change _ = leave env.config _ f.stack.back? at eq
  rw [ended] at eq
  unfold leave at eq
  split at eq
  next => cases eq
  next => cases eq
  next =>
    split at eq
    next => cases eq
    next => cases eq; rfl

theorem step_fatal {m m' : Machine} {e : Error} (regular : m.Regular env module)
    (aimed : ∀ d : CodeObject, d.PartOf module → d.Aimed) (boundaries : m.OnBoundaries)
    (ended : m.step env = .ended m' (.fatal e)) {cause : Fault} (layout : cause.Layout) :
    e ≠ cause.error := by
  cases frames : m.frames with
  | nil => cases (step_nil env frames).symm.trans ended
  | cons f rest =>
    have member : f ∈ m.frames := frames ▸ List.mem_cons_self
    by_cases inside : f.pos < f.code.bytecode.size
    · have turn := regular.turn frames
      rw [ended] at turn
      cases turn with
      | tooDeep _ _ _ => exact layout.error_ne .callDepthExceeded nofun
      | full _ _ _ _ => exact layout.error_ne .stackOverflow nofun
      | fail fails _ _ =>
        have code := (regular.stacked.of_mem member).code
        exact layout.error_ne fails.running
          ((boundaries f member).not_layout (aimed _ code) inside fails)
    · rw [step_returning_fatal regular frames (.inl (Nat.le_of_not_lt inside)) ended]
      exact layout.error_ne .stackOverflow nofun

end

end Machine

namespace Vm

/-- The run of the code keeps to its listing. -/
structure FollowsListing (vm : Vm) (host : Host) (code : CodeObject) : Prop where
  boundary : ∀ steps, ∀ f ∈ (vm.progress host code steps).machine.frames, f.code.Boundary f.pos
  /-- Whatever is carried out is what the listing of the code has at that position, and nothing
  else. -/
  executes : ∀ steps m f rest, vm.progress host code steps = .running m → m.frames = f :: rest →
    f.pos < f.code.bytecode.size → ∃ i, (∀ j, f.code.Lists f.pos j ↔ j = i) ∧
      f.act host vm.config = Frame.execute host vm.config { f with pos := f.pos + i.size } i
  /-- The code is among the units that are listed. -/
  shown : ∀ steps, ∀ f ∈ (vm.progress host code steps).machine.frames,
    ∃ depth, (depth, f.code) ∈ code.units 0
  /-- The listing can be made, and it has the lines of the code one after the other. -/
  listed : ∀ heap, ∃ t, code.listing heap = .ok t ∧
    ∀ steps, ∀ f ∈ (vm.progress host code steps).machine.frames, ∃ depth before after,
      t = Listing.text (before ++ Listing.indented heap depth f.code ++ after)
  ends : ∀ steps m e, vm.progress host code steps = .ended m (.fatal e) →
    ∀ cause : Fault, cause.Layout → e ≠ cause.error

section

variable {vm : Vm} {host : Host} {code : CodeObject}

/-- By induction on the steps, each of which keeps all frames at boundaries. -/
theorem progress_onBoundaries (regular : vm.Regular host code)
    (aimed : ∀ d : CodeObject, d.PartOf code → d.Aimed) (steps : Nat) :
    (vm.progress host code steps).machine.OnBoundaries := by
  induction steps with
  | zero =>
    have start : (Frame.enter 0 code []).OnBoundary :=
      (aimed code (CodeObject.partOf_refl code)).start
    rw [progress_zero, Machine.OnBoundaries]
    rcases Machine.start_frames (vm.setting host) vm.store code with none | ⟨-, -, one⟩
    · rw [none]
      exact nofun
    · rw [one]
      exact List.forall_mem_singleton.mpr start
  | succ steps ih =>
    rcases vm.progress_cases host code steps with ⟨m, reached⟩ | still
    · rw [reached] at ih
      rw [progress_succ reached]
      have regular₀ := regular.at reached
      cases frames : m.frames with
      | nil =>
        rw [Machine.step_nil _ frames]
        exact ih
      | cons f rest =>
        have stand : ∀ g ∈ f :: rest, g.OnBoundary := frames ▸ (ih : m.OnBoundaries)
        obtain ⟨here, below⟩ := List.forall_mem_cons.mp stand
        have hf := regular₀.stacked.of_mem (frames ▸ List.mem_cons_self)
        exact (regular₀.turn frames).onBoundaries (aimed _ hf.code)
          (fun d args caller calls => aimed d (calls.part hf)) here below
    · rw [still]
      exact ih

theorem progress_fatal (regular : vm.Regular host code)
    (aimed : ∀ d : CodeObject, d.PartOf code → d.Aimed) {steps : Nat} {m : Machine} {e : Error}
    (ended : vm.progress host code steps = .ended m (.fatal e)) {cause : Fault}
    (layout : cause.Layout) : e ≠ cause.error := by
  induction steps with
  | zero =>
    rw [progress_zero] at ended
    cases (Machine.start_eq_ended ended).2
    exact layout.error_ne .callDepthExceeded nofun
  | succ steps ih =>
    rcases vm.progress_cases host code steps with ⟨m', reached⟩ | still
    · have boundaries := progress_onBoundaries regular aimed steps
      rw [reached] at boundaries
      rw [progress_succ reached] at ended
      exact Machine.step_fatal (regular.at reached) aimed boundaries ended layout
    · exact ih (still ▸ ended)

end

/-- Code with all jumps aimed at listed instructions runs as it is listed. -/
theorem follows_listing {vm vm' : Vm} (consistent : vm.Consistent) {bytes : List UInt8}
    {code : CodeObject} (loaded : vm.load bytes = .ok (code, vm'))
    (aimed : ∀ d : CodeObject, d.PartOf code → d.Aimed) (host : Host) :
    vm'.FollowsListing host code := by
  have regular := regular_of_load consistent loaded host
  have shown : ∀ steps, ∀ f ∈ (vm'.progress host code steps).machine.frames,
      ∃ depth, (depth, f.code) ∈ code.units 0 := by
    intro steps f member
    obtain ⟨n, within⟩ := ((regular steps).stacked.of_mem member).code
    exact ⟨_, within.mem_units 0⟩
  refine ⟨progress_onBoundaries regular aimed, ?_, shown, fun heap => ?_,
    fun steps m e ended cause layout => progress_fatal regular aimed ended layout⟩
  · intro steps m f rest reached frames inside
    have boundary := progress_onBoundaries regular aimed steps f
      (by rw [reached]; exact frames ▸ List.mem_cons_self)
    obtain ⟨i, lists⟩ := boundary.resolve_left (Nat.ne_of_lt inside)
    refine ⟨i, fun j => ⟨fun lists' => lists.unique lists', fun same => same ▸ lists⟩, ?_⟩
    exact Frame.act_of_at lists.decode host vm'.config
  · have readable : ∀ unit ∈ code.units 0, ∃ listing, unit.2.instructions = .ok listing :=
      fun unit member => (aimed unit.2 (CodeObject.within_of_mem_units member)).listed
    obtain ⟨t, made, lines⟩ := CodeObject.exists_listing readable heap
    refine ⟨t, made, fun steps f member => ?_⟩
    obtain ⟨depth, member⟩ := shown steps f member
    obtain ⟨before, after, parted⟩ := lines (depth, f.code) member
    exact ⟨depth, before, after, parted⟩

end Vm

namespace LoopUntilTrue

/-- A module that goes back to its start until a number is true. -/
def source : Segment :=
  ⟨"m", 0, [], [], [], #[0x31, 1, 0, 0, 0, 0x41, 2, 0x40, 9]⟩

theorem source_encodable : source.Encodable Segment.maxNesting :=
  .of_below (by constructor <;> decide) (by simp [source])

def module : CodeObject := ⟨"<module>", 0, [], [], [], source.code⟩

/-- The virtual machine that has loaded the module. -/
def vm : Vm := ((Vm.new {}).eval (Segment.load { source with name := "<module>" })).2

theorem load_source : (Vm.new {}).load source.writeModule = .ok (module, vm) :=
  Vm.load_written (Vm.new {}) source_encodable

theorem module_listed : module.instructions = .ok
    [(0, .loadInt 1), (5, .jump .forward .ifTrue 2), (7, .jump .backward .always 9)] :=
  CodeObject.instructions_eq_ok_iff.mpr ⟨⟨rfl, rfl, rfl, rfl⟩, by decide⟩

theorem module_aimed (d : CodeObject) (part : d.PartOf module) : d.Aimed := by
  obtain ⟨n, within⟩ := part
  cases within with
  | inside member _ _ => cases member
  | here =>
    refine ⟨⟨_, module_listed⟩, ?_⟩
    rintro pos dir guard offset ⟨listing, swept, member⟩
    cases module_listed.symm.trans swept
    simp only [List.mem_cons, Prod.mk.injEq, reduceCtorEq, and_false, false_or,
      Instruction.jump.injEq, List.not_mem_nil, or_false] at member
    rcases member with ⟨rfl, rfl, rfl, rfl⟩ | ⟨rfl, rfl, rfl, rfl⟩
    · exact ⟨9, rfl, .inl rfl⟩
    · exact ⟨0, rfl, .inr ⟨.loadInt 1, _, module_listed, List.mem_cons_self⟩⟩

theorem follows_listing_loop :
    (Vm.new {}).Consistent ∧ (Vm.new {}).load source.writeModule = .ok (module, vm) ∧
    (∀ d : CodeObject, d.PartOf module → d.Aimed) ∧ vm.FollowsListing .none module :=
  ⟨Vm.new_consistent {}, load_source, module_aimed,
    Vm.follows_listing (Vm.new_consistent {}) load_source module_aimed .none⟩

end LoopUntilTrue

end SlotVM
