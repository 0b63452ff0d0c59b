import SlotVM.Proofs.CompleteListing

namespace SlotVM

namespace Listing

/-- The listing says of the instruction that it leads there. -/
def Points (heap : Heap) (c : CodeObject) (pos : Nat) (i : Instruction) (aim : String) : Prop :=
  instruction heap c pos i = i.text ++ " (-> " ++ aim ++ ")"

variable {heap : Heap} {c : CodeObject} {pos : Nat} {dir : Direction} {guard : Guard}
  {offset : UInt8}

theorem toList_toString (t : Nat) : (toString t).toList = Nat.toDigits 10 t := by
  show t.repr.toList = _
  rw [Nat.repr_eq_ofList_toDigits, String.toList_ofList]

theorem toString_inj {t u : Nat} : toString t = toString u ↔ t = u := by
  refine ⟨fun same => ?_, congrArg _⟩
  have digits : Nat.toDigits 10 t = Nat.toDigits 10 u := by
    rw [← toList_toString, same, toList_toString]
  have read (n : Nat) : Nat.ofDigitChars 10 (Nat.toDigits 10 n) 0 = n :=
    Nat.ofDigitChars_toDigits (by decide) (by decide)
  rw [← read t, digits, read u]

theorem toString_ne_question (t : Nat) : toString t ≠ "?" := by
  intro same
  have digits : '?' ∈ Nat.toDigits 10 t := by
    rw [← toList_toString, same]
    exact List.mem_singleton_self _
  have digit : '?'.isDigit = true := Nat.isDigit_of_mem_toDigits (by decide) (by decide) digits
  cases digit

theorem points_iff {aim : String} : Points heap c pos (.jump dir guard offset) aim ↔
    aim = match target? (pos + 2) dir offset.toNat with
      | some t => toString t
      | none => "?" := by
  have shown : instruction heap c pos (.jump dir guard offset) =
      (Instruction.jump dir guard offset).text ++
        " (" ++ ("-> " ++ match target? (pos + 2) dir offset.toNat with
          | some t => toString t
          | none => "?") ++ ")" := rfl
  have opened : " (" ++ "-> " = " (-> " := rfl
  rw [Points, shown, ← opened]
  simp only [String.append_assoc, String.append_right_inj, String.append_left_inj, eq_comm]

theorem points_toString_iff {t : Nat} :
    Points heap c pos (.jump dir guard offset) (toString t) ↔
      target? (pos + 2) dir offset.toNat = some t := by
  rw [points_iff]
  cases target? (pos + 2) dir offset.toNat with
  | none => exact iff_of_false (toString_ne_question t) nofun
  | some u => rw [toString_inj, Option.some_inj, eq_comm]

theorem points_question_iff : Points heap c pos (.jump dir guard offset) "?" ↔
    target? (pos + 2) dir offset.toNat = none := by
  rw [points_iff]
  cases target? (pos + 2) dir offset.toNat with
  | none => exact iff_of_true rfl rfl
  | some u => exact iff_of_false (toString_ne_question u).symm nofun

/-- A listed instruction has a line among those of its unit. -/
theorem mem_block {listing : List (Nat × Instruction)} (swept : c.instructions = .ok listing)
    {i : Instruction} (member : (pos, i) ∈ listing) :
    "  " ++ alignRight 4 (toString pos) ++ ": " ++ instruction heap c pos i ∈ block heap c := by
  unfold block
  rw [swept]
  simp only [List.mem_append, List.mem_cons, List.mem_map]
  exact .inr (.inr ⟨(pos, i), member, rfl⟩)

end Listing

namespace Frame

/-- The operand on top is a condition, true or false as `truth` says. The frame is left without it, and
the store as the test leaves it. -/
inductive Tests (env : Setting) (f : Frame) (s : Store) (truth : Bool) : Frame → Store → Prop
  | intro {v : Value} {lower : Array Value} {t : Store} : f.stack = lower.push v →
      v.isSentinel = false → Operation.truthy env.host v env.hierarchy s = (truth, t) →
      Tests env f s truth { f with stack := lower } t

/-- The guard decides whether the frame takes its jump. -/
inductive Decides (env : Setting) (f : Frame) (s : Store) : Guard → Bool → Frame → Store → Prop
  | always : Decides env f s .always true f s
  | ifTrue {taken : Bool} {g : Frame} {t : Store} :
      Tests env f s taken g t → Decides env f s .ifTrue taken g t
  | ifFalse {taken : Bool} {g : Frame} {t : Store} :
      Tests env f s (!taken) g t → Decides env f s .ifFalse taken g t

/-- The guard lets the frame take its jump. -/
def Takes (env : Setting) (f : Frame) (s : Store) (guard : Guard) : Prop :=
  ∃ g t, f.Decides env s guard true g t

variable {env : Setting} {f g : Frame} {s t : Store} {dir : Direction} {guard : Guard}
  {offset : UInt8} {next : Nat} {truth taken : Bool} {v : Value} {lower : Array Value}

theorem pop?_of_push (top : f.stack = lower.push v) :
    f.pop? = some (v, { f with stack := lower }) := by
  rw [pop?_eq_some_iff, top]
  exact ⟨Array.back?_push, by rw [Array.pop_push]⟩

theorem exists_tests (env : Setting) (s : Store) (top : f.stack = lower.push v)
    (ordinary : v.isSentinel = false) : ∃ truth g t, f.Tests env s truth g t :=
  ⟨_, _, _, .intro top ordinary rfl⟩

theorem Tests.unique (tests : f.Tests env s truth g t) {truth' : Bool} {g' : Frame} {t' : Store}
    (tests' : f.Tests env s truth' g' t') : truth = truth' := by
  obtain ⟨top, -, tested⟩ := tests
  obtain ⟨top', -, tested'⟩ := tests'
  have popped := Option.some.inj ((pop?_of_push top).symm.trans (pop?_of_push top'))
  obtain rfl := congrArg Prod.fst popped
  exact congrArg Prod.fst (tested.symm.trans tested')

/-- Where the frame stands does not matter to the test. -/
theorem Tests.at (tests : f.Tests env s truth g t) (pos : Nat) :
    { f with pos }.Tests env s truth { g with pos } t := by
  obtain ⟨top, ordinary, tested⟩ := tests
  exact .intro (f := { f with pos }) top ordinary tested

/-- Of two jumps that wait for opposite conditions one is taken. -/
theorem Tests.xor_takes (tests : f.Tests env s truth g t) :
    Xor (f.Takes env s .ifTrue) (f.Takes env s .ifFalse) := by
  have first : f.Takes env s .ifTrue ↔ truth = true := by
    constructor
    · rintro ⟨_, _, decides⟩
      cases decides with
      | ifTrue tests' => exact tests.unique tests'
    · rintro rfl
      exact ⟨g, t, .ifTrue tests⟩
  have second : f.Takes env s .ifFalse ↔ truth = false := by
    constructor
    · rintro ⟨_, _, decides⟩
      cases decides with
      | ifFalse tests' => exact tests.unique tests'
    · rintro rfl
      exact ⟨g, t, .ifFalse tests⟩
  rw [first, second]
  cases truth with
  | true => exact .inl ⟨rfl, nofun⟩
  | false => exact .inr ⟨rfl, nofun⟩

theorem jumpIf_of_tests (tests : f.Tests env s truth g t) (holds : Bool) (dir : Direction)
    (offset : Nat) : f.jumpIf env.host holds dir offset env.hierarchy s =
      (if truth = holds then g.jump dir offset else .next g, t) := by
  obtain ⟨top, ordinary, tested⟩ := tests
  unfold jumpIf
  rw [pop?_of_push top]
  dsimp only
  rw [if_neg (by simp [ordinary]), Run.bind_eq tested]
  by_cases same : truth = holds
  · rw [if_pos same, if_pos (by simp [same])]
    rfl
  · rw [if_neg same, if_neg (by simpa using same)]
    rfl

theorem jumpIf_of_sentinel (top : f.stack = lower.push v) (signal : v.isSentinel = true)
    (host : Host) (holds : Bool) (dir : Direction) (offset : Nat) :
    f.jumpIf host holds dir offset =
      pure ({ f with stack := lower }.fault (.internal "jump condition is a sentinel")) := by
  unfold jumpIf
  rw [pop?_of_push top]
  dsimp only
  rw [if_pos signal]

theorem Decides.code_eq (decides : f.Decides env s guard taken g t) : g.code = f.code := by
  cases decides with
  | always => rfl
  | ifTrue tests | ifFalse tests => cases tests; rfl

theorem Decides.act_eq (decides : f.Decides env s guard taken g t)
    (at_ : f.At (.jump dir guard offset) next) : f.act env.host env.config env.hierarchy s =
      (if taken = true then { g with pos := next }.jump dir offset.toNat
        else .next { g with pos := next }, t) := by
  rw [act_of_at at_]
  cases decides with
  | always => rfl
  | ifTrue tests => exact jumpIf_of_tests (tests.at next) true dir offset.toNat
  | ifFalse tests =>
    refine (jumpIf_of_tests (tests.at next) false dir offset.toNat).trans ?_
    cases taken <;> rfl

/-- The machine goes where the listing says, as far as the code goes. -/
theorem target?_eq_filter (f : Frame) (dir : Direction) (offset : Nat) : f.target? dir offset =
    (Listing.target? f.pos dir offset).filter (· ≤ f.code.bytecode.size) := by
  unfold target? Listing.target?
  cases dir with
  | forward => simp [Option.filter_some]
  | backward =>
    dsimp only
    by_cases enough : offset ≤ f.pos
    · simp [enough, Option.filter_some]
    · simp [enough]

theorem jump_of_aim {aim : Nat} {offset : Nat}
    (aims : Listing.target? f.pos dir offset = some aim) : f.jump dir offset =
      if aim ≤ f.code.bytecode.size then .next { f with pos := aim }
      else f.fault (.jumpOutOfRange f.pos) := by
  rw [jump, target?_eq_filter, aims, Option.filter_some]
  by_cases inside : aim ≤ f.code.bytecode.size
  · rw [if_pos inside, if_pos (decide_eq_true inside)]
  · rw [if_neg inside, if_neg (by simpa using inside)]

theorem jump_of_no_aim {offset : Nat} (aims : Listing.target? f.pos dir offset = none) :
    f.jump dir offset = f.fault (.jumpOutOfRange f.pos) := by
  rw [jump, target?_eq_filter, aims, Option.filter_none]

theorem act_of_sentinel (at_ : f.At (.jump dir guard offset) next) (conditional : guard ≠ .always)
    (top : f.stack = lower.push v) (signal : v.isSentinel = true) :
    f.act env.host env.config env.hierarchy s =
      (fault { f with stack := lower, pos := next } (.internal "jump condition is a sentinel"),
        s) := by
  have waits (holds : Bool) := jumpIf_of_sentinel (f := { f with pos := next }) top signal env.host
    holds dir offset.toNat
  rw [act_of_at at_]
  cases guard with
  | always => exact absurd rfl conditional
  | ifTrue => exact congrArg (· env.hierarchy s) (waits true)
  | ifFalse => exact congrArg (· env.hierarchy s) (waits false)

end Frame

namespace Machine

variable {env : Setting} {f g : Frame} {s t : Store} {dir : Direction} {guard : Guard}
  {offset : UInt8} {next : Nat} {taken : Bool} {rest : List Frame} {output : Array String}

theorem step_of_act {action : Action} (acts : f.act env.host env.config env.hierarchy s = (action, t)) :
    step env ⟨f :: rest, s, output⟩ = apply env ⟨rest, t, output⟩ action := by
  show apply env ⟨rest, (f.act env.host env.config env.hierarchy s).2, output⟩
    (f.act env.host env.config env.hierarchy s).1 = _
  rw [acts]

/-- A jump that is taken leads where the listing shows it, or ends the run if the code does not go
that far. -/
theorem jumps_as_listed (env : Setting) (heap : Heap) (f : Frame) (rest : List Frame) (s : Store)
    (output : Array String) {dir : Direction} {guard : Guard} {offset : UInt8} {next : Nat}
    (at_ : f.At (.jump dir guard offset) next) :
    let shows := Listing.Points heap f.code f.pos (.jump dir guard offset)
    let runs (g : Frame) (t : Store) (pos : Nat) : Progress :=
      .running ⟨{ g with pos } :: rest, t, output⟩
    let fails (g : Frame) (t : Store) (message : String) : Progress :=
      .ended ⟨{ g with pos := f.pos + 2 } :: rest, t, output⟩ (.fatal ⟨.fatal, message⟩)
    let outOfRange := s!"jump target out of range at {f.pos + 2}"
    let step := Machine.step env ⟨f :: rest, s, output⟩
    (shows "?" ∨ ∃ target : Nat, shows (toString target)) ∧
    (∀ listing, f.code.instructions = .ok listing → (f.pos, .jump dir guard offset) ∈ listing →
      "  " ++ Listing.alignRight 4 (toString f.pos) ++ ": " ++
        Listing.instruction heap f.code f.pos (.jump dir guard offset) ∈ Listing.block heap f.code) ∧
    (∀ g t, f.Decides env s guard true g t →
      (∀ target : Nat, shows (toString target) →
        (target ≤ f.code.bytecode.size → step = runs g t target) ∧
        (f.code.bytecode.size < target → step = fails g t outOfRange)) ∧
      (shows "?" → step = fails g t outOfRange)) ∧
    (∀ g t, f.Decides env s guard false g t → step = runs g t (f.pos + 2)) ∧
    (guard = .always → f.Takes env s guard) ∧
    ∀ v lower, f.stack = lower.push v →
      (v.isSentinel = false → Xor (f.Takes env s .ifTrue) (f.Takes env s .ifFalse) ∧
        ∃ taken g t, f.Decides env s guard taken g t) ∧
      (v.isSentinel = true → guard ≠ .always →
        step = fails { f with stack := lower } s "internal error: jump condition is a sentinel") := by
  intro shows runs fails outOfRange step
  obtain ⟨rfl, -⟩ := Instruction.decode_eq_ok at_
  have size : (Instruction.jump dir guard offset).size = 2 := rfl
  rw [size] at at_
  have decided {g : Frame} {t : Store} {taken : Bool} (decides : f.Decides env s guard taken g t) :
      step = apply env ⟨rest, t, output⟩ (if taken = true then
        { g with pos := f.pos + 2 }.jump dir offset.toNat else .next { g with pos := f.pos + 2 }) :=
    step_of_act (decides.act_eq at_)
  refine ⟨?_, fun listing swept member => Listing.mem_block swept member, fun g t decides => ?_,
    fun g t decides => decided decides, ?_, fun v lower top => ⟨fun ordinary => ?_,
      fun signal conditional => ?_⟩⟩
  · cases leads : Listing.target? (f.pos + 2) dir offset.toNat with
    | none => exact .inl (Listing.points_question_iff.mpr leads)
    | some target => exact .inr ⟨target, Listing.points_toString_iff.mpr leads⟩
  · rw [decided decides, if_pos rfl, ← decides.code_eq]
    refine ⟨fun aim shown => ?_, fun shown => ?_⟩
    · rw [Frame.jump_of_aim (f := { g with pos := f.pos + 2 }) (Listing.points_toString_iff.mp shown)]
      refine ⟨fun inside => ?_, fun outside => ?_⟩
      · rw [if_pos inside]
        rfl
      · rw [if_neg (Nat.not_le.mpr outside)]
        rfl
    · rw [Frame.jump_of_no_aim (f := { g with pos := f.pos + 2 })
        (Listing.points_question_iff.mp shown)]
      rfl
  · rintro rfl
    exact ⟨f, s, .always⟩
  · obtain ⟨truth, g, t, tests⟩ := Frame.exists_tests env s top ordinary
    refine ⟨tests.xor_takes, ?_⟩
    cases guard with
    | always => exact ⟨_, _, _, .always⟩
    | ifTrue => exact ⟨_, _, _, .ifTrue tests⟩
    | ifFalse => exact ⟨!truth, _, _, .ifFalse ((Bool.not_not truth).symm ▸ tests)⟩
  · exact step_of_act (Frame.act_of_sentinel at_ conditional top signal)

end Machine

namespace BackwardLoop

/-- A loop until zero is true. -/
def code : CodeObject := ⟨"main", 0, [], [], [], #[0x31, 0, 0, 0, 0, 0x44, 7]⟩

/-- The frame of the code before the jump. -/
def frame : Frame := { Frame.enter 0 code [] with stack := #[.int 0], pos := 5 }

def jump : Instruction := .jump .backward .ifFalse 7

theorem frame_at : frame.At jump 7 :=
  Instruction.decode_eq_ok_iff.mpr ⟨rfl, [0x31, 0, 0, 0, 0], [], rfl, rfl⟩

/-- The jump back is shown as leading to the start, and that is where it leads. -/
theorem jumps_as_listed_loop :
    let vm := Vm.new {}
    frame.At jump 7 ∧ Listing.Points .empty code 5 jump "0" ∧
      ∃ t, Machine.step (vm.setting .none) ⟨[frame], vm.store, #[]⟩ =
        .running ⟨[{ frame with stack := #[], pos := 0 }], t, #[]⟩ := by
  intro vm
  have shown : Listing.Points .empty code 5 jump (toString 0) :=
    Listing.points_toString_iff.mpr rfl
  obtain ⟨falsity, -, -⟩ := Operation.yields_truthy .none Hierarchy.builtin_standard (.int 0)
    .empty .empty (Resolver.empty_sound _)
  have top : frame.stack = (#[] : Array Value).push (.int 0) := rfl
  have tests : frame.Tests (vm.setting .none) vm.store false { frame with stack := #[] } _ :=
    .intro top rfl (Prod.ext falsity rfl)
  obtain ⟨-, -, taken, -⟩ :=
    Machine.jumps_as_listed (vm.setting .none) .empty frame [] vm.store #[] frame_at
  exact ⟨frame_at, shown, _, ((taken _ _ (.ifFalse tests)).1 0 shown).1 (by decide)⟩

end BackwardLoop

namespace SignalCondition

/-- A jump on a constant that is a signal to the instruction after it. -/
def code (guard : Guard) : CodeObject :=
  ⟨"main", 0, [], [], [.unsupported],
    #[0x33, 0, (Opcode.jump .forward guard).byte, 0, 0x31, 3, 0, 0, 0]⟩

/-- The frame of the code before the jump. -/
def frame (guard : Guard) : Frame :=
  { Frame.enter 0 (code guard) [] with stack := #[.unsupported], pos := 2 }

/-- Taken or not, the jump would lead to the next instruction, and the listing says so. But a run that
comes to the jump ends there. -/
def Stops (guard : Guard) : Prop :=
  (frame guard).At (.jump .forward guard 0) 4 ∧
  Listing.Points .empty (code guard) 2 (.jump .forward guard 0) "4" ∧
  ∃ s m, (Vm.new {}).progress .none (code guard) 1 = .running ⟨[frame guard], s, #[]⟩ ∧
    (Vm.new {}).progress .none (code guard) 2 =
      .ended m (.fatal ⟨.fatal, "internal error: jump condition is a sentinel"⟩)

/-- Neither of two opposite jumps is taken on a signal. -/
theorem no_jump_on_signal : Stops .ifTrue ∧ Stops .ifFalse := by
  have shown (guard : Guard) :
      Listing.Points .empty (code guard) 2 (.jump .forward guard 0) (toString 4) :=
    Listing.points_toString_iff.mpr rfl
  constructor
  · exact ⟨Instruction.decode_eq_ok_iff.mpr ⟨rfl, [0x33, 0], [0x31, 3, 0, 0, 0], rfl, rfl⟩,
      shown .ifTrue, _, _, rfl, rfl⟩
  · exact ⟨Instruction.decode_eq_ok_iff.mpr ⟨rfl, [0x33, 0], [0x31, 3, 0, 0, 0], rfl, rfl⟩,
      shown .ifFalse, _, _, rfl, rfl⟩

end SignalCondition

end SlotVM
