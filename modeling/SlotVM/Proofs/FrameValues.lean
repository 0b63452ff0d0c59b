import SlotVM.Machine

namespace SlotVM

namespace Frame

/-- The constants, the operands and the assigned local variables have the property. -/
structure All (P : Value → Prop) (f : Frame) : Prop where
  consts : ∀ v ∈ f.code.consts, P v
  stack : ∀ v ∈ f.stack, P v
  locals : ∀ v, some v ∈ f.locals → P v

variable {P : Value → Prop} {f g : Frame} {v : Value}

theorem pop?_eq_some_iff :
    f.pop? = some (v, g) ↔ f.stack.back? = some v ∧ g = { f with stack := f.stack.pop } := by
  unfold pop?
  cases f.stack.back? with
  | none => simp
  | some w => simp [eq_comm]

theorem All.pop (all : f.All P) (popped : f.pop? = some (v, g)) : P v ∧ g.All P := by
  obtain ⟨top, rfl⟩ := pop?_eq_some_iff.mp popped
  refine ⟨all.stack v (Array.mem_of_back? top), all.consts, ?_, all.locals⟩
  intro w hw
  obtain ⟨i, hi, rfl⟩ := Array.mem_iff_getElem.mp hw
  rw [Array.getElem_pop]
  exact all.stack _ (Array.getElem_mem _)

theorem All.at (all : f.All P) (pos : Nat) : { f with pos }.All P :=
  ⟨all.consts, all.stack, all.locals⟩

theorem All.take (all : f.All P) (n : Nat) : { f with stack := f.stack.take n }.All P := by
  refine ⟨all.consts, ?_, all.locals⟩
  intro w hw
  obtain ⟨i, -, -, rfl⟩ := Array.mem_extract_iff_getElem.mp hw
  exact all.stack _ (Array.getElem_mem _)

/-- The arguments of a call are operands. -/
theorem All.extract (all : f.All P) (i j : Nat) : ∀ v ∈ (f.stack.extract i j).toList, P v := by
  intro w hw
  obtain ⟨k, -, -, rfl⟩ := Array.mem_extract_iff_getElem.mp (Array.mem_toList_iff.mp hw)
  exact all.stack _ (Array.getElem_mem _)

theorem All.setLocal (all : f.All P) (hv : P v) (slot : Nat) :
    { f with locals := f.locals.setIfInBounds slot (some v) }.All P := by
  refine ⟨all.consts, all.stack, ?_⟩
  intro w hw
  rcases Array.mem_or_eq_of_mem_setIfInBounds hw with old | new
  · exact all.locals w old
  · cases new
    exact hv

theorem All.push? {config : Config} (all : f.All P) (hv : P v)
    (pushed : f.push? config v = some g) : g.All P := by
  unfold Frame.push? at pushed
  split at pushed
  next =>
    cases pushed
    refine ⟨all.consts, ?_, all.locals⟩
    intro w hw
    rcases Array.mem_push.mp hw with old | rfl
    · exact all.stack w old
    · exact hv
  next => cases pushed

theorem All.enter {code : CodeObject} {args : List Value} (depth : Nat)
    (hc : ∀ v ∈ code.consts, P v) (ha : ∀ v ∈ args, P v) : (Frame.enter depth code args).All P := by
  refine ⟨hc, ?_, ?_⟩
  · intro w hw
    simp [Frame.enter] at hw
  · intro w hw
    simp only [Frame.enter, Array.mem_append, List.mem_toArray, List.mem_map,
      Array.mem_replicate] at hw
    rcases hw with ⟨a, member, eq⟩ | ⟨-, eq⟩
    · cases eq
      exact ha w member
    · cases eq

end Frame

/-- All values that the action hands on have the property. -/
def Action.All (P : Value → Prop) : Action → Prop
  | next f | print f _ | fail f _ => f.All P
  | call f code args => f.All P ∧ (∀ v ∈ code.consts, P v) ∧ ∀ v ∈ args, P v
  | leave result => ∀ v, result = some v → P v
  | raise _ => True

theorem Frame.push_all {P : Value → Prop} (config : Config) {f : Frame} {v : Value}
    (all : f.All P) (hv : P v) : (f.push config v).All P := by
  unfold Frame.push
  split
  next g pushed => exact all.push? hv pushed
  next => exact all

theorem Frame.jump_all {P : Value → Prop} {f : Frame} (all : f.All P) (dir : Direction)
    (offset : Nat) : (f.jump dir offset).All P := by
  unfold Frame.jump
  split
  next pos _ => exact all.at pos
  next => exact all

end SlotVM
