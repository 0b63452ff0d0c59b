import SlotVM.Module.Builder
import SlotVM.Module.Link
import SlotVM.Proofs.InstructionCodec

namespace SlotVM

/-- What a builder of code is asked to do. -/
inductive BuilderCall where
  | emit (i : Instruction)
  | emitForward (make : UInt8 → Instruction)
  | patchForward (position : Nat)
  | emitBackward (make : UInt8 → Instruction) (target : Nat)

/-- What a call has written. -/
inductive Written where
  | plain (i : Instruction)
  /-- A jump forward, with the end of the code when it was last aimed, if it was. -/
  | forward (make : UInt8 → Instruction) (aim : Option Nat)
  | backward (make : UInt8 → Instruction) (target : Nat)

/-- The instructions of the family have one operand byte, which is the one that is given. -/
def OneByte (make : UInt8 → Instruction) : Prop :=
  ∀ b, (make b).opcode.width = 1 ∧ (make b).operand = b.toNat

namespace Written

/-- The instruction that stands for it in the code, if it was written at a position. -/
def instruction (position : Nat) : Written → Instruction
  | plain i => i
  | forward make none => make 0
  | forward make (some aim) => .ofOperand (aim - (position + 2)) (make 0).opcode
  | backward make target => make (UInt8.ofNat (position + 2 - target))

/-- The operand spans just the bytes between the end of the jump and where it leads. -/
def Hits (position : Nat) (w : Written) : Prop :=
  match w with
  | plain _ => True
  | forward _ none => (w.instruction position).operand = 0
  | forward _ (some aim) => position + 2 + (w.instruction position).operand = aim
  | backward _ target => target + (w.instruction position).operand = position + 2

/-- The jump has one operand byte, and its distance fits into it. -/
def Fits (position : Nat) : Written → Prop
  | plain _ => True
  | forward make none => OneByte make
  | forward make (some aim) => OneByte make ∧ position + 2 ≤ aim ∧ aim - (position + 2) < 256
  | backward make target => OneByte make ∧ target ≤ position + 2 ∧ position + 2 - target < 256

theorem Fits.hits {position : Nat} {w : Written} (fits : w.Fits position) : w.Hits position := by
  cases w with
  | plain i => trivial
  | forward make aim =>
    cases aim with
    | none => exact (fits 0).2
    | some aim =>
      obtain ⟨one, reached, near⟩ := fits
      have operand := Instruction.operand_ofOperand_byte (one 0).1 near
      change position + 2 + (Instruction.ofOperand _ _).operand = aim
      omega
  | backward make target =>
    obtain ⟨one, reached, near⟩ := fits
    have operand := (one (UInt8.ofNat (position + 2 - target))).2
    rw [UInt8.toNat_ofNat_of_lt' near] at operand
    change target + (make _).operand = position + 2
    omega

theorem Fits.encode_forward {position : Nat} {make : UInt8 → Instruction} {aim : Option Nat}
    (fits : (forward make aim).Fits position) :
    OneByte make ∧ ∃ b, ((forward make aim).instruction position).encode =
      [(make 0).opcode.byte, b] := by
  cases aim with
  | none =>
    refine ⟨fits, 0, ?_⟩
    obtain ⟨width, operand⟩ := fits 0
    change (make 0).encode = _
    rw [Instruction.encode, width, operand]
    rfl
  | some aim =>
    obtain ⟨one, -, near⟩ := fits
    exact ⟨one, _, Instruction.encode_ofOperand_byte (one 0).1 near⟩

end Written

def listingOf (written : List (Nat × Written)) : List (Nat × Instruction) :=
  written.map fun w => (w.1, w.2.instruction w.1)

theorem listingOf_append (first second : List (Nat × Written)) :
    listingOf (first ++ second) = listingOf first ++ listingOf second := List.map_append

theorem listingOf_cons (w : Nat × Written) (rest : List (Nat × Written)) :
    listingOf (w :: rest) = (w.1, w.2.instruction w.1) :: listingOf rest := rfl

def aimAt (position aim : Nat) (written : List (Nat × Written)) : List (Nat × Written) :=
  written.map fun w =>
    match w with
    | (p, .forward make before) => (p, .forward make (if p = position then some aim else before))
    | w => w

/-- Code that is being built, and what the calls so far have written, each with the position that
its call gave. -/
structure Draft where
  segment : Segment
  written : List (Nat × Written)

namespace Draft

/-- The code after a call; a call that fails leaves it as it was. -/
def call (d : Draft) : BuilderCall → Draft
  | .emit i =>
    let (position, segment) := d.segment.emit i
    ⟨segment, d.written ++ [(position, .plain i)]⟩
  | .emitForward make =>
    let (position, segment) := d.segment.emitForward make
    ⟨segment, d.written ++ [(position, .forward make none)]⟩
  | .patchForward position =>
    match d.segment.patchForward position with
    | .ok segment => ⟨segment, aimAt position d.segment.here d.written⟩
    | .error _ => d
  | .emitBackward make target =>
    match d.segment.emitBackward make target with
    | .ok (position, segment) => ⟨segment, d.written ++ [(position, .backward make target)]⟩
    | .error _ => d

/-- The calls that a builder is meant for: only what has one operand byte can be a jump, and only a
jump forward that was written before can be aimed. -/
inductive Admits (d : Draft) : BuilderCall → Prop
  | emit (i : Instruction) : Admits d (.emit i)
  | emitForward {make : UInt8 → Instruction} : OneByte make → Admits d (.emitForward make)
  | patchForward (position : Nat) {make : UInt8 → Instruction} {aim : Option Nat} :
      (position, .forward make aim) ∈ d.written → Admits d (.patchForward position)
  | emitBackward {make : UInt8 → Instruction} (target : Nat) :
      OneByte make → Admits d (.emitBackward make target)

/-- The code is built by such calls from a segment without code. -/
inductive Built : Draft → Prop
  | new {s : Segment} : s.code = #[] → Built ⟨s, []⟩
  | call {d : Draft} {c : BuilderCall} : Built d → d.Admits c → Built (d.call c)

/-- The code is that of what was written, and every jump can hold its distance. -/
structure Sound (d : Draft) : Prop where
  code : d.segment.code.toList = Instruction.bytesOf (listingOf d.written)
  laid : Instruction.Laid 0 (listingOf d.written) d.segment.here
  fits : ∀ w ∈ d.written, w.2.Fits w.1

theorem Sound.append {d : Draft} (sound : d.Sound) {w : Written}
    (fits : w.Fits d.segment.here) :
    Sound ⟨(d.segment.emit (w.instruction d.segment.here)).2,
      d.written ++ [(d.segment.here, w)]⟩ := by
  have code : (d.segment.emit (w.instruction d.segment.here)).2.code.toList =
      d.segment.code.toList ++ (w.instruction d.segment.here).encode :=
    Array.toList_appendList
  have stop : (d.segment.emit (w.instruction d.segment.here)).2.here =
      d.segment.here + (w.instruction d.segment.here).size := by
    rw [← Instruction.length_encode, Segment.here, ← Array.length_toList, code,
      List.length_append, Array.length_toList]
    rfl
  refine ⟨?_, ?_, fun v hv => ?_⟩
  · rw [listingOf_append, Instruction.bytesOf_append, code, sound.code]
    exact congrArg _ (List.append_nil _).symm
  · rw [listingOf_append, stop]
    exact Instruction.laid_append.mpr ⟨_, sound.laid, rfl, rfl⟩
  · rcases List.mem_append.mp hv with old | new
    · exact sound.fits v old
    · cases List.mem_singleton.mp new
      exact fits

theorem offset?_eq_some {before after : Nat} {offset : UInt8}
    (h : Segment.offset? before after = some offset) :
    before ≤ after ∧ after - before < 256 ∧ offset = UInt8.ofNat (after - before) := by
  unfold Segment.offset? at h
  split at h
  next near => cases h; exact ⟨near.1, near.2, rfl⟩
  next => cases h

/-- Where a jump forward stands, the listing splits into what is before it and what is after it, and
only the jump itself has its position. -/
theorem Sound.split {d : Draft} (sound : d.Sound) {position : Nat} {w : Written}
    (member : (position, w) ∈ d.written) : ∃ before after : List (Nat × Written),
      d.written = before ++ (position, w) :: after ∧
      Instruction.Laid 0 (listingOf before) position ∧
      Instruction.Laid (position + (w.instruction position).size) (listingOf after)
        d.segment.here ∧
      (∀ v ∈ before, v.1 ≠ position) ∧ ∀ v ∈ after, v.1 ≠ position := by
  obtain ⟨before, after, eq⟩ := List.append_of_mem member
  have laid := sound.laid
  rw [eq, listingOf_append, listingOf_cons] at laid
  obtain ⟨middle, first, same, second⟩ := Instruction.laid_append.mp laid
  subst same
  refine ⟨before, after, eq, first, second, fun v hv => ?_, fun v hv => ?_⟩
  · have bound := first.bounds (List.mem_map_of_mem hv)
    have size : 0 < (v.2.instruction v.1).size := Instruction.size_pos _
    dsimp only at bound
    omega
  · have bound := second.bounds (List.mem_map_of_mem hv)
    have size : 0 < (w.instruction position).size := Instruction.size_pos _
    dsimp only at bound
    omega

theorem aimAt_of_ne {position : Nat} (aim : Nat) {written : List (Nat × Written)}
    (apart : ∀ w ∈ written, w.1 ≠ position) : aimAt position aim written = written := by
  induction written with
  | nil => rfl
  | cons w rest ih =>
    obtain ⟨first, others⟩ := List.forall_mem_cons.mp apart
    have same := ih others
    unfold aimAt at same ⊢
    rw [List.map_cons, same]
    congr 1
    split
    next p make before => rw [if_neg first]
    next => rfl

theorem offset?_eq_none {before after : Nat} :
    Segment.offset? before after = none ↔ after < before ∨ before + 255 < after := by
  unfold Segment.offset?
  split
  next near => simp only [reduceCtorEq, false_iff]; omega
  next far => simp only [true_iff]; omega

theorem set_second (front : List UInt8) (a b c : UInt8) (rest : List UInt8) :
    (front ++ a :: b :: rest).set (front.length + 1) c = front ++ a :: c :: rest := by
  rw [List.set_append_right _ _ (Nat.le_add_right _ _), Nat.add_sub_cancel_left]
  rfl

/-- Aiming a jump changes the byte of its operand alone. -/
theorem Sound.patch {d : Draft} (sound : d.Sound) {position : Nat} {make : UInt8 → Instruction}
    {aim : Option Nat} (member : (position, .forward make aim) ∈ d.written) {segment : Segment}
    (patched : d.segment.patchForward position = .ok segment) :
    Sound ⟨segment, aimAt position d.segment.here d.written⟩ := by
  obtain ⟨before, after, eq, first, second, apart, apart'⟩ := sound.split member
  obtain ⟨one, b, encoded⟩ := (sound.fits _ member).encode_forward
  unfold Segment.patchForward at patched
  split at patched
  next offset found =>
    obtain ⟨reached, near, rfl⟩ := offset?_eq_some found
    cases patched
    have fits : (Written.forward make (some d.segment.here)).Fits position := ⟨one, reached, near⟩
    have encoded' : ((Written.forward make (some d.segment.here)).instruction position).encode =
        [(make 0).opcode.byte, UInt8.ofNat (d.segment.here - (position + 2))] :=
      Instruction.encode_ofOperand_byte (one 0).1 near
    have written : aimAt position d.segment.here d.written =
        before ++ (position, .forward make (some d.segment.here)) :: after := by
      have front := aimAt_of_ne d.segment.here apart
      have back := aimAt_of_ne d.segment.here apart'
      unfold aimAt at front back ⊢
      rw [eq, List.map_append, List.map_cons, front, back]
      simp
    rw [written]
    refine ⟨?_, ?_, fun v hv => ?_⟩
    · have length : (Instruction.bytesOf (listingOf before)).length = position := by
        have stop := first.length_bytesOf
        omega
      have code : d.segment.code.toList = Instruction.bytesOf (listingOf before) ++
          (make 0).opcode.byte :: b :: Instruction.bytesOf (listingOf after) := by
        rw [sound.code, eq, listingOf_append, listingOf_cons, Instruction.bytesOf_append,
          Instruction.bytesOf_cons, encoded]
        rfl
      have set := set_second (Instruction.bytesOf (listingOf before)) (make 0).opcode.byte b
        (UInt8.ofNat (d.segment.here - (position + 2))) (Instruction.bytesOf (listingOf after))
      rw [length] at set
      rw [Array.toList_setIfInBounds, code, set, listingOf_append, listingOf_cons,
        Instruction.bytesOf_append, Instruction.bytesOf_cons, encoded']
      rfl
    · have here : Segment.here { d.segment with
          code := d.segment.code.setIfInBounds (position + 1)
            (UInt8.ofNat (d.segment.here - (position + 2))) } = d.segment.here :=
        Array.size_setIfInBounds
      have size : ((Written.forward make aim).instruction position).size =
          ((Written.forward make (some d.segment.here)).instruction position).size := by
        rw [← Instruction.length_encode, ← Instruction.length_encode, encoded, encoded']
        rfl
      rw [size] at second
      rw [listingOf_append, listingOf_cons, here]
      exact Instruction.laid_append.mpr ⟨position, first, rfl, second⟩
    · rcases List.mem_append.mp hv with old | new
      · exact sound.fits v (eq ▸ List.mem_append_left _ old)
      · rcases List.mem_cons.mp new with rfl | old
        · exact fits
        · exact sound.fits v (eq ▸ List.mem_append_right _ (List.mem_cons_of_mem _ old))
  next => cases patched

theorem Sound.call {d : Draft} (sound : d.Sound) {c : BuilderCall} (admits : d.Admits c) :
    (d.call c).Sound := by
  cases admits with
  | emit i => exact sound.append (w := .plain i) trivial
  | emitForward one => exact sound.append (w := .forward _ none) one
  | patchForward position member =>
    unfold Draft.call
    dsimp only
    split
    next segment patched => exact sound.patch member patched
    next => exact sound
  | @emitBackward make target one =>
    unfold Draft.call Segment.emitBackward
    dsimp only
    cases found : Segment.offset? target (d.segment.here + 2) with
    | none => exact sound
    | some offset =>
      obtain ⟨reached, near, rfl⟩ := offset?_eq_some found
      exact sound.append (w := .backward make target) ⟨one, reached, near⟩

theorem Built.sound {d : Draft} (built : d.Built) : d.Sound := by
  induction built with
  | @new s empty =>
    have nothing : s.code.toList = [] := by rw [empty]
    have here : s.here = 0 := by rw [Segment.here, empty]; rfl
    exact ⟨nothing, here.symm, fun w hw => nomatch hw⟩
  | call _ admits ih => exact ih.call admits

/-- The call gives an error. -/
def Fails (d : Draft) : BuilderCall → Prop
  | .emit _ | .emitForward _ => False
  | .patchForward position => ∃ cause, d.segment.patchForward position = .error cause
  | .emitBackward make target => ∃ cause, d.segment.emitBackward make target = .error cause

theorem patchForward_fails (d : Draft) (position : Nat) :
    d.Fails (.patchForward position) ↔
      Segment.offset? (position + 2) d.segment.here = none := by
  simp only [Fails, Segment.patchForward]
  cases Segment.offset? (position + 2) d.segment.here <;> simp

theorem emitBackward_fails (d : Draft) (make : UInt8 → Instruction) (target : Nat) :
    d.Fails (.emitBackward make target) ↔
      Segment.offset? target (d.segment.here + 2) = none := by
  simp only [Fails, Segment.emitBackward]
  cases Segment.offset? target (d.segment.here + 2) <;> simp

theorem call_of_fails {d : Draft} {c : BuilderCall} (fails : d.Fails c) : d.call c = d := by
  cases c with
  | emit | emitForward => cases fails
  | patchForward position | emitBackward make target =>
    obtain ⟨cause, failed⟩ := fails
    simp only [Draft.call, failed]

/-- Whatever is written and aimed in whatever order, the code reads as the instructions that were
written, with every jump leading where it was last aimed. -/
theorem instructions_of_built {d : Draft} (built : d.Built) (c : CodeObject) :
    CodeObject.instructions { c with bytecode := d.segment.code } =
      .ok (listingOf d.written) ∧
    (∀ position w, (position, w) ∈ d.written → w.Hits position) ∧
    (∀ position make aim, (position, .forward make aim) ∈ d.written →
      (d.Fails (.patchForward position) ↔ position + 2 + 255 < d.segment.here)) ∧
    (∀ make target, d.Fails (.emitBackward make target) ↔
      d.segment.here + 2 < target ∨ target + 255 < d.segment.here + 2) ∧
    ∀ c, d.Fails c → (d.call c).segment.code = d.segment.code := by
  have sound := built.sound
  refine ⟨?_, fun position w member => (sound.fits _ member).hits, ?_, fun make target => ?_,
    fun c fails => by rw [call_of_fails fails]⟩
  · rw [CodeObject.instructions, sound.code]
    exact Instruction.sweep_bytesOf sound.laid
  · intro position make aim member
    obtain ⟨one, b, encoded⟩ := (sound.fits _ member).encode_forward
    have bounds := sound.laid.bounds (List.mem_map_of_mem member)
    have size : ((Written.forward make aim).instruction position).size = 2 := by
      rw [← Instruction.length_encode, encoded]
      rfl
    rw [patchForward_fails, offset?_eq_none]
    dsimp only at bounds
    omega
  · rw [emitBackward_fails, offset?_eq_none]

/-- A loop with a way out: a jump over two instructions, aimed after them, and a jump back to the
start; a jump back to where the code has not come yet is refused. -/
def loop : Draft :=
  ((((((⟨Segment.newModule, []⟩ : Draft).call (.emitForward (.jump .forward .ifFalse))).call
    (.emit .nop)).call (.emit .print)).call (.patchForward 0)).call
    (.emitBackward (.jump .backward .always) 99)).call
    (.emitBackward (.jump .backward .always) 0)

theorem oneByte_jump (dir : Direction) (guard : Guard) : OneByte (.jump dir guard) :=
  fun _ => ⟨rfl, rfl⟩

theorem loop_built : loop.Built := by
  have empty : Built ⟨Segment.newModule, []⟩ := .new rfl
  have start := empty.call (.emitForward (oneByte_jump .forward .ifFalse))
  have body := (start.call (.emit .nop)).call (.emit .print)
  have aimed := body.call (.patchForward 0 List.mem_cons_self)
  have refused := aimed.call (.emitBackward 99 (oneByte_jump .backward .always))
  exact refused.call (.emitBackward 0 (oneByte_jump .backward .always))

theorem instructions_of_loop : loop.Built ∧
    CodeObject.instructions ⟨"loop", 0, [], [], [], loop.segment.code⟩ =
      .ok [(0, .jump .forward .ifFalse 2), (2, .nop), (3, .print), (4, .jump .backward .always 6)] ∧
    (∀ position w, (position, w) ∈ loop.written → w.Hits position) ∧
    ∀ c, loop.Fails c → (loop.call c).segment.code = loop.segment.code := by
  have about := instructions_of_built loop_built ⟨"loop", 0, [], [], [], #[]⟩
  exact ⟨loop_built, about.1, about.2.1, about.2.2.2.2⟩

end Draft

end SlotVM
