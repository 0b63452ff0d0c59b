import SlotVM.Proofs.InstructionCodec
import SlotVM.Proofs.VariedRuns

namespace SlotVM

namespace Instruction

def retBytes : Array UInt8 := ret.encode.toArray

theorem decode_append {code : Array UInt8} {pos : Nat} {r : Instruction × Nat}
    (decoded : decode code pos = .ok r) (more : Array UInt8) :
    decode (code ++ more) pos = .ok r := by
  obtain ⟨i, next⟩ := r
  obtain ⟨after, front, rest, parts, start⟩ := decode_eq_ok_iff.mp decoded
  refine decode_eq_ok_iff.mpr ⟨after, front, rest ++ more.toList, ?_, start⟩
  rw [Array.toList_append, parts, List.append_assoc, List.append_assoc]

theorem decode_append_ret (code : Array UInt8) :
    decode (code ++ retBytes) code.size = .ok (.ret, code.size + ret.size) := by
  refine decode_eq_ok_iff.mpr ⟨rfl, code.toList, [], ?_, Array.length_toList⟩
  rw [Array.toList_append, List.append_nil, retBytes]

end Instruction

theorem continues_append_ret (code : Array UInt8) :
    Continues code (code ++ Instruction.retBytes) where
  size_le := by
    rw [Array.size_append]
    exact Nat.le_add_right _ _
  decode _ decoded := Instruction.decode_append decoded Instruction.retBytes
  ends {pos} past := by
    rcases Nat.eq_or_lt_of_le past with rfl | beyond
    · exact .inr ⟨_, Instruction.decode_append_ret code⟩
    · rw [Array.size_append]
      exact .inl beyond

/-- The same code, or the code with a return appended. -/
structure CodeObject.SameUpToReturn (c c' : CodeObject) : Prop where
  name : c'.name = c.name
  argcount : c'.argcount = c.argcount
  names : c'.names = c.names
  attrs : c'.attrs = c.attrs
  bytecode : c'.bytecode = c.bytecode ∨ c'.bytecode = c.bytecode ++ Instruction.retBytes

namespace Variation

/-- Units of code some of which have a return appended; nothing is said about what a run that fails
becomes. -/
def explicitReturn : Variation := ⟨CodeObject.SameUpToReturn, False, True⟩

theorem explicitReturn_lawful : explicitReturn.Lawful where
  name same := same.name
  argcount same := same.argcount
  count same := congrArg List.length same.names
  names same := .inr same.names
  continues {c c'} same := by
    rcases CodeObject.SameUpToReturn.bytecode same with eq | eq
    · rw [eq]
      exact continues_refl c.bytecode
    · rw [eq]
      exact continues_append_ret c.bytecode
  bytecode _ := .inl trivial

end Variation

namespace Vm

variable {vm vm' : Vm} {bytes : List UInt8} {s s' : Segment} {code code' : CodeObject}

/-- Returns appended to units of code change no run that ends without a fatal error. -/
theorem run_of_explicit_return (consistent : vm.Consistent) (consistent' : vm'.Consistent)
    (hierarchy : vm'.hierarchy = vm.hierarchy) (config : vm'.config = vm.config)
    (read : Segment.readModule bytes = .ok s) (appended : s.Variant .explicitReturn s')
    (loaded : code.LoadedFrom bytes) (made : code'.MadeOf s') {host : Host} {limit : Nat}
    {outcome : Outcome} {printed : String}
    (ended : (vm.runWithin host limit code).1 = some (outcome, printed))
    (ordinary : ∀ e, outcome ≠ .fatal e) :
    ∃ outcome', (vm'.runWithin host limit code').1 = some (outcome', printed) ∧
      outcome.Variant .explicitReturn outcome' := by
  have progress := progress_variant Variation.explicitReturn_lawful consistent consistent'
    hierarchy config (loaded.madeOf read) made appended host limit
  rcases reports_of_progress progress with same | ⟨-, e, text, failed⟩
  · rw [ended] at same
    generalize (vm'.runWithin host limit code').1 = report at same ⊢
    cases same with
    | @some _ report' alike =>
      obtain ⟨alike, text⟩ := alike
      exact ⟨report'.1, congrArg (fun text => some (report'.1, text)) text, alike⟩
  · cases ended.symm.trans failed
    exact absurd rfl (ordinary e)

end Vm

namespace AppendedReturn

/-- A module that returns the text at the end of its code. -/
def source : Segment := ⟨"<module>", 0, [], [], [.str "x"], #[0x33, 0]⟩

/-- The module with a return at its end. -/
def returning : Segment := { source with code := source.code ++ Instruction.retBytes }

/-- What is loaded from such a module. -/
def code (s : Segment) : CodeObject :=
  ⟨"<module>", 0, [], [], [.object ⟨0, .text, .text "x"⟩], s.code⟩

theorem source_encodable : source.Encodable Segment.maxNesting :=
  .of_below (by constructor <;> decide) (by simp [source])

theorem run_of_explicit_return_text :
    (Vm.new {}).Consistent ∧
    Segment.readModule source.writeModule = .ok source ∧
    source.Variant .explicitReturn returning ∧
    (code source).LoadedFrom source.writeModule ∧ (code returning).MadeOf returning ∧
    ((Vm.new {}).runWithin .none 2 (code source)).1 =
      some (.finished (some (.object ⟨0, .text, .text "x"⟩)), "") ∧
    ∃ outcome, ((Vm.new {}).runWithin .none 2 (code returning)).1 = some (outcome, "") ∧
      Outcome.Variant .explicitReturn (.finished (some (.object ⟨0, .text, .text "x"⟩)))
        outcome := by
  have consistent : (Vm.new {}).Consistent := Vm.new_consistent {}
  have read := Segment.readModule_writeModule source_encodable
  have appended : source.Variant .explicitReturn returning :=
    ⟨⟨rfl, rfl, rfl, rfl, .inr rfl⟩, .cons (.str "x") .nil⟩
  have loaded : (code source).LoadedFrom source.writeModule :=
    ⟨Vm.new {}, _, Vm.load_written (Vm.new {}) source_encodable⟩
  have made : (code returning).MadeOf returning := ⟨.builtin, .empty, rfl⟩
  have ended : ((Vm.new {}).runWithin .none 2 (code source)).1 =
      some (.finished (some (.object ⟨0, .text, .text "x"⟩)), "") := rfl
  exact ⟨consistent, read, appended, loaded, made, ended,
    Vm.run_of_explicit_return consistent consistent rfl rfl read appended loaded made ended nofun⟩

end AppendedReturn

end SlotVM
