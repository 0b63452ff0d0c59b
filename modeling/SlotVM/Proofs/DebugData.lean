import SlotVM.Proofs.VariedRuns

namespace SlotVM

/-- The same code except for the spelling of its names and for its table of attribute names. -/
structure CodeObject.SameButDebugData (c c' : CodeObject) : Prop where
  name : c'.name = c.name
  argcount : c'.argcount = c.argcount
  count : c'.names.length = c.names.length
  bytecode : c'.bytecode = c.bytecode

namespace Variation

/-- Units of code with other debug data. -/
def debugData : Variation := ⟨CodeObject.SameButDebugData, True, False⟩

theorem debugData_lawful : debugData.Lawful where
  name same := same.name
  argcount same := same.argcount
  count same := same.count
  names _ := .inl trivial
  continues {c c'} same := by
    rw [CodeObject.SameButDebugData.bytecode same]
    exact continues_refl c.bytecode
  bytecode same := .inr same.bytecode

end Variation

namespace Vm

variable {vm vm' : Vm} {bytes bytes' : List UInt8} {s s' : Segment} {code code' : CodeObject}

/-- Modules that differ in debug data only run alike, up to the messages of name exceptions. -/
theorem run_of_other_debug_data (consistent : vm.Consistent) (consistent' : vm'.Consistent)
    (hierarchy : vm'.hierarchy = vm.hierarchy) (config : vm'.config = vm.config)
    (read : Segment.readModule bytes = .ok s) (read' : Segment.readModule bytes' = .ok s')
    (alike : s.Variant .debugData s') (loaded : code.LoadedFrom bytes)
    (loaded' : code'.LoadedFrom bytes') (host : Host) (limit : Nat) :
    Reports .debugData (vm.runWithin host limit code).1 (vm'.runWithin host limit code').1 := by
  have progress := progress_variant Variation.debugData_lawful consistent consistent' hierarchy
    config (loaded.madeOf read) (loaded'.madeOf read') alike host limit
  rcases reports_of_progress progress with same | ⟨forgives, -⟩
  · exact same
  · exact forgives.elim

end Vm

namespace OtherNames

/-- A module that reads its only variable, which has no value. -/
def source (name : String) (attrs : List String) : Segment :=
  ⟨"<module>", 0, [name], attrs, [], #[0x3d, 0, 0, 0, 0]⟩

def code (name : String) (attrs : List String) : CodeObject :=
  ⟨"<module>", 0, [name], attrs, [], #[0x3d, 0, 0, 0, 0]⟩

theorem short_encodable : (source "x" []).Encodable Segment.maxNesting :=
  .of_below (by constructor <;> decide) (by simp [source])

theorem long_encodable : (source "value" ["a"]).Encodable Segment.maxNesting :=
  .of_below (by constructor <;> decide) (by simp [source])

theorem run_of_other_debug_data_unset :
    (Vm.new {}).Consistent ∧
    Segment.readModule (source "x" []).writeModule = .ok (source "x" []) ∧
    Segment.readModule (source "value" ["a"]).writeModule = .ok (source "value" ["a"]) ∧
    (source "x" []).Variant .debugData (source "value" ["a"]) ∧
    (code "x" []).LoadedFrom (source "x" []).writeModule ∧
    (code "value" ["a"]).LoadedFrom (source "value" ["a"]).writeModule ∧
    Vm.Reports .debugData
      (some (.uncaught "NameException" "cannot reference unbound variable 'x'", ""))
      (some (.uncaught "NameException" "cannot reference unbound variable 'value'", "")) := by
  have consistent : (Vm.new {}).Consistent := Vm.new_consistent {}
  have read := Segment.readModule_writeModule short_encodable
  have read' := Segment.readModule_writeModule long_encodable
  have alike : (source "x" []).Variant .debugData (source "value" ["a"]) :=
    ⟨⟨rfl, rfl, rfl, rfl⟩, .nil⟩
  have loaded : (code "x" []).LoadedFrom (source "x" []).writeModule :=
    ⟨Vm.new {}, _, Vm.load_written (Vm.new {}) short_encodable⟩
  have loaded' : (code "value" ["a"]).LoadedFrom (source "value" ["a"]).writeModule :=
    ⟨Vm.new {}, _, Vm.load_written (Vm.new {}) long_encodable⟩
  exact ⟨consistent, read, read', alike, loaded, loaded',
    Vm.run_of_other_debug_data consistent consistent rfl rfl read read' alike loaded loaded'
      .none 1⟩

end OtherNames

end SlotVM
