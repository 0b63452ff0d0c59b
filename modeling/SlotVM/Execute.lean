import SlotVM.Vm

namespace SlotVM

/-- The bytes of a module, or why they could not be had. -/
abbrev Source := Except String (List UInt8)

namespace Source

def bytes (source : Source) : Except Fault (List UInt8) := source.mapError .unreadable

/-- The code of a module, on a new machine. -/
def load (source : Source) (config : Config) : Except Fault (CodeObject × Vm) := do
  (Vm.new config).load (← source.bytes)

/-- Runs a module for at most `limit` steps: how the run ended and what it printed. A module that
cannot be loaded ends in its error. -/
def executeWithin (limit : Nat) (config : Config) (source : Source) : Option (Outcome × String) :=
  match source.load config with
  | .error cause => some (.fatal cause.error, "")
  | .ok (code, vm) => (vm.runWithin .none limit code).1

/-- The listing of a module. -/
def disassemble (source : Source) : Except Fault String := do
  let (code, vm) ← source.load {}
  code.listing vm.store.heap

end Source

end SlotVM
