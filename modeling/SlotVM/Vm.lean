import SlotVM.Builtin.Class
import SlotVM.Listing
import SlotVM.Machine

namespace SlotVM

/-- The table of an embedding program without native functions of its own: all decline. -/
def Host.none : Host := fun sig _ =>
  match sig with
  | .unary | .print => fun _ => pure default
  | .binary | .call | .init | .method | .attrGet => fun _ _ => pure default
  | .truth => fun _ => pure false
  | .eq => fun _ _ => pure false
  | .hash => fun _ => pure 0
  | .str => fun _ => pure ""
  | .len => fun _ => pure 0
  | .seqSet | .attrSet => fun _ _ _ => pure default

structure Vm where
  hierarchy : Hierarchy
  store : Store
  frames : List Frame
  config : Config

namespace Vm

/-- A machine with the built-in classes. -/
def new (config : Config) : Vm := ⟨.builtin, .empty, [], config⟩

/-- The result of a computation, and the machine after it. -/
def eval {α : Type} (vm : Vm) (c : Run α) : α × Vm :=
  let (a, store) := c.run vm.hierarchy vm.store
  (a, { vm with store })

/-- Adds a class; an error leaves the machine as it was. -/
def register (vm : Vm) (spec : ClassSpec) : Except Fault ClassId × Vm :=
  match vm.hierarchy.register spec with
  | .ok (id, hierarchy) => (.ok id, { vm with hierarchy })
  | .error cause => (.error cause, vm)

def setting (vm : Vm) (host : Host) : Setting := ⟨host, vm.hierarchy, vm.config⟩

/-- Runs code for at most `limit` steps; the outcome and the text printed, if the run has ended. A
run that panics has no outcome. -/
def runWithin (vm : Vm) (host : Host) (limit : Nat) (code : CodeObject) :
    Option (Outcome × String) × Vm :=
  let env := vm.setting host
  match (Machine.start env vm.store code).run env limit with
  | .running m => (none, { vm with store := m.store, frames := m.frames })
  | .ended m outcome =>
    (some (outcome, m.printed), { vm with store := m.store, frames := m.frames })
  | .panicked m => (none, { vm with store := m.store, frames := m.frames })

/-- The code of a module file. -/
def load (vm : Vm) (bytes : List UInt8) : Except Fault (CodeObject × Vm) := do
  let s ← Segment.readModule bytes
  return vm.eval s.load

end Vm

end SlotVM
