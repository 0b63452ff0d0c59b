import SlotVM.Operation
import SlotVM.Proofs.Effect

namespace SlotVM

/-- The data of a new instance and what the heap holds of it. Methods and code are not made from
their classes. -/
def Class.blank? (c : Class) : Option (ObjectData × Cell) :=
  match c.layout with
  | .plain => some (.plain, .fixed)
  | .fields => some (.fields, .fields c.zeroedFields)
  | .exception => some (.exception, .exception none false)
  | .text => some (.text "", .fixed)
  | .method | .code => none

theorem Class.blank?_exception {c : Class} (layout : c.layout = .exception) :
    c.blank? = some (.exception, .exception none false) := by
  rw [blank?, layout]

/-- If the constructor makes an object of the class at all, it is the one that it got, and no object
goes away. -/
def Native.GivesBack (host : Host) (h : Hierarchy) (init : Native .init) : Prop :=
  ∀ (o p : Object) (args : List Value) (s : Store), o.id < s.heap.cells.size →
    (init.fn host (.object o) args h s).1 = .object p → p.cls = o.cls →
      p = o ∧ o.id < (init.fn host (.object o) args h s).2.heap.cells.size

namespace Operation

variable {host : Host} {h : Hierarchy} {cls : ClassId} {c : Class}

theorem instantiate_eq {init : Native .init} {data : ObjectData} {cell : Cell}
    (found : h.get? cls = some c) (hinit : c.init = some init) (blank : c.blank? = some (data, cell))
    (args : List Value) (s : Store) :
    instantiate host cls args h s = init.fn host (.object ⟨s.heap.cells.size, cls, data⟩) args h
      { s with heap := (s.heap.alloc cls data cell).2 } := by
  unfold instantiate
  rw [Run.bind_eq (c := (read : Run Hierarchy)) (x := h) (t := s) rfl, found]
  dsimp only
  rw [hinit]
  unfold Class.blank? at blank
  cases layout : c.layout <;> rw [layout] at blank <;> cases blank <;> rfl

theorem instantiate_eq_throwing (found : h.get? cls = some c) (hinit : c.init = none)
    (args : List Value) (s : Store) :
    instantiate host cls args h s = Exception.throwing (.notInstantiable c.name) h s := by
  unfold instantiate
  rw [Run.bind_eq (c := (read : Run Hierarchy)) (x := h) (t := s) rfl, found]
  dsimp only
  rw [hinit]

end Operation

end SlotVM
