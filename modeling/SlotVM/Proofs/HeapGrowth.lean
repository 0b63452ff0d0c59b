import SlotVM.Heap

namespace SlotVM

namespace Heap

/-- The second heap has all objects of the first one, as they are there, and maybe more. -/
def Grows (heap later : Heap) : Prop := ∃ cells, later.cells = heap.cells ++ cells

theorem grows_refl (heap : Heap) : heap.Grows heap := ⟨#[], Array.append_empty.symm⟩

theorem Grows.trans {first second third : Heap} (h : first.Grows second) (h' : second.Grows third) :
    first.Grows third := by
  obtain ⟨cells, eq⟩ := h
  obtain ⟨more, eq'⟩ := h'
  exact ⟨cells ++ more, by rw [eq', eq, Array.append_assoc]⟩

theorem grows_alloc (heap : Heap) (cls : ClassId) (data : ObjectData) (cell : Cell) :
    heap.Grows (heap.alloc cls data cell).2 := ⟨#[cell], rfl⟩

/-- The heap only grows, and no object has other fields than before. -/
structure Spares (heap later : Heap) : Prop where
  grows : heap.Grows later
  fields?_eq : ∀ o, later.fields? o = heap.fields? o

theorem Spares.trans {first second third : Heap} (h : first.Spares second)
    (h' : second.Spares third) : first.Spares third :=
  ⟨h.grows.trans h'.grows, fun o => (h'.fields?_eq o).trans (h.fields?_eq o)⟩

theorem lt_size_of_fields? {heap : Heap} {o : Object} {fs : Array Field} {i : Nat} {f : Field}
    (stands : heap.fields? o = some fs) (found : fs[i]? = some f) : o.id < heap.cells.size := by
  unfold fields? at stands
  split at stands
  next =>
    split at stands
    next cell => exact (Array.getElem?_eq_some_iff.mp cell).1
    next =>
      cases stands
      cases found
  next => cases stands

theorem fields?_setFields_self {heap : Heap} {o : Object} {fs : Array Field}
    (stands : heap.fields? o = some fs) (inside : o.id < heap.cells.size) (fs' : Array Field) :
    (heap.setFields o fs').fields? o = some fs' := by
  unfold fields? at stands ⊢
  split at stands
  next => rw [setFields, Array.getElem?_setIfInBounds_self_of_lt inside]
  next => cases stands

end Heap

end SlotVM
