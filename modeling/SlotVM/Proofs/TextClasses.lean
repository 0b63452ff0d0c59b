import SlotVM.Proofs.HashEquality
import SlotVM.Proofs.OperatorEffect

namespace SlotVM

namespace Hierarchy

/-- The class of texts, or one below it with no functions of their own for the classes between the
two. -/
inductive PlainText (h : Hierarchy) : ClassId → Prop
  | text : PlainText h .text
  | sub {id base : ClassId} {c : Class} : h.get? id = some c → c.base = some base →
      (∀ slot, c.slots slot = none) → PlainText h base → PlainText h id

/-- The value is an object of such a class with this text. -/
inductive IsText (h : Hierarchy) : Value → String → Prop
  | intro {o : Object} : h.PlainText o.cls → IsText h (.object o) (Value.object o).textOf

variable {h : Hierarchy}

theorem PlainText.inherits {id : ClassId} (plain : h.PlainText id) : h.InheritsText id := by
  induction plain with
  | text => exact .text
  | sub found hb empty _ ih => exact .sub found hb (empty .eq) (empty .hash) ih

theorem PlainText.lookup (standard : h.Standard) {id : ClassId} (plain : h.PlainText id)
    (slot : Slot) :
    h.lookup id slot = (ClassSpec.text.slots slot).or (ClassSpec.object.slots slot) := by
  induction plain with
  | text => exact standard.lookup_eq isBuiltin_text slot
  | sub found hb empty _ ih => rw [lookup_inherited standard.rooted found (empty slot) hb, ih]

theorem isText_new (id : Nat) (s : String) : h.IsText (.object ⟨id, .text, .text s⟩) s :=
  .intro (o := ⟨id, .text, .text s⟩) .text

theorem IsText.isA (standard : h.Standard) {v : Value} {s : String} (text : h.IsText v s) :
    h.isA v .text = true := by
  cases text with
  | intro plain => exact plain.inherits.isSubclass standard.rooted

theorem IsText.textOf {v : Value} {s : String} (text : h.IsText v s) : v.textOf = s := by
  cases text with
  | intro plain => rfl

theorem IsText.exists_lookup (standard : h.Standard) {v : Value} {s : String}
    (text : h.IsText v s) : ∃ cls, v.cls? = some cls ∧ ∀ slot,
      h.lookup cls slot = (ClassSpec.text.slots slot).or (ClassSpec.object.slots slot) := by
  cases text with
  | intro plain => exact ⟨_, rfl, plain.lookup standard⟩

end Hierarchy

namespace Effect

variable {h : Hierarchy} {s : Store} {c : Run Value} {e : Effect}

/-- Run on the store, the computation has the effect on its heap. -/
def On (h : Hierarchy) (s : Store) (c : Run Value) (e : Effect) : Prop :=
  (c.run h s).1 = (e.perform s.heap).1 ∧ (c.run h s).2.heap = (e.perform s.heap).2

theorem Of.on (has : Of h c e) (sound : s.resolver.Sound h) : On h s c e := by
  obtain ⟨value, heap, -⟩ := has s.heap s.resolver sound
  exact ⟨value, heap⟩

theorem On.isText {t : String} (on : On h s c (.text t)) : h.IsText (c.run h s).1 t := by
  rw [on.1]
  exact Hierarchy.isText_new _ t

end Effect

end SlotVM
