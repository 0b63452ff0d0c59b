import SlotVM.Machine
import SlotVM.Proofs.SlotCache

namespace SlotVM

namespace Run

variable {α β : Type} {h : Hierarchy}

theorem bind_eq {c : Run α} {f : α → Run β} {s t : Store} {x : α} (ran : c h s = (x, t)) :
    (c >>= f) h s = f x h t := by
  show f (c h s).1 h (c h s).2 = f x h t
  rw [ran]

/-- On the heap, with any sound cache, the computation ends in this result and heap, and the cache
stays sound. -/
def Yields (h : Hierarchy) (c : Run α) (heap : Heap) (r : α × Heap) : Prop :=
  ∀ cache : Resolver, cache.Sound h →
    (c h ⟨cache, heap⟩).1 = r.1 ∧ (c h ⟨cache, heap⟩).2.heap = r.2 ∧
      (c h ⟨cache, heap⟩).2.resolver.Sound h

theorem Yields.of_pure (a : α) (heap : Heap) : Yields h (pure a) heap (a, heap) :=
  fun _ sound => ⟨rfl, rfl, sound⟩

theorem Yields.bind {c : Run α} {f : α → Run β} {heap : Heap} {r : α × Heap} {r' : β × Heap}
    (hc : Yields h c heap r) (hf : Yields h (f r.1) r.2 r') : Yields h (c >>= f) heap r' := by
  intro cache sound
  obtain ⟨value, heap', sound'⟩ := hc cache sound
  have after := hf (c h ⟨cache, heap⟩).2.resolver sound'
  rw [← value, ← heap'] at after
  exact after

/-- Resolving a slot is as good as knowing what a search finds. -/
theorem Yields.bind_resolve {cls : ClassId} {slot : Slot}
    {f : Option (Native slot.signature) → Run β} {heap : Heap} {r : β × Heap}
    (hf : Yields h (f (h.lookup cls slot)) heap r) :
    Yields h (resolve cls slot >>= f) heap r := by
  intro cache sound
  have after := hf (cache.resolve h cls slot).2 (sound.resolve cls slot)
  rw [← Resolver.resolve_fst sound cls slot] at after
  exact after

end Run

/-- What an operation gives: a value that is there already, a new text, or a thrown exception. -/
inductive Effect where
  | give (v : Value)
  | text (s : String)
  | throw (c : Condition)

namespace Effect

def perform : Effect → Heap → Value × Heap
  | give v, heap => (v, heap)
  | text s, heap =>
    let (o, heap) := heap.alloc .text (.text s) .fixed
    (.object o, heap)
  | throw c, heap =>
    let cell := .exception (some (clamp c.message Exception.maxMessage)) true
    let (o, heap) := heap.alloc c.cls .exception cell
    (.object o, heap)

/-- The computation has the effect on every heap. -/
def Of (h : Hierarchy) (c : Run Value) (e : Effect) : Prop :=
  ∀ heap, Run.Yields h c heap (e.perform heap)

/-- The effect with another one in its place where it declines. -/
def orElse : Effect → Effect → Effect
  | give .unsupported, e => e
  | e, _ => e

/-- The effect with the signals of an operator turned into exceptions. -/
def settle (token left right : String) : Effect → Effect
  | give .unsupported => throw (.unsupportedOperands token left right)
  | give .divByZero => throw .divisionByZero
  | e => e

/-- What the machine makes of the effect for a frame: failures end the run. -/
def act (config : Config) (f : Frame) : Effect → Heap → Action × Heap
  | give v, heap => (f.push config v, heap)
  | text s, heap => (f.push config ((text s).perform heap).1, ((text s).perform heap).2)
  | throw c, heap => (.raise ((throw c).perform heap).1, ((throw c).perform heap).2)

/-- The effect gives no signal, no error record and no exception that was there already. -/
def Final : Effect → Prop
  | give v => v.isSentinel = false ∧ ∀ heap : Heap, heap.isActive v = false
  | _ => True

variable {h : Hierarchy}

theorem of_give (v : Value) : Of h (pure v) (give v) := fun heap => .of_pure v heap

theorem of_text (s : String) : Of h (Run.newText s) (text s) := fun _ _ sound => ⟨rfl, rfl, sound⟩

theorem of_throw (c : Condition) : Of h (Exception.throwing c) (throw c) :=
  fun _ _ sound => ⟨rfl, rfl, sound⟩

theorem Of.orElse {c d : Run Value} {e e' : Effect} (hc : Of h c e) (hd : Of h d e') :
    Of h (c >>= fun v => if v.isUnsupported then d else pure v) (e.orElse e') := by
  intro heap
  refine (hc heap).bind ?_
  cases e with
  | give v =>
    cases v with
    | unsupported => exact hd heap
    | _ => exact .of_pure _ _
  | text s => exact .of_pure _ _
  | throw c => exact .of_pure _ _

theorem of_settle_unsupported (token : String) (a b : Value) :
    Of h (Operation.settle token a b .unsupported)
      (throw (.unsupportedOperands token (h.classNameOf a) (h.classNameOf b))) :=
  fun _ _ sound => ⟨rfl, rfl, sound⟩

theorem Of.settle {c : Run Value} {e : Effect} (hc : Of h c e) (token : String) (a b : Value) :
    Of h (c >>= Operation.settle token a b)
      (e.settle token (h.classNameOf a) (h.classNameOf b)) := by
  intro heap
  refine (hc heap).bind ?_
  cases e with
  | give v =>
    cases v with
    | unsupported => exact of_settle_unsupported token a b heap
    | divByZero => exact of_throw .divisionByZero heap
    | _ => exact .of_pure _ _
  | text s => exact .of_pure _ _
  | throw c => exact .of_pure _ _

theorem pushResult_eq (config : Config) (f : Frame) {v : Value} (ordinary : v.isSentinel = false)
    (h : Hierarchy) (s : Store) : f.pushResult config v h s =
      (if s.heap.isActive v then .raise v else f.push config v, s) := by
  cases v with
  | int n => rfl
  | float x => rfl
  | object o =>
    have opened : f.pushResult config (.object o) h s =
        (if s.heap.isActive (.object o) then pure (.raise (.object o))
          else pure (f.push config (.object o)) : Run Action) h s := rfl
    rw [opened]
    split <;> rfl
  | error | unsupported | divByZero | iterStop => cases ordinary

/-- The machine pushes what the effect gives and raises what it throws. -/
theorem Of.pushResult {c : Run Value} {e : Effect} (hc : Of h c e) (final : e.Final)
    (config : Config) (f : Frame) (heap : Heap) :
    Run.Yields h (c >>= f.pushResult config) heap (e.act config f heap) := by
  refine (hc heap).bind fun cache sound => ?_
  cases e with
  | give v =>
    have pushed : f.pushResult config v h ⟨cache, heap⟩ = (f.push config v, ⟨cache, heap⟩) := by
      simp [pushResult_eq config f final.1, final.2 heap]
    change (f.pushResult config v h ⟨cache, heap⟩).1 = _ ∧
      (f.pushResult config v h ⟨cache, heap⟩).2.heap = _ ∧
      (f.pushResult config v h ⟨cache, heap⟩).2.resolver.Sound h
    rw [pushed]
    exact ⟨rfl, rfl, sound⟩
  | text s => exact ⟨rfl, rfl, sound⟩
  | throw c =>
    rw [pushResult_eq config f rfl]
    have active : ((throw c).perform heap).2.isActive ((throw c).perform heap).1 = true := by
      simp [perform, Heap.alloc, Heap.isActive, Heap.exceptionOf?, Value.object?, Heap.exception?]
    simp only [active, if_true]
    exact ⟨rfl, rfl, sound⟩

end Effect

end SlotVM
