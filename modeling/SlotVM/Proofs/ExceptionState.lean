import SlotVM.Proofs.HeapGrowth
import SlotVM.Proofs.Instances

namespace SlotVM

namespace Heap

theorem exists_exception? (heap : Heap) {o : Object} (data : o.data = .exception) :
    ∃ state, heap.exception? o = some state := by
  unfold exception?
  rw [data]
  dsimp only
  split
  next message active _ => exact ⟨⟨message, active⟩, rfl⟩
  next => exact ⟨⟨none, false⟩, rfl⟩

theorem exception?_eq_none (heap : Heap) {o : Object} (other : o.data ≠ .exception) :
    heap.exception? o = none := by
  unfold exception?
  split
  next data => exact absurd data other
  next => rfl

theorem isActive_object (heap : Heap) (o : Object) :
    heap.isActive (.object o) = (heap.exception? o).any (·.active) := rfl

theorem messageOf?_object (heap : Heap) (o : Object) :
    heap.messageOf? (.object o) = (heap.exception? o).bind (·.message) := rfl

theorem exception?_alloc_self (heap : Heap) (cls : ClassId) (message : Option String)
    (active : Bool) :
    (heap.alloc cls .exception (.exception message active)).2.exception?
      ⟨heap.cells.size, cls, .exception⟩ = some ⟨message, active⟩ := by
  unfold exception? alloc
  rw [Array.getElem?_push_size]

theorem lt_size_alloc (heap : Heap) (cls : ClassId) (data : ObjectData) (cell : Cell) :
    heap.cells.size < (heap.alloc cls data cell).2.cells.size := by
  rw [alloc, Array.size_push]
  exact Nat.lt_succ_self _

theorem exception?_setException_self {heap : Heap} {o : Object} (data : o.data = .exception)
    (inside : o.id < heap.cells.size) (state : ExceptionState) :
    (heap.setException o state).exception? o = some state := by
  unfold exception?
  rw [data, setException, Array.getElem?_setIfInBounds_self_of_lt inside]

theorem size_setException (heap : Heap) (o : Object) (state : ExceptionState) :
    (heap.setException o state).cells.size = heap.cells.size := Array.size_setIfInBounds

theorem getElem?_setException_ne (heap : Heap) (o : Object) (state : ExceptionState) {i : Nat}
    (other : i ≠ o.id) : (heap.setException o state).cells[i]? = heap.cells[i]? :=
  Array.getElem?_setIfInBounds_ne other.symm

end Heap

namespace Exception

/-- The constructor of exceptions takes the message from these arguments. -/
inductive Takes (h : Hierarchy) : List Value → Option String → Prop
  | nothing : Takes h [] none
  | text {arg : Value} : h.isA arg .text = true → Takes h [arg] arg.text?

variable {h : Hierarchy} {o : Object} {s : Store} {state : ExceptionState}

theorem setMessage_eq (stands : s.heap.exception? o = some state) (message : Option String) :
    setMessage o message h s =
      ((), { s with heap := s.heap.setException o { state with message } }) := by
  change ((), { s with heap := _ }) = _
  dsimp only
  rw [stands]

theorem setActive_eq (stands : s.heap.exception? o = some state) (active : Bool) :
    setActive (.object o) active h s =
      ((), { s with heap := s.heap.setException o { state with active } }) := by
  change ((), { s with heap := _ }) = _
  dsimp only
  rw [stands]

end Exception

namespace Builtin

open Exception (Takes setMessage_eq)

/-- The constructor gives the exception back with its message set, or else it gives an error record
and changes nothing. It refuses an exception only for the arguments. -/
theorem initException_cases (h : Hierarchy) (o : Object) (args : List Value) (s : Store) :
    (∃ message state, Takes h args message ∧ s.heap.exception? o = some state ∧
      initException (.object o) args h s =
        (.object o, { s with heap := s.heap.setException o { state with message } })) ∨
    ∃ f : Fault, initException (.object o) args h s = (.error f.error, s) ∧
      (o.data = .exception → f.kind = .type ∧ ∀ message, ¬ Takes h args message) := by
  unfold initException
  by_cases many : 1 < args.length
  · rw [if_pos many]
    refine .inr ⟨.exceptionArity args.length, rfl, fun _ => ⟨rfl, fun message takes => ?_⟩⟩
    cases takes with
    | nothing => exact absurd many (by simp)
    | text => exact absurd many (by simp)
  · rw [if_neg many]
    dsimp only
    rw [Run.bind_eq (x := s.heap) (t := s) rfl]
    cases stands : s.heap.exception? o with
    | none =>
      refine .inr ⟨_, rfl, fun data => ?_⟩
      obtain ⟨state, there⟩ := s.heap.exists_exception? data
      cases stands.symm.trans there
    | some state =>
      rw [if_neg (by simp)]
      match args, many with
      | [], _ =>
        dsimp only
        rw [Run.bind_eq (setMessage_eq stands none)]
        exact .inl ⟨none, state, .nothing, rfl, rfl⟩
      | [arg], _ =>
        dsimp only
        rw [Run.bind_eq (c := isText arg) (x := h.isA arg .text) (t := s) rfl]
        cases text : h.isA arg .text with
        | true =>
          rw [if_pos rfl, Run.bind_eq (setMessage_eq stands arg.text?)]
          exact .inl ⟨arg.text?, state, .text text, rfl, rfl⟩
        | false =>
          refine .inr ⟨.exceptionArgument (h.classNameOf arg), rfl,
            fun _ => ⟨rfl, fun message takes => ?_⟩⟩
          cases takes with
          | text accepted => cases text.symm.trans accepted
      | _ :: _ :: _, many => exact absurd (Nat.succ_lt_succ (Nat.succ_pos _)) many

end Builtin

end SlotVM
