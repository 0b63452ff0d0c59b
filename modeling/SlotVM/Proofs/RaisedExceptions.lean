import SlotVM.Proofs.ClassOrder
import SlotVM.Proofs.ExceptionState

namespace SlotVM

namespace Hierarchy

/-- From the class of exceptions down to this one, no class declares another layout. -/
inductive Shaped (h : Hierarchy) : ClassId → Prop
  | top : Shaped h .exception
  | declared {spec : ClassSpec} {id : ClassId} : Declared spec id h → id ≠ .object →
      spec.layout = .plain ∨ spec.layout = .exception → Shaped h (spec.base.getD .object) →
      Shaped h id

variable {h : Hierarchy}

theorem Shaped.layout (standard : h.Standard) {id : ClassId} (shaped : h.Shaped id) :
    ∃ c, h.get? id = some c ∧ c.layout = .exception := by
  -- From the class of exceptions downwards: a class either takes over the layout of its base or
  -- declares the same one.
  induction shaped with
  | top =>
    obtain ⟨c, found, layout⟩ : ∃ c, builtin.get? .exception = some c ∧ c.layout = .exception :=
      ⟨_, rfl, rfl⟩
    exact ⟨c, standard.extends_builtin _ _ found, layout⟩
  | declared registered notRoot own _ ih =>
    obtain ⟨c, found, -, below⟩ := registered.layout
    obtain ⟨b, hb, -, layout⟩ := below notRoot
    obtain ⟨b', hb', inherited⟩ := ih
    cases hb.symm.trans hb'
    refine ⟨c, found, layout.trans ?_⟩
    split
    next => exact inherited
    next other => exact own.resolve_left other

theorem isA_object (h : Hierarchy) (o : Object) (target : ClassId) :
    h.isA (.object o) target = h.isSubclass o.cls target := rfl

end Hierarchy

theorem Builtin.exceptionInit_givesBack (host : Host) (h : Hierarchy) :
    Native.GivesBack host h (.builtin .exceptionInit) := by
  intro o p args s inside returned _
  change (initException (.object o) args h s).1 = .object p at returned
  change p = o ∧ o.id < (initException (.object o) args h s).2.heap.cells.size
  rcases initException_cases h o args s with ⟨message, state, -, -, eq⟩ | ⟨f, eq, -⟩
  · rw [eq] at returned ⊢
    cases returned
    exact ⟨rfl, (s.heap.size_setException o _).symm ▸ inside⟩
  · rw [eq] at returned
    cases returned

/-- The later heap is the heap with the flag of an exception set to this. -/
structure Heap.Flagged (heap : Heap) (o : Object) (active : Bool) (later : Heap) : Prop where
  flag : later.isActive (.object o) = active
  message : later.messageOf? (.object o) = heap.messageOf? (.object o)
  size : later.cells.size = heap.cells.size
  others : ∀ i, i ≠ o.id → later.cells[i]? = heap.cells[i]?

theorem Heap.flagged_setException {heap : Heap} {o : Object} {state : ExceptionState}
    (data : o.data = .exception) (inside : o.id < heap.cells.size)
    (stands : heap.exception? o = some state) (active : Bool) :
    heap.Flagged o active (heap.setException o { state with active }) := by
  have set := exception?_setException_self data inside { state with active }
  refine ⟨?_, ?_, heap.size_setException o _, fun i other => heap.getElem?_setException_ne o _ other⟩
  · rw [isActive_object, set]
    rfl
  · rw [messageOf?_object, messageOf?_object, set, stands]
    rfl

namespace Exception

variable {h : Hierarchy} {s : Store} {o : Object} {v : Value} {state : ExceptionState}

theorem raise_eq (stands : s.heap.exception? o = some state)
    (below : h.isA (.object o) .exception = true) : raise (.object o) h s =
      (.object o, { s with heap := s.heap.setException o { state with active := true } }) := by
  have data : (s.heap.exceptionOf? (.object o)).isSome = true := by
    rw [Heap.exceptionOf?, Value.object?, Option.bind_some, stands, Option.isSome_some]
  unfold raise
  rw [Run.bind_eq (x := s.heap) (t := s) rfl,
    Run.bind_eq (x := h.isA (.object o) .exception) (t := s) rfl, data, below]
  rw [Bool.and_self, if_pos rfl, Run.bind_eq (setActive_eq stands true)]
  rfl

theorem raise_refused (other : s.heap.exceptionOf? v = none ∨ h.isA v .exception = false) :
    raise v h s = (.error (Fault.badThrow (h.classNameOf v)).error, s) := by
  have no : ((s.heap.exceptionOf? v).isSome && h.isA v .exception) = false := by
    rcases other with data | cls
    · rw [data, Option.isSome_none, Bool.false_and]
    · rw [cls, Bool.and_false]
  unfold raise
  rw [Run.bind_eq (x := s.heap) (t := s) rfl,
    Run.bind_eq (x := h.isA v .exception) (t := s) rfl, no, if_neg Bool.false_ne_true]
  rfl

/-- Thrown, the exception is given back with its flag set; caught, it has its flag cleared. -/
theorem raise_deactivate (data : o.data = .exception) (inside : o.id < s.heap.cells.size)
    (below : h.isA (.object o) .exception = true) :
    ∃ thrown caught,
      raise (.object o) h s = (.object o, { s with heap := thrown }) ∧
      s.heap.Flagged o true thrown ∧
      deactivate (.object o) h { s with heap := thrown } = ((), { s with heap := caught }) ∧
      thrown.Flagged o false caught := by
  obtain ⟨state, stands⟩ := s.heap.exists_exception? data
  have raised := Heap.flagged_setException data inside stands true
  have stands' := Heap.exception?_setException_self data inside { state with active := true }
  have inside' : o.id < (s.heap.setException o { state with active := true }).cells.size :=
    raised.size.symm ▸ inside
  exact ⟨_, _, raise_eq stands below, raised, setActive_eq stands' false,
    Heap.flagged_setException data inside' stands' false⟩

end Exception

/-- An instance of a class with the layout of exceptions is the new object that its constructor got,
if the constructor gives that back. -/
theorem Operation.eq_new_of_instantiate (host : Host) {h : Hierarchy} {cls : ClassId} {c : Class}
    (found : h.get? cls = some c) (layout : c.layout = .exception)
    (gives : ∀ init, c.init = some init → init.GivesBack host h) {args : List Value} {s : Store}
    {o : Object} (returned : (instantiate host cls args h s).1 = .object o) (same : o.cls = cls) :
    o = ⟨s.heap.cells.size, cls, .exception⟩ ∧
      o.id < (instantiate host cls args h s).2.heap.cells.size := by
  cases hinit : c.init with
  | none =>
    rw [instantiate_eq_throwing found hinit] at returned ⊢
    -- The exception that is thrown instead is new as well; it counts if the class is its own.
    cases returned
    cases same
    exact ⟨rfl, s.heap.lt_size_alloc .typeException .exception _⟩
  | some init =>
    rw [instantiate_eq found hinit (c.blank?_exception layout)] at returned ⊢
    have inside := s.heap.lt_size_alloc cls .exception (.exception none false)
    obtain ⟨rfl, kept⟩ := gives init hinit _ o args _ inside returned same
    exact ⟨rfl, kept⟩

namespace Exception

/-- An instance of a class of exceptions can be thrown just if it has the data of an exception, and
it is caught by the classes on its way to the root. -/
theorem raise_instances (config : Config) (requests : List Request) (host : Host) :
    let h := ((Vm.new config).serveAll requests).hierarchy
    (∀ cls c, h.get? cls = some c → h.isExceptionClass cls = true →
      h.checkCatchable cls = .ok () ∧
      (h.Shaped cls → c.layout = .exception) ∧
      ∀ args s o, (Operation.instantiate host cls args h s).1 = .object o → o.cls = cls →
        (∀ target, h.isA (.object o) target = true ↔ h.Below cls target) ∧
        (o.data = .exception → ∀ t : Store, o.id < t.heap.cells.size → ∃ thrown caught,
          raise (.object o) h t = (.object o, { t with heap := thrown }) ∧
          t.heap.Flagged o true thrown ∧
          deactivate (.object o) h { t with heap := thrown } = ((), { t with heap := caught }) ∧
          thrown.Flagged o false caught) ∧
        (o.data ≠ .exception → ∀ t : Store,
          raise (.object o) h t = (.error (Fault.badThrow c.name).error, t)) ∧
        (c.layout = .exception → (∀ init, c.init = some init → init.GivesBack host h) →
          o = ⟨s.heap.cells.size, cls, .exception⟩ ∧
          o.id < (Operation.instantiate host cls args h s).2.heap.cells.size)) ∧
    ∀ v, h.isA v .exception = false → ∀ t : Store, ∃ e : Error, e.kind = .type ∧
      raise v h t = (.error e, t) := by
  intro h
  have standard : h.Standard := ((Vm.new_consistent config).serveAll requests).standard
  refine ⟨fun cls c found exceptional => ⟨?_, fun shaped => ?_, fun args s o returned same => ?_⟩,
    fun v other t => ⟨_, rfl, raise_refused (.inr other)⟩⟩
  · exact if_pos exceptional
  · obtain ⟨c', found', layout⟩ := shaped.layout standard
    cases found.symm.trans found'
    exact layout
  · have below : h.isA (.object o) .exception = true := by
      rw [h.isA_object, same]
      exact exceptional
    refine ⟨fun target => ?_, fun data t inside => raise_deactivate data inside below,
      fun data t => ?_, fun layout gives =>
        Operation.eq_new_of_instantiate host found layout gives returned same⟩
    · rw [h.isA_object, same]
      exact Hierarchy.isSubclass_iff standard.rooted
    · have name : h.classNameOf (.object o) = c.name := by
        change h.nameOf o.cls = c.name
        rw [same, Hierarchy.nameOf, found]
      have none : t.heap.exceptionOf? (.object o) = none := t.heap.exception?_eq_none data
      rw [raise_refused (.inl none), name]

/-- A class below that of exceptions, whose instances are exceptions. -/
def timeout : ClassSpec where
  name := "Timeout"
  base := some .exception
  init := some (.builtin .exceptionInit)

/-- A class below that of exceptions, whose instances have fields. -/
def report : ClassSpec where
  name := "Report"
  base := some .exception
  layout := .fields
  init := some (.builtin .objectInit)

/-- A timeout is thrown and caught. A report is not thrown, and neither is a number. -/
theorem raise_instances_timeout :
    let h := ((Vm.new {}).serveAll [.register timeout, .register report]).hierarchy
    let made := Operation.instantiate .none 12 [] h .empty
    let o : Object := ⟨0, 12, .exception⟩
    let p : Object := ⟨0, 13, .fields⟩
    (∃ c, h.get? 12 = some c ∧ h.Shaped 12 ∧ c.layout = .exception) ∧
    h.checkCatchable 12 = .ok () ∧ made.1 = .object o ∧ o.id < made.2.heap.cells.size ∧
    h.isA (.object o) .exception = true ∧
    (∃ thrown caught,
      raise (.object o) h made.2 = (.object o, { made.2 with heap := thrown }) ∧
      made.2.heap.Flagged o true thrown ∧
      deactivate (.object o) h { made.2 with heap := thrown } =
        ((), { made.2 with heap := caught }) ∧
      thrown.Flagged o false caught) ∧
    raise (.object p) h .empty = (.error (Fault.badThrow "Report").error, .empty) ∧
    ∃ e : Error, e.kind = .type ∧ raise (.int 1) h .empty = (.error e, .empty) := by
  intro h made o p
  have rooted : h.Rooted := ((Vm.new_consistent {}).serveAll _).standard.rooted
  obtain ⟨instances, others⟩ := raise_instances {} [.register timeout, .register report] .none
  have below {id : ClassId} (base : h.parent? id = some .exception) : h.Below id .exception :=
    Relation.ReflTransGen.single base
  have exceptional {id : ClassId} (base : h.parent? id = some .exception) :
      h.isExceptionClass id = true := (Hierarchy.isSubclass_iff rooted).mpr (below base)
  obtain ⟨c, found, hinit⟩ : ∃ c, h.get? 12 = some c ∧ c.init = some (.builtin .exceptionInit) :=
    ⟨_, rfl, rfl⟩
  obtain ⟨d, found', name⟩ : ∃ d, h.get? 13 = some d ∧ d.name = "Report" := ⟨_, rfl, rfl⟩
  have shaped : h.Shaped 12 := by
    let first := ((Vm.new {}).serveAll [.register timeout]).hierarchy
    have added : Hierarchy.builtin.register timeout = .ok (12, first) := rfl
    have later : first.register report = .ok (13, h) := rfl
    exact .declared (.later (.new added) later) (by decide) (.inl rfl) .top
  obtain ⟨catchable, inherited, made'⟩ := instances 12 c found (exceptional rfl)
  have layout : c.layout = .exception := inherited shaped
  have gives (init : Native .init) (own : c.init = some init) : init.GivesBack .none h := by
    cases hinit.symm.trans own
    exact Builtin.exceptionInit_givesBack .none h
  have new : made.1 = .object o := rfl
  obtain ⟨matches', thrown, -, back⟩ := made' [] .empty o new rfl
  have inside : o.id < made.2.heap.cells.size := (back layout gives).2
  obtain ⟨-, -, made''⟩ := instances 13 d found' (exceptional rfl)
  obtain ⟨-, -, refused, -⟩ := made'' [] .empty p rfl rfl
  have number : h.isA (.int 1) .exception = false := by
    refine Bool.eq_false_iff.mpr fun subclass => ?_
    have le : (6 : Nat) ≤ 1 := rooted.le_of_below ((Hierarchy.isSubclass_iff rooted).mp subclass)
    exact absurd le (by decide)
  exact ⟨⟨c, found, shaped, layout⟩, catchable, new, inside,
    (matches' .exception).mpr (below rfl), thrown rfl made.2 inside,
    name ▸ refused nofun .empty, others (.int 1) number .empty⟩

/-- Not every instance of a class of exceptions can be thrown. -/
theorem raise_instances_report : ¬ ∀ (requests : List Request) (host : Host) (s : Store) cls args o,
    let h := ((Vm.new {}).serveAll requests).hierarchy
    let made := Operation.instantiate host cls args h s
    h.isExceptionClass cls = true → made.1 = .object o → o.cls = cls →
      (raise (.object o) h made.2).1 = .object o := by
  intro always
  let h := ((Vm.new {}).serveAll [.register report]).hierarchy
  have rooted : h.Rooted := ((Vm.new_consistent {}).serveAll _).standard.rooted
  have below : h.isExceptionClass 12 = true :=
    (Hierarchy.isSubclass_iff rooted).mpr (Relation.ReflTransGen.single rfl)
  have thrown := always [.register report] .none .empty 12 [] ⟨0, 12, .fields⟩ below rfl rfl
  rw [raise_refused (.inl rfl)] at thrown
  cases thrown

end Exception

end SlotVM
