import SlotVM.Attribute
import SlotVM.Operation
import SlotVM.Proofs.AttributeTable
import SlotVM.Proofs.HeapGrowth
import SlotVM.Proofs.Instances

namespace SlotVM

def Field.kind : Field → MemberKind
  | char _ => .char
  | byte _ => .byte
  | short _ => .short
  | int _ => .int
  | long _ => .long
  | ubyte _ => .ubyte
  | ushort _ => .ushort
  | uint _ => .uint
  | ulong _ => .ulong
  | size _ => .size
  | bool _ => .bool
  | float _ => .float
  | double _ => .double
  | str _ => .str
  | object _ => .object

namespace Member

variable {m : Member} {current f : Field} {v : Value}

/-- What a value becomes has the kind of the member, whatever was there. -/
theorem kind_of_convert? (h : m.convert? current v = some f) : f.kind = m.kind := by
  unfold convert? at h
  cases hk : m.kind <;> rw [hk] at h
  case char =>
    dsimp only at h
    repeat' split at h
    all_goals first | cases h; rfl | cases h
  case float =>
    dsimp only at h
    split at h <;> cases h <;> rfl
  case object =>
    dsimp only at h
    repeat' split at h
    all_goals first | cases h; rfl | cases h
  all_goals
    obtain ⟨_, -, rfl⟩ := Option.map_eq_some_iff.mp h
    rfl

/-- A member that only takes objects of the class that it holds keeps that class. -/
theorem cls_of_convert? {old : Object} (kind : m.kind = .object) (strict : m.typeStrict = true)
    (h : m.convert? (.object (some old)) v = some f) :
    ∃ new, f = .object (some new) ∧ new.cls = old.cls := by
  unfold convert? at h
  rw [kind] at h
  cases v with
  | object o =>
    dsimp only at h
    rw [strict, Bool.true_and] at h
    split at h
    next => cases h
    next same =>
      cases h
      have eq : old.cls = o.cls := by simpa using same
      exact ⟨o, rfl, eq.symm⟩
  | _ => cases h

/-- The field of the member is there and has the kind of the member. -/
def Typed (m : Member) (fs : Array Field) : Prop := ∃ f, fs[m.index]? = some f ∧ f.kind = m.kind

end Member

namespace ClassSpec

variable {c : ClassSpec} {m : Member} {fs : Array Field}

def Typed (c : ClassSpec) (fs : Array Field) : Prop := ∀ m ∈ c.members, m.Typed fs

/-- No two members share a field. -/
def Separate (c : ClassSpec) : Prop := (c.members.map (·.index)).Nodup

theorem Separate.eq_of_index (separate : c.Separate) {m m' : Member} (hm : m ∈ c.members)
    (hm' : m' ∈ c.members) (same : m.index = m'.index) : m = m' :=
  List.inj_on_of_nodup_map separate hm hm' same

/-- What the fields of an instance have in common with those that it has later on. -/
structure Later (c : ClassSpec) (fs later : Array Field) : Prop where
  typed : ∀ m ∈ c.members, m.Typed fs → m.Typed later
  readonly : ∀ m ∈ c.members, m.readonly = true → later[m.index]? = fs[m.index]?
  strict : ∀ m ∈ c.members, m.kind = .object → m.typeStrict = true → ∀ old,
    fs[m.index]? = some (.object (some old)) →
      ∃ new, later[m.index]? = some (.object (some new)) ∧ new.cls = old.cls

theorem Later.trans {first second third : Array Field} (h : c.Later first second)
    (h' : c.Later second third) : c.Later first third := by
  refine ⟨fun m hm typed => h'.typed m hm (h.typed m hm typed), fun m hm readonly => ?_,
    fun m hm kind strict old holds => ?_⟩
  · rw [h'.readonly m hm readonly, h.readonly m hm readonly]
  · obtain ⟨middle, holds', same⟩ := h.strict m hm kind strict old holds
    obtain ⟨new, holds'', same'⟩ := h'.strict m hm kind strict middle holds'
    exact ⟨new, holds'', same'.trans same⟩

theorem later_setIfInBounds (separate : c.Separate) (hm : m ∈ c.members)
    (writable : m.readonly = false) {current f : Field} {v : Value}
    (holds : fs[m.index]? = some current) (fits : m.convert? current v = some f) :
    c.Later fs (fs.setIfInBounds m.index f) := by
  have inside : m.index < fs.size := (Array.getElem?_eq_some_iff.mp holds).1
  have self : (fs.setIfInBounds m.index f)[m.index]? = some f :=
    Array.getElem?_setIfInBounds_self_of_lt inside
  have others {m' : Member} (hm' : m' ∈ c.members) (differ : m' ≠ m) :
      (fs.setIfInBounds m.index f)[m'.index]? = fs[m'.index]? :=
    Array.getElem?_setIfInBounds_ne fun same => differ (separate.eq_of_index hm' hm same.symm)
  refine ⟨fun m' hm' typed => ?_, fun m' hm' readonly => ?_, fun m' hm' kind strict old was => ?_⟩
  · by_cases this : m' = m
    · rw [this]
      exact ⟨f, self, Member.kind_of_convert? fits⟩
    · obtain ⟨g, at', kind⟩ := typed
      exact ⟨g, (others hm' this).trans at', kind⟩
  · refine others hm' ?_
    rintro rfl
    rw [writable] at readonly
    cases readonly
  · by_cases this : m' = m
    · subst this
      cases holds.symm.trans was
      obtain ⟨new, rfl, same⟩ := Member.cls_of_convert? kind strict fits
      exact ⟨new, self, same⟩
    · exact ⟨old, (others hm' this).trans was, rfl⟩

end ClassSpec

namespace Attribute

/-- A use of an attribute of an instance. -/
inductive Access where
  | get (attr : String)
  | set (attr : String) (new : Value)

def Access.perform (v : Value) : Access → Run Value
  | get attr => getDefault v attr
  | set attr new => setDefault v attr new

/-- The store after uses of attributes in turn. -/
def after (h : Hierarchy) (v : Value) (s : Store) (accesses : List Access) : Store :=
  accesses.foldl (fun s a => (a.perform v h s).2) s

/-- A thrown exception is the result, and no fields change. -/
structure Refused (s : Store) (r : Value × Store) : Prop where
  thrown : ∃ o, r.1 = .object o
  spares : s.heap.Spares r.2.heap

theorem Refused.value {s : Store} {r : Value × Store} (refused : Refused s r) :
    r.1.isError = false := by
  obtain ⟨o, eq⟩ := refused.thrown
  rw [eq]
  rfl

variable {h : Hierarchy} {c : Class} {o : Object} {s : Store} {fs : Array Field}

section uses

variable (found : h.get? o.cls = some c) (entered : c.toClassSpec.attrDict = .ok c.attrs)
  (stands : s.heap.fields? o = some fs)

include found entered stands

end uses

end Attribute

namespace Attribute

end Attribute

end SlotVM
