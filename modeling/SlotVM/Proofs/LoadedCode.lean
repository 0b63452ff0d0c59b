import SlotVM.Proofs.OperatorEffect
import SlotVM.Vm

namespace SlotVM

mutual

theorem Const.load_storable (h : Hierarchy) :
    ∀ (c : Const) (s : Store), (c.load h s).1.Storable ∧ (c.load h s).2.resolver = s.resolver
  | .int n, _ => ⟨.int n, rfl⟩
  | .float x, _ => ⟨.float x, rfl⟩
  | .str t, s => ⟨.text s.heap.cells.size t, rfl⟩
  | .code c, s => by
    obtain ⟨consts, same⟩ := Segment.load_storable h c s
    exact ⟨.code consts, same⟩

theorem Segment.load_storable (h : Hierarchy) : ∀ (c : Segment) (s : Store),
    (∀ v ∈ (c.load h s).1.consts, v.Storable) ∧ (c.load h s).2.resolver = s.resolver
  | ⟨_, _, _, _, consts, _⟩, s => loadConsts_storable h consts s

theorem loadConsts_storable (h : Hierarchy) : ∀ (cs : List Const) (s : Store),
    (∀ v ∈ (loadConsts cs h s).1, v.Storable) ∧ (loadConsts cs h s).2.resolver = s.resolver
  | [], _ => ⟨fun _ hv => (nomatch hv), rfl⟩
  | c :: rest, s => by
    obtain ⟨first, same⟩ := Const.load_storable h c s
    obtain ⟨others, same'⟩ := loadConsts_storable h rest (c.load h s).2
    refine ⟨fun v hv => ?_, same'.trans same⟩
    rcases List.mem_cons.mp hv with rfl | hv
    · exact first
    · exact others v hv

end

mutual

/-- The constant that a value stands for in a module file. -/
def Value.const? : Value → Option Const
  | .int n => some (.int n)
  | .float x => some (.float x)
  | .object o => o.const?
  | _ => none

def Object.const? : Object → Option Const
  | ⟨_, cls, data⟩ => data.const? cls

def ObjectData.const? : ObjectData → ClassId → Option Const
  | .text s, cls => if cls = .text then some (.str s) else none
  | .code c, cls => if cls = .code then c.segment?.map .code else none
  | _, _ => none

/-- The segment that a code object stands for in a module file. -/
def CodeObject.segment? : CodeObject → Option Segment
  | ⟨name, argcount, names, attrs, consts, bytecode⟩ =>
    if argcount < 256 then
      (constList? consts).map fun consts =>
        ⟨name, UInt8.ofNat argcount, names, attrs, consts, bytecode⟩
    else none

def constList? : List Value → Option (List Const)
  | [] => some []
  | v :: rest =>
    match v.const?, constList? rest with
    | some c, some cs => some (c :: cs)
    | _, _ => none

end

theorem CodeObject.segment?_eq_some_iff {c : CodeObject} {s : Segment} :
    c.segment? = some s ↔ c.name = s.name ∧ c.argcount = s.argcount.toNat ∧ c.names = s.names ∧
      c.attrs = s.attrs ∧ c.bytecode = s.code ∧ constList? c.consts = some s.consts := by
  obtain ⟨name, argcount, names, attrs, consts, bytecode⟩ := c
  obtain ⟨name', argcount', names', attrs', consts', code'⟩ := s
  have bound := argcount'.toNat_lt
  unfold segment?
  dsimp only
  constructor
  · intro h
    split at h
    next small =>
      obtain ⟨cs, hcs, eq⟩ := Option.map_eq_some_iff.mp h
      cases eq
      exact ⟨rfl, (UInt8.toNat_ofNat_of_lt' small).symm, rfl, rfl, rfl, hcs⟩
    next => cases h
  · rintro ⟨rfl, rfl, rfl, rfl, rfl, hcs⟩
    rw [if_pos bound, hcs, UInt8.ofNat_toNat]
    rfl

mutual

theorem Const.load_const? (h : Hierarchy) :
    ∀ (c : Const) (s : Store), (c.load h s).1.const? = some c
  | .int _, _ => rfl
  | .float _, _ => rfl
  | .str _, _ => rfl
  | .code c, s => congrArg (Option.map Const.code) (Segment.load_segment? h c s)

theorem Segment.load_segment? (h : Hierarchy) :
    ∀ (c : Segment) (s : Store), (c.load h s).1.segment? = some c
  | ⟨name, argcount, names, attrs, consts, code⟩, s => by
    have loaded := loadConsts_constList? h consts s
    have bound : argcount.toNat < 256 := argcount.toNat_lt
    change (if argcount.toNat < 256 then (constList? (loadConsts consts h s).1).map fun consts =>
      Segment.mk name (UInt8.ofNat argcount.toNat) names attrs consts code else none) = _
    rw [if_pos bound, loaded, UInt8.ofNat_toNat]
    rfl

theorem loadConsts_constList? (h : Hierarchy) :
    ∀ (cs : List Const) (s : Store), constList? (loadConsts cs h s).1 = some cs
  | [], _ => rfl
  | c :: rest, s => by
    have first := Const.load_const? h c s
    have others := loadConsts_constList? h rest (c.load h s).2
    change (match (c.load h s).1.const?, constList? (loadConsts rest h (c.load h s).2).1 with
      | some c, some cs => some (c :: cs)
      | _, _ => none) = _
    rw [first, others]

end

/-- Loaded code comes from a segment that was read, its constants can be stored, and loading leaves
the classes, the cache and the limits as they were. -/
theorem Vm.load_eq_ok {vm vm' : Vm} {bytes : List UInt8} {code : CodeObject}
    (h : vm.load bytes = .ok (code, vm')) :
    (∃ s, Segment.readModule bytes = .ok s ∧ (code, vm') = vm.eval s.load) ∧
      (∀ v ∈ code.consts, v.Storable) ∧ vm'.hierarchy = vm.hierarchy ∧
      vm'.store.resolver = vm.store.resolver ∧ vm'.config = vm.config := by
  unfold load at h
  cases read : Segment.readModule bytes with
  | error cause => rw [read] at h; cases h
  | ok s =>
    rw [read] at h
    obtain ⟨storable, same⟩ := Segment.load_storable vm.hierarchy s vm.store
    cases h
    exact ⟨⟨s, rfl, rfl⟩, storable, rfl, same, rfl⟩

theorem Vm.load_eq_error {vm : Vm} {bytes : List UInt8} {cause : Fault}
    (h : vm.load bytes = .error cause) : Segment.readModule bytes = .error cause := by
  unfold load at h
  cases read : Segment.readModule bytes with
  | error cause' => rw [read] at h; cases h; rfl
  | ok s => rw [read] at h; cases h

end SlotVM
