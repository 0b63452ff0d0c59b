import SlotVM.Instruction
import SlotVM.Proofs.ClassChain

namespace SlotVM.Hierarchy

/-- The class of a number in the table of the built-in classes is that of a description below the
root. -/
def IsBuiltin (id : ClassId) (spec : ClassSpec) : Prop :=
  ∃ c, builtin.get? id = some c ∧ c.slots = spec.slots ∧ c.base = some .object ∧ c.name = spec.name

theorem isBuiltin_int : IsBuiltin .int .int := ⟨_, rfl, rfl, rfl, rfl⟩

theorem isBuiltin_float : IsBuiltin .float .float := ⟨_, rfl, rfl, rfl, rfl⟩

theorem isBuiltin_text : IsBuiltin .text .text := ⟨_, rfl, rfl, rfl, rfl⟩

theorem isBuiltin_code : IsBuiltin .code .code := ⟨_, rfl, rfl, rfl, rfl⟩

theorem builtin_root : ∃ c, builtin.get? .object = some c ∧ c.slots = ClassSpec.object.slots :=
  ⟨_, rfl, rfl⟩

variable {h : Hierarchy}

/-- The functions of a built-in class right below the root are its own and those of the root. -/
theorem Standard.lookup_eq (standard : h.Standard) {id : ClassId} {spec : ClassSpec}
    (hb : IsBuiltin id spec) (slot : Slot) :
    h.lookup id slot = (spec.slots slot).or (ClassSpec.object.slots slot) := by
  obtain ⟨c, found, slots, base, -⟩ := hb
  obtain ⟨root, top, rootSlots⟩ := builtin_root
  rw [← slots, ← rootSlots]
  exact lookup_below_root standard.rooted (standard.extends_builtin _ _ found) base
    (standard.extends_builtin _ _ top) slot

theorem Standard.chain_eq (standard : h.Standard) {id : ClassId} {spec : ClassSpec}
    (hb : IsBuiltin id spec) : h.chain id = [id, .object] := by
  obtain ⟨c, found, -, base, -⟩ := hb
  obtain ⟨root, top, -⟩ := builtin_root
  have found' := standard.extends_builtin _ _ found
  have top' := standard.extends_builtin _ _ top
  rw [Hierarchy.chain_eq standard.rooted, found', Option.bind_some, base]
  dsimp only
  rw [Hierarchy.chain_eq standard.rooted, top', Option.bind_some,
    standard.rooted.root root top']

theorem Standard.isSubclass_eq (standard : h.Standard) {id : ClassId} {spec : ClassSpec}
    (hb : IsBuiltin id spec) (target : ClassId) :
    h.isSubclass id target = [id, .object].contains target := by
  rw [isSubclass, standard.chain_eq hb]

theorem Standard.nameOf_eq (standard : h.Standard) {id : ClassId}
    (registered : (builtin.get? id).isSome = true) : h.nameOf id = builtin.nameOf id := by
  obtain ⟨c, found⟩ := Option.isSome_iff_exists.mp registered
  simp [nameOf, standard.extends_builtin _ _ found, found]

end SlotVM.Hierarchy

namespace SlotVM.ClassSpec

theorem int_binary (op : BinaryOp) : int.slots (.binary op) = some (.builtin (.intArith op)) := by
  cases op <;> rfl

theorem int_reflected (op : BinaryOp) : int.slots (.reflected op) = none := by
  cases op <;> rfl

theorem float_binary (a : Arithmetic) :
    float.slots (.binary a.op) = some (.builtin (.floatArith a.op)) := by
  cases a <;> rfl

theorem float_reflected (a : Arithmetic) : float.slots (.reflected a.op) =
    if a = .mod then some (.builtin .floatReflectedMod) else none := by
  cases a <;> rfl

end SlotVM.ClassSpec
