import Mathlib.Logic.Relation
import SlotVM.Proofs.BuiltinSlots
import SlotVM.Proofs.SlotCache

namespace SlotVM

namespace Hierarchy

/-- The base of a class as it is registered, whatever its number. -/
def parent? (h : Hierarchy) (id : ClassId) : Option ClassId := (h.get? id).bind (·.base)

/-- The second class is on the way from the first one to the root. -/
def Below (h : Hierarchy) : ClassId → ClassId → Prop :=
  Relation.ReflTransGen fun id base => h.parent? id = some base

/-- The search for a class from another one on, base by base, through at most `limit` classes; there
is no answer if they are too few. -/
def climb (h : Hierarchy) (target : ClassId) : Nat → ClassId → Option Bool
  | 0, _ => none
  | limit + 1, id =>
    if id = target then some true
    else
      match h.parent? id with
      | some base => h.climb target limit base
      | none => some false

/-- The class of a number was made by registering this description. -/
inductive Declared (spec : ClassSpec) (id : ClassId) : Hierarchy → Prop
  | new {h g : Hierarchy} : h.register spec = .ok (id, g) → Declared spec id g
  | later {h g : Hierarchy} {other : ClassSpec} {k : ClassId} :
      Declared spec id h → h.register other = .ok (k, g) → Declared spec id g

variable {h g : Hierarchy}

theorem Rooted.parent_lt (rooted : h.Rooted) {id base : ClassId} (hp : h.parent? id = some base) :
    base < id := by
  obtain ⟨c, found, hb⟩ := Option.bind_eq_some_iff.mp hp
  exact rooted.base_lt found hb

theorem get?_isSome_of_lt {id : ClassId} (inside : id < h.size) : (h.get? id).isSome = true := by
  have bound : id < h.classes.size := inside
  simp [get?, bound]

/-- Every registered class but the root has a registered base before it. -/
theorem Rooted.exists_parent (rooted : h.Rooted) {id : ClassId} {c : Class}
    (found : h.get? id = some c) (below : id ≠ .object) :
    ∃ base b, c.base = some base ∧ base < id ∧ h.get? base = some b := by
  obtain ⟨base, hb, before⟩ := rooted.based id c found below
  have inside : base < h.size := Nat.lt_trans before (get?_lt_size found)
  obtain ⟨b, registered⟩ := Option.isSome_iff_exists.mp (get?_isSome_of_lt inside)
  exact ⟨base, b, hb, before, registered⟩

theorem isSubclass_eq (rooted : h.Rooted) (id target : ClassId) :
    h.isSubclass id target =
      if id = target then true
      else
        match h.parent? id with
        | some base => h.isSubclass base target
        | none => false := by
  have cons (rest : List ClassId) : (id :: rest).contains target =
      if id = target then true else rest.contains target := by
    by_cases same : id = target
    · simp [same]
    · have differ : target ≠ id := fun eq => same eq.symm
      simp [same, differ]
  unfold isSubclass
  rw [chain_eq rooted id]
  change (match h.parent? id with
    | some base => id :: h.chain base
    | none => [id]).contains target = _
  cases h.parent? id with
  | some base => exact cons _
  | none => exact cons []

/-- The search ends after no more classes than the number of the class that it starts from, and one
more. -/
theorem climb_eq (rooted : h.Rooted) (target : ClassId) {limit id : Nat} (enough : id < limit) :
    h.climb target limit id = some (h.isSubclass id target) := by
  induction limit generalizing id with
  | zero => exact absurd enough (Nat.not_lt_zero id)
  | succ limit ih =>
    rw [climb, isSubclass_eq rooted]
    by_cases same : id = target
    · rw [if_pos same, if_pos same]
    · rw [if_neg same, if_neg same]
      cases hp : h.parent? id with
      | none => rfl
      | some base =>
        have before : base < id := rooted.parent_lt hp
        exact ih (Nat.lt_of_lt_of_le before (Nat.le_of_lt_succ enough))

theorem Rooted.le_of_below (rooted : h.Rooted) {id target : ClassId} (below : h.Below id target) :
    target ≤ id := by
  induction below with
  | refl => exact Nat.le_refl id
  | tail _ step ih => exact Nat.le_trans (Nat.le_of_lt (rooted.parent_lt step)) ih

theorem isSubclass_iff (rooted : h.Rooted) {id target : ClassId} :
    h.isSubclass id target = true ↔ h.Below id target := by
  constructor
  · intro hs
    induction id using Nat.strongRecOn with
    | ind id ih =>
      rw [isSubclass_eq rooted] at hs
      by_cases same : id = target
      · rw [same]
        exact Relation.ReflTransGen.refl
      · rw [if_neg same] at hs
        cases hp : h.parent? id with
        | none => rw [hp] at hs; cases hs
        | some base =>
          rw [hp] at hs
          have rest : h.Below base target := ih base (rooted.parent_lt hp) hs
          exact Relation.ReflTransGen.head hp rest
  · intro below
    induction below using Relation.ReflTransGen.head_induction_on with
    | refl => rw [isSubclass_eq rooted, if_pos rfl]
    | @head id base step _ ih =>
      rw [isSubclass_eq rooted, step]
      split
      next => rfl
      next => exact ih

theorem Rooted.below_antisymm (rooted : h.Rooted) {id target : ClassId}
    (below : h.Below id target) (above : h.Below target id) : id = target :=
  Nat.le_antisymm (rooted.le_of_below above) (rooted.le_of_below below)

/-- Every way of bases ends at the root. -/
theorem Rooted.below_root (rooted : h.Rooted) {id : ClassId} {c : Class}
    (found : h.get? id = some c) : h.Below id .object := by
  induction id using Nat.strongRecOn generalizing c with
  | ind id ih =>
    by_cases root : id = ClassId.object
    · rw [root]
      exact Relation.ReflTransGen.refl
    · obtain ⟨base, b, hb, before, registered⟩ := rooted.exists_parent found root
      have step : h.parent? id = some base := by rw [parent?, found, Option.bind_some, hb]
      exact Relation.ReflTransGen.head step (ih base before registered)

theorem Rooted.exists_lookup (rooted : h.Rooted) {slot : Slot} {root : Class}
    (top : h.get? .object = some root) (filled : (root.slots slot).isSome = true) {id : ClassId}
    {c : Class} (found : h.get? id = some c) : (h.lookup id slot).isSome = true := by
  induction id using Nat.strongRecOn generalizing c with
  | ind id ih =>
    cases hs : c.slots slot with
    | some f => rw [lookup_own rooted found hs, Option.isSome_some]
    | none =>
      by_cases below : id = ClassId.object
      · subst below
        cases found.symm.trans top
        rw [hs] at filled
        cases filled
      · obtain ⟨base, b, hb, before, registered⟩ := rooted.exists_parent found below
        rw [lookup_inherited rooted found hs hb]
        exact ih base before registered

theorem Standard.exists_lookup (standard : h.Standard) {slot : Slot}
    (common : slot ∈ [Slot.eq, .hash, .str, .nonzero]) {id : ClassId} {c : Class}
    (found : h.get? id = some c) : (h.lookup id slot).isSome = true := by
  obtain ⟨root, top, slots⟩ := builtin_root
  have filled : (root.slots slot).isSome = true := by
    rw [slots]
    simp only [List.mem_cons, List.not_mem_nil, or_false] at common
    rcases common with rfl | rfl | rfl | rfl <;> rfl
  exact standard.rooted.exists_lookup (standard.extends_builtin _ _ top) filled found

/-- Settling gives the root no base; any other class gets a registered one, and the layout of its
base if it has none of its own. -/
theorem settled_layout {spec settled : ClassSpec} {id : ClassId}
    (hs : h.settle id spec = .ok settled) :
    (id = .object → settled.base = none ∧ settled.layout = spec.layout) ∧
      (id ≠ .object → ∃ b, h.get? (spec.base.getD .object) = some b ∧
        settled.base = some (spec.base.getD .object) ∧
        settled.layout = if spec.layout = .plain then b.layout else spec.layout) := by
  unfold settle at hs
  split at hs
  next root =>
    cases hs
    exact ⟨fun _ => ⟨rfl, rfl⟩, fun below => absurd root below⟩
  next below =>
    dsimp only at hs
    split at hs
    next => cases hs
    next b found =>
      cases hs
      exact ⟨fun root => absurd root below, fun _ => ⟨b, found, rfl, rfl⟩⟩

theorem size_register {spec : ClassSpec} {id : ClassId}
    (registered : h.register spec = .ok (id, g)) : id = h.size ∧ g.size = h.size + 1 := by
  obtain ⟨-, rfl, settled, attrs, -, -, rfl⟩ := register_eq_ok_iff.mp registered
  exact ⟨rfl, Array.size_push _⟩

theorem get?_register_of_lt {spec : ClassSpec} {id k : ClassId}
    (registered : h.register spec = .ok (id, g)) (before : k < h.size) :
    g.get? k = h.get? k := by
  obtain ⟨-, -, settled, attrs, -, -, rfl⟩ := register_eq_ok_iff.mp registered
  rw [get?_push, if_neg (Nat.ne_of_lt before)]

theorem Declared.layout {spec : ClassSpec} {id : ClassId} (declared : Declared spec id h) :
    ∃ c, h.get? id = some c ∧
      (id = .object → c.base = none ∧ c.layout = spec.layout) ∧
      (id ≠ .object → ∃ b, h.get? (spec.base.getD .object) = some b ∧
        c.base = some (spec.base.getD .object) ∧
        c.layout = if spec.layout = .plain then b.layout else spec.layout) := by
  induction declared with
  | @new h g registered =>
    have ext : g.Extends h := extends_of_register registered
    obtain ⟨-, rfl, settled, attrs, hs, -, rfl⟩ := register_eq_ok_iff.mp registered
    obtain ⟨root, below⟩ := settled_layout hs
    refine ⟨_, (get?_push h _ _).trans (if_pos rfl), root, fun notRoot => ?_⟩
    obtain ⟨b, found, hb, layout⟩ := below notRoot
    exact ⟨b, ext _ _ found, hb, layout⟩
  | later _ registered ih =>
    have ext := extends_of_register registered
    obtain ⟨c, found, root, below⟩ := ih
    refine ⟨c, ext _ _ found, root, fun notRoot => ?_⟩
    obtain ⟨b, hb, rest⟩ := below notRoot
    exact ⟨b, ext _ _ hb, rest⟩

/-- Every class of the table was declared. -/
def AllDeclared (h : Hierarchy) : Prop :=
  ∀ id c, h.get? id = some c → ∃ spec, Declared spec id h

theorem AllDeclared.register (all : h.AllDeclared) {spec : ClassSpec} {id : ClassId}
    (registered : h.register spec = .ok (id, g)) : g.AllDeclared := by
  intro k c found
  obtain ⟨rfl, size⟩ := size_register registered
  have inside : k < h.size + 1 := size ▸ get?_lt_size found
  by_cases new : k = h.size
  · rw [new]
    exact ⟨spec, .new registered⟩
  · have before : k < h.size := Nat.lt_of_le_of_ne (Nat.le_of_lt_succ inside) new
    rw [get?_register_of_lt registered before] at found
    obtain ⟨other, declared⟩ := all k c found
    exact ⟨other, .later declared registered⟩

theorem AllDeclared.registerAll (all : h.AllDeclared) (specs : List ClassSpec) :
    (h.registerAll specs).AllDeclared := registerAll_keeps AllDeclared.register all specs

theorem builtin_allDeclared : builtin.AllDeclared := by
  have none : empty.AllDeclared := by
    intro id c found
    cases found
  exact none.registerAll _

/-- A new class changes nothing about the order of the others. -/
theorem isSubclass_register (rooted : h.Rooted) {spec : ClassSpec} {id : ClassId}
    (registered : h.register spec = .ok (id, g)) {k : ClassId} (before : k < h.size)
    (target : ClassId) : g.isSubclass k target = h.isSubclass k target := by
  have rooted' : g.Rooted := rooted.register registered
  induction k using Nat.strongRecOn with
  | ind k ih =>
    have same : g.parent? k = h.parent? k := by
      rw [parent?, parent?, get?_register_of_lt registered before]
    rw [isSubclass_eq rooted, isSubclass_eq rooted', same]
    cases hp : h.parent? k with
    | none => rfl
    | some base =>
      have smaller : base < k := rooted.parent_lt hp
      have eq := ih base smaller (Nat.lt_trans smaller before)
      simp only [eq]

end Hierarchy

namespace Vm

theorem allDeclared_serveAll {vm : Vm} (all : vm.hierarchy.AllDeclared)
    (requests : List Request) : (vm.serveAll requests).hierarchy.AllDeclared :=
  vm.serveAll_keeps Hierarchy.AllDeclared.register all requests

/-- What a successful registration does to the machine. -/
theorem register_eq_ok {vm vm' : Vm} {spec : ClassSpec} {id : ClassId}
    (registered : vm.register spec = (.ok id, vm')) :
    ∃ g, vm.hierarchy.register spec = .ok (id, g) ∧ vm' = { vm with hierarchy := g } := by
  unfold register at registered
  cases result : vm.hierarchy.register spec with
  | error fault => rw [result] at registered; cases registered
  | ok p =>
    rw [result] at registered
    cases registered
    exact ⟨p.2, rfl, rfl⟩

theorem register_eq_error {vm vm' : Vm} {spec : ClassSpec} {fault : Fault}
    (refused : vm.register spec = (.error fault, vm')) : vm' = vm := by
  unfold register at refused
  cases result : vm.hierarchy.register spec with
  | error fault => rw [result] at refused; cases refused; rfl
  | ok p => rw [result] at refused; cases refused

/-- Whatever was registered, subclassing is a partial order below the class of objects, and
registering changes no class that is there. -/
theorem classes_ordered (config : Config) (requests : List Request) :
    let vm := (new config).serveAll requests
    let h := vm.hierarchy
    (∃ c, h.get? .object = some c ∧ c.name = "Object" ∧ c.base = none) ∧
    (∀ id c, h.get? id = some c → id ≠ .object →
      ∃ base b, c.base = some base ∧ base < id ∧ h.get? base = some b) ∧
    (∀ id c, h.get? id = some c → ∃ spec, Hierarchy.Declared spec id h) ∧
    (∀ spec id, Hierarchy.Declared spec id h → id ≠ .object →
      ∃ c base b, h.get? id = some c ∧ c.base = some base ∧ h.get? base = some b ∧
        c.layout = if spec.layout = .plain then b.layout else spec.layout) ∧
    (∀ id target, h.climb target (id + 1) id = some (h.isSubclass id target)) ∧
    (∀ id target, h.isSubclass id target = true ↔ h.Below id target) ∧
    (∀ id, h.isSubclass id id = true) ∧
    (∀ a b c, h.isSubclass a b = true → h.isSubclass b c = true → h.isSubclass a c = true) ∧
    (∀ a b, h.isSubclass a b = true → h.isSubclass b a = true → a = b) ∧
    (∀ id c, h.get? id = some c → h.isSubclass id .object = true) ∧
    (∀ id c, h.get? id = some c → ∀ slot ∈ [Slot.eq, .hash, .str, .nonzero],
      (vm.answer id slot).isSome = true) ∧
    (∀ spec id vm', vm.register spec = (.ok id, vm') →
      id = h.size ∧ vm'.hierarchy.size = h.size + 1 ∧
      (∀ k < h.size, vm'.hierarchy.get? k = h.get? k) ∧
      ∀ a < h.size, ∀ b < h.size, vm'.hierarchy.isSubclass a b = h.isSubclass a b) ∧
    ∀ spec fault vm', vm.register spec = (.error fault, vm') → vm' = vm := by
  intro vm h
  have consistent : vm.Consistent := (new_consistent config).serveAll requests
  have standard : h.Standard := consistent.standard
  have rooted : h.Rooted := standard.rooted
  have below {id target : ClassId} : h.isSubclass id target = true ↔ h.Below id target :=
    Hierarchy.isSubclass_iff rooted
  refine ⟨?_, fun id c found notRoot => rooted.exists_parent found notRoot,
    allDeclared_serveAll Hierarchy.builtin_allDeclared requests, ?_,
    fun id target => Hierarchy.climb_eq rooted target (Nat.lt_succ_self id), fun _ _ => below,
    fun id => below.mpr Relation.ReflTransGen.refl, ?_, ?_, ?_, ?_, ?_,
    fun spec fault vm' refused => register_eq_error refused⟩
  · obtain ⟨c, found, name⟩ : ∃ c, Hierarchy.builtin.get? .object = some c ∧ c.name = "Object" :=
      ⟨_, rfl, rfl⟩
    have top := standard.extends_builtin _ _ found
    exact ⟨c, top, name, rooted.root c top⟩
  · intro spec id declared notRoot
    obtain ⟨c, found, -, layout⟩ := declared.layout
    obtain ⟨b, registered, hb, layout⟩ := layout notRoot
    exact ⟨c, _, b, found, hb, registered, layout⟩
  · intro a b c hab hbc
    exact below.mpr ((below.mp hab).trans (below.mp hbc))
  · intro a b hab hba
    exact rooted.below_antisymm (below.mp hab) (below.mp hba)
  · intro id c found
    exact below.mpr (rooted.below_root found)
  · intro id c found slot common
    rw [consistent.answer_eq]
    exact standard.exists_lookup common found
  · intro spec id vm' registered
    obtain ⟨g, added, rfl⟩ := register_eq_ok registered
    obtain ⟨next, size⟩ := Hierarchy.size_register added
    exact ⟨next, size, fun k before => Hierarchy.get?_register_of_lt added before,
      fun a before b _ => Hierarchy.isSubclass_register rooted added before b⟩

end Vm

end SlotVM
