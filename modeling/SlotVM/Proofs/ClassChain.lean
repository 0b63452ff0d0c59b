import SlotVM.Builtin.Class

namespace SlotVM.Hierarchy

/-- Only the root has no base; the base of any other class was registered before the class. -/
structure Rooted (h : Hierarchy) : Prop where
  root : ∀ c, h.get? .object = some c → c.base = none
  based : ∀ id c, h.get? id = some c → id ≠ .object → ∃ b, c.base = some b ∧ b < id

/-- The table `g` has the classes of `h` under the same numbers. -/
def Extends (g h : Hierarchy) : Prop := ∀ id c, h.get? id = some c → g.get? id = some c

/-- The function `f` is that of the first class with one for the slot, from a class up the bases. -/
inductive Provides (h : Hierarchy) (slot : Slot) (f : Native slot.signature) : ClassId → Prop
  | own {id : ClassId} {c : Class} :
      h.get? id = some c → c.slots slot = some f → Provides h slot f id
  | inherited {id base : ClassId} {c : Class} : h.get? id = some c → c.slots slot = none →
      c.base = some base → Provides h slot f base → Provides h slot f id

theorem Extends.refl (h : Hierarchy) : h.Extends h := fun _ _ found => found

theorem Extends.trans {f g h : Hierarchy} (fg : f.Extends g) (gh : g.Extends h) : f.Extends h :=
  fun id c found => fg id c (gh id c found)

theorem get?_lt_size {h : Hierarchy} {id : ClassId} {c : Class} (found : h.get? id = some c) :
    id < h.size :=
  (Array.getElem?_eq_some_iff.mp found).1

theorem get?_push (h : Hierarchy) (c : Class) (id : ClassId) :
    get? ⟨h.classes.push c⟩ id = if id = h.size then some c else h.get? id :=
  Array.getElem?_push

theorem extends_push (h : Hierarchy) (c : Class) : Extends ⟨h.classes.push c⟩ h := by
  intro id k found
  have bound := get?_lt_size found
  rw [get?_push, if_neg (Nat.ne_of_lt bound), found]

theorem Rooted.base_lt {h : Hierarchy} (rooted : h.Rooted) {id base : ClassId} {c : Class}
    (found : h.get? id = some c) (hb : c.base = some base) : base < id := by
  by_cases root : id = .object
  · subst root
    rw [rooted.root c found] at hb
    cases hb
  · obtain ⟨b, eq, lt⟩ := rooted.based id c found root
    rw [hb] at eq
    cases eq
    exact lt

theorem base?_eq {h : Hierarchy} (rooted : h.Rooted) (id : ClassId) :
    h.base? id = (h.get? id).bind (·.base) := by
  unfold base?
  cases found : h.get? id with
  | none => rfl
  | some c =>
    cases hb : c.base with
    | none => simp [hb]
    | some base => simp [hb, rooted.base_lt found hb]

theorem chain_eq {h : Hierarchy} (rooted : h.Rooted) (id : ClassId) :
    h.chain id = match (h.get? id).bind (·.base) with
      | some base => id :: h.chain base
      | none => [id] := by
  rw [chain]
  split
  next base hb => rw [base?_eq rooted] at hb; simp [hb]
  next hb => rw [base?_eq rooted] at hb; simp [hb]

theorem lookup_unregistered {h : Hierarchy} (rooted : h.Rooted) {id : ClassId} (slot : Slot)
    (missing : h.get? id = none) : h.lookup id slot = none := by
  simp [lookup, chain_eq rooted, missing]

theorem lookup_own {h : Hierarchy} (rooted : h.Rooted) {id : ClassId} {c : Class} {slot : Slot}
    {f : Native slot.signature} (found : h.get? id = some c) (hs : c.slots slot = some f) :
    h.lookup id slot = some f := by
  rw [lookup, chain_eq rooted]
  split <;> simp [found, hs]

theorem lookup_inherited {h : Hierarchy} (rooted : h.Rooted) {id base : ClassId} {c : Class}
    {slot : Slot} (found : h.get? id = some c) (hs : c.slots slot = none)
    (hb : c.base = some base) : h.lookup id slot = h.lookup base slot := by
  rw [lookup, chain_eq rooted, lookup]
  simp [found, hs, hb]

theorem lookup_root {h : Hierarchy} (rooted : h.Rooted) {id : ClassId} {c : Class}
    {slot : Slot} (found : h.get? id = some c) (hs : c.slots slot = none)
    (hb : c.base = none) : h.lookup id slot = none := by
  rw [lookup, chain_eq rooted]
  simp [found, hs, hb]

/-- The search finds what the first class on the chain provides. -/
theorem lookup_eq_some_iff {h : Hierarchy} (rooted : h.Rooted) {id : ClassId} {slot : Slot}
    {f : Native slot.signature} : h.lookup id slot = some f ↔ h.Provides slot f id := by
  constructor
  · intro hl
    induction id using Nat.strongRecOn with
    | ind id ih =>
      cases found : h.get? id with
      | none => rw [lookup_unregistered rooted slot found] at hl; cases hl
      | some c =>
        cases hs : c.slots slot with
        | some g =>
          rw [lookup_own rooted found hs] at hl
          exact .own found (hs.trans hl)
        | none =>
          cases hb : c.base with
          | none => rw [lookup_root rooted found hs hb] at hl; cases hl
          | some base =>
            rw [lookup_inherited rooted found hs hb] at hl
            exact .inherited found hs hb (ih base (rooted.base_lt found hb) hl)
  · intro provides
    induction provides with
    | own found hs => exact lookup_own rooted found hs
    | inherited found hs hb _ ih => rw [lookup_inherited rooted found hs hb, ih]

theorem lookup_below_root {h : Hierarchy} (rooted : h.Rooted) {id : ClassId} {c root : Class}
    (found : h.get? id = some c) (hb : c.base = some .object)
    (top : h.get? .object = some root) (slot : Slot) :
    h.lookup id slot = (c.slots slot).or (root.slots slot) := by
  cases hs : c.slots slot with
  | some f => rw [lookup_own rooted found hs, Option.some_or]
  | none =>
    rw [lookup_inherited rooted found hs hb, Option.none_or]
    cases hr : root.slots slot with
    | some f => exact lookup_own rooted top hr
    | none => exact lookup_root rooted top hr (rooted.root root top)

theorem Provides.mono {g h : Hierarchy} (ext : g.Extends h) {slot : Slot}
    {f : Native slot.signature} {id : ClassId} (provides : h.Provides slot f id) :
    g.Provides slot f id := by
  induction provides with
  | own found hs => exact .own (ext _ _ found) hs
  | inherited found hs hb _ ih => exact .inherited (ext _ _ found) hs hb ih

/-- What a search finds is found in every larger table too. -/
theorem lookup_mono {g h : Hierarchy} (rooted : h.Rooted) (rooted' : g.Rooted) (ext : g.Extends h)
    {id : ClassId} {slot : Slot} {f : Native slot.signature} (found : h.lookup id slot = some f) :
    g.lookup id slot = some f := by
  have provides := (lookup_eq_some_iff rooted).mp found
  exact (lookup_eq_some_iff rooted').mpr (provides.mono ext)

theorem register_eq_ok_iff {h g : Hierarchy} {spec : ClassSpec} {id : ClassId} :
    h.register spec = .ok (id, g) ↔
      h.size < maxClasses ∧ id = h.size ∧ ∃ settled attrs,
        h.settle h.size spec = .ok settled ∧ settled.attrDict = .ok attrs ∧
          g = ⟨h.classes.push { settled with attrs }⟩ := by
  unfold register
  by_cases full : maxClasses ≤ h.size
  · simp [full, bind, Except.bind, throw, throwThe, MonadExceptOf.throw, Nat.not_lt.mpr full]
  · have room : h.size < maxClasses := Nat.lt_of_not_le full
    cases hs : h.settle h.size spec with
    | error fault => simp [full, hs, bind, Except.bind]
    | ok settled =>
      cases ha : settled.attrDict with
      | error fault => simp [full, hs, ha, bind, Except.bind]
      | ok attrs =>
        simp only [full, hs, ha, room, bind, Except.bind, pure, Except.pure]
        constructor
        · intro eq
          cases eq
          exact ⟨trivial, rfl, settled, attrs, rfl, ha, rfl⟩
        · rintro ⟨-, rfl, settled', attrs', eq, ha', rfl⟩
          cases eq
          rw [ha] at ha'
          cases ha'
          rfl

theorem settle_eq_ok {h : Hierarchy} {spec settled : ClassSpec} {id : ClassId}
    (hs : h.settle id spec = .ok settled) :
    settled.slots = spec.slots ∧
      ((id = .object ∧ settled.base = none) ∨
        (id ≠ .object ∧ settled.base = some (spec.base.getD .object) ∧
          (h.get? (spec.base.getD .object)).isSome)) := by
  unfold settle at hs
  split at hs
  next root =>
    cases hs
    exact ⟨rfl, .inl ⟨root, rfl⟩⟩
  next notRoot =>
    dsimp only at hs
    split at hs
    next => cases hs
    next b found =>
      cases hs
      exact ⟨rfl, .inr ⟨notRoot, rfl, by simp [found]⟩⟩

theorem extends_of_register {h g : Hierarchy} {spec : ClassSpec} {id : ClassId}
    (registered : h.register spec = .ok (id, g)) : g.Extends h := by
  obtain ⟨-, -, settled, attrs, -, -, rfl⟩ := register_eq_ok_iff.mp registered
  exact extends_push h _

theorem Rooted.register {h g : Hierarchy} (rooted : h.Rooted) {spec : ClassSpec} {id : ClassId}
    (registered : h.register spec = .ok (id, g)) : g.Rooted := by
  obtain ⟨-, -, settled, attrs, hs, -, rfl⟩ := register_eq_ok_iff.mp registered
  obtain ⟨-, hb⟩ := settle_eq_ok hs
  constructor
  · intro c found
    rw [get?_push] at found
    split at found
    next new =>
      cases found
      rcases hb with ⟨-, none⟩ | ⟨notRoot, -, -⟩
      · exact none
      · exact absurd new.symm notRoot
    next => exact rooted.root c found
  · intro k c found notRoot
    rw [get?_push] at found
    split at found
    next new =>
      cases found
      rcases hb with ⟨root, -⟩ | ⟨-, base, present⟩
      · exact absurd (new.trans root) notRoot
      · obtain ⟨b, hb⟩ := Option.isSome_iff_exists.mp present
        have bound := get?_lt_size hb
        exact ⟨_, base, new ▸ bound⟩
    next => exact rooted.based k c found notRoot

theorem empty_rooted : empty.Rooted := by
  constructor
  · intro c found
    cases found
  · intro id c found
    cases found

theorem registerAll_keeps {P : Hierarchy → Prop}
    (kept : ∀ {h g : Hierarchy}, P h → ∀ {spec : ClassSpec} {id : ClassId},
      h.register spec = .ok (id, g) → P g)
    {h : Hierarchy} (holds : P h) (specs : List ClassSpec) : P (h.registerAll specs) := by
  induction specs generalizing h with
  | nil => exact holds
  | cons spec specs ih =>
    simp only [Hierarchy.registerAll, List.foldl_cons] at ih ⊢
    cases registered : h.register spec with
    | error fault => exact ih holds
    | ok result => exact ih (kept holds registered)

theorem Rooted.registerAll {h : Hierarchy} (rooted : h.Rooted) (specs : List ClassSpec) :
    (h.registerAll specs).Rooted := registerAll_keeps Rooted.register rooted specs

/-- A table that registration builds on that of the built-in classes. -/
structure Standard (h : Hierarchy) : Prop where
  rooted : h.Rooted
  extends_builtin : h.Extends builtin

theorem builtin_standard : builtin.Standard := ⟨empty_rooted.registerAll _, .refl _⟩

theorem Standard.register {h g : Hierarchy} (standard : h.Standard) {spec : ClassSpec}
    {id : ClassId} (registered : h.register spec = .ok (id, g)) : g.Standard :=
  ⟨standard.rooted.register registered,
    (extends_of_register registered).trans standard.extends_builtin⟩

end SlotVM.Hierarchy
