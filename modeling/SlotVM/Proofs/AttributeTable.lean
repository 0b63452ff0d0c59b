import SlotVM.Proofs.DictMap
import SlotVM.Proofs.SlotCache

namespace SlotVM

namespace ClassSpec

variable {c : ClassSpec} {d d' : Dict AttrEntry} {entry : Nat → AttrEntry}

theorem enterNames_cons {cls name : String} {index : Nat} {rest : List String}
    (valid : d.Valid)
    (entered : enterNames cls entry index (name :: rest) d = .ok d') :
    d.get? name = none ∧
      enterNames cls entry (index + 1) rest (d.put name (entry index)).2 = .ok d' := by
  rw [enterNames] at entered
  split at entered
  next => cases entered
  next next eq =>
    have absent := valid.put_fst name (entry index)
    rw [eq] at absent ⊢
    exact ⟨absent.symm, entered⟩

theorem new_of_put (valid : d.Valid) {first : String} {e : AttrEntry} {names : List String}
    (fresh : ∀ name ∈ names, (d.put first e).2.get? name = none) :
    first ∉ names ∧ ∀ name ∈ names, d.get? name = none := by
  have differ : first ∉ names := by
    intro again
    have gone := fresh first again
    rw [valid.get?_put, if_pos rfl] at gone
    cases gone
  refine ⟨differ, fun name member => ?_⟩
  have gone := fresh name member
  rwa [valid.get?_put, if_neg (ne_of_mem_of_not_mem member differ)] at gone

/-- Names that were entered were new and distinct, and each leads to its place. -/
theorem enterNames_eq_ok {cls : String} {names : List String} {index : Nat} (valid : d.Valid)
    (entered : enterNames cls entry index names d = .ok d') :
    d'.Valid ∧ names.Nodup ∧ (∀ name ∈ names, d.get? name = none) ∧
      (∀ i name, names[i]? = some name → d'.get? name = some (entry (index + i))) ∧
      ∀ name, name ∉ names → d'.get? name = d.get? name := by
  induction names generalizing index d with
  | nil =>
    cases entered
    exact ⟨valid, List.nodup_nil, nofun, nofun, fun _ _ => rfl⟩
  | cons first rest ih =>
    obtain ⟨absent, later⟩ := enterNames_cons valid entered
    obtain ⟨valid', nodup, fresh, places, others⟩ := ih (valid.put first (entry index)) later
    obtain ⟨alone, fresh⟩ := new_of_put valid fresh
    refine ⟨valid', List.nodup_cons.mpr ⟨alone, nodup⟩, List.forall_mem_cons.mpr ⟨absent, fresh⟩,
      fun i name named => ?_, fun name outside => ?_⟩
    · cases i with
      | zero =>
        cases named
        rw [others first alone, valid.get?_put, if_pos rfl, Nat.add_zero]
      | succ i => rw [places i name named, Nat.add_assoc, Nat.add_comm 1]
    · rw [List.mem_cons, not_or] at outside
      rw [others name outside.2, valid.get?_put, if_neg outside.1]

/-- What cannot be entered is the first name that leads somewhere already. -/
theorem enterNames_eq_error {cls : String} {names : List String} {index : Nat} {fault : Fault}
    (valid : d.Valid) (failed : enterNames cls entry index names d = .error fault) :
    ∃ before name rest, names = before ++ name :: rest ∧
      fault = .duplicateAttribute cls name ∧ before.Nodup ∧
      (∀ earlier ∈ before, d.get? earlier = none) ∧ (name ∈ before ∨ d.get? name ≠ none) := by
  induction names generalizing index d with
  | nil => cases failed
  | cons first rest ih =>
    have came := valid.put_fst first (entry index)
    rw [enterNames] at failed
    split at failed
    next old _ eq =>
      cases failed
      rw [eq] at came
      exact ⟨[], first, rest, rfl, rfl, List.nodup_nil, nofun, .inr (came ▸ nofun)⟩
    next next eq =>
      obtain rfl : (d.put first (entry index)).2 = next := congrArg Prod.snd eq
      obtain ⟨before, name, after, rfl, rfl, nodup, fresh, present⟩ :=
        ih (valid.put first (entry index)) failed
      obtain ⟨alone, fresh⟩ := new_of_put valid fresh
      have absent : d.get? first = none := came.symm.trans (congrArg Prod.fst eq)
      refine ⟨first :: before, name, after, rfl, rfl, List.nodup_cons.mpr ⟨alone, nodup⟩,
        List.forall_mem_cons.mpr ⟨absent, fresh⟩, ?_⟩
      rw [valid.get?_put] at present
      rcases present with again | present
      · exact .inl (List.mem_cons_of_mem _ again)
      · split at present
        next same => exact .inl (same ▸ List.mem_cons_self)
        next => exact .inr present

theorem disjoint_of_get? {names names' : List String}
    (places : ∀ i name, names[i]? = some name → d.get? name = some (entry i))
    (fresh : ∀ name ∈ names', d.get? name = none) : names.Disjoint names' := by
  intro name member again
  obtain ⟨i, named⟩ := List.mem_iff_getElem?.mp member
  cases (places i name named).symm.trans (fresh name again)

theorem members_entered (first : enterNames c.name .member 0 (c.members.map (·.name)) .empty = .ok d) :
    d.Valid ∧ (c.members.map (·.name)).Nodup ∧
      (∀ i name, (c.members.map (·.name))[i]? = some name → d.get? name = some (.member i)) ∧
      ∀ name, name ∉ c.members.map (·.name) → d.get? name = none := by
  obtain ⟨valid, nodup, -, places, others⟩ := enterNames_eq_ok Dict.empty_valid first
  refine ⟨valid, nodup, fun i name named => ?_, fun name outside => ?_⟩
  · rw [places i name named, Nat.zero_add]
  · rw [others name outside, Dict.get?_empty]

/-- The names of all attributes, those of the members first. -/
def attrNames (c : ClassSpec) : List String := c.members.map (·.name) ++ c.methods.map (·.name)

theorem mem_attrNames {name : String} (inside : name ∈ c.attrNames) :
    (∃ (i : Nat) (m : Member), c.members[i]? = some m ∧ m.name = name) ∨
      ∃ (i : Nat) (m : MethodEntry), c.methods[i]? = some m ∧ m.name = name := by
  rcases List.mem_append.mp inside with member | method
  · obtain ⟨m, member, named⟩ := List.mem_map.mp member
    obtain ⟨i, at_⟩ := List.mem_iff_getElem?.mp member
    exact .inl ⟨i, m, at_, named⟩
  · obtain ⟨m, method, named⟩ := List.mem_map.mp method
    obtain ⟨i, at_⟩ := List.mem_iff_getElem?.mp method
    exact .inr ⟨i, m, at_, named⟩

/-- A dictionary that was made leads every name to its place, and no other name anywhere. -/
theorem attrDict_eq_ok (entered : c.attrDict = .ok d) :
    c.attrNames.Nodup ∧ (∀ i m, c.members[i]? = some m → d.get? m.name = some (.member i)) ∧
      (∀ i m, c.methods[i]? = some m → d.get? m.name = some (.method i)) ∧
      ∀ name, name ∉ c.attrNames → d.get? name = none := by
  unfold attrDict at entered
  split at entered
  next => cases entered
  next d₁ first =>
    obtain ⟨valid, nodup, members, others⟩ := members_entered first
    obtain ⟨-, nodup', fresh, methods, others'⟩ := enterNames_eq_ok valid entered
    have apart := disjoint_of_get? members fresh
    refine ⟨List.nodup_append'.mpr ⟨nodup, nodup', apart⟩, fun i m at_ => ?_, fun i m at_ => ?_,
      fun name outside => ?_⟩
    · have named : (c.members.map (·.name))[i]? = some m.name := by
        rw [List.getElem?_map, at_, Option.map_some]
      rw [others' _ (apart (List.mem_of_getElem? named)), members i _ named]
    · have named : (c.methods.map (·.name))[i]? = some m.name := by
        rw [List.getElem?_map, at_, Option.map_some]
      rw [methods i _ named, Nat.zero_add]
    · rw [attrNames, List.mem_append, not_or] at outside
      rw [others' name outside.2, others name outside.1]

/-- No dictionary is made where a name stands again; the first such name is at fault. -/
theorem attrDict_eq_error {fault : Fault} (failed : c.attrDict = .error fault) :
    ∃ before name rest, c.attrNames = before ++ name :: rest ∧
      fault = .duplicateAttribute c.name name ∧ before.Nodup ∧ name ∈ before := by
  unfold attrDict at failed
  split at failed
  next _ first =>
    cases failed
    obtain ⟨before, name, rest, parts, rfl, nodup, -, present⟩ :=
      enterNames_eq_error Dict.empty_valid first
    rw [Dict.get?_empty] at present
    refine ⟨before, name, rest ++ c.methods.map (·.name), ?_, rfl, nodup,
      present.resolve_right (absurd rfl)⟩
    rw [attrNames, parts, List.append_assoc, List.cons_append]
  next d₁ first =>
    obtain ⟨valid, nodup, members, others⟩ := members_entered first
    obtain ⟨before, name, rest, parts, rfl, nodup', fresh, present⟩ :=
      enterNames_eq_error valid failed
    refine ⟨c.members.map (·.name) ++ before, name, rest, ?_, rfl,
      List.nodup_append'.mpr ⟨nodup, nodup', disjoint_of_get? members fresh⟩,
      List.mem_append.mpr ?_⟩
    · rw [attrNames, parts, List.append_assoc]
    · rcases present with again | present
      · exact .inr again
      · exact .inl (Classical.byContradiction fun outside => present (others name outside))

theorem attrDict_get? (entered : c.attrDict = .ok d) {name : String} {e : AttrEntry}
    (found : d.get? name = some e) :
    (∃ i m, e = .member i ∧ c.members[i]? = some m ∧ m.name = name) ∨
      ∃ i m, e = .method i ∧ c.methods[i]? = some m ∧ m.name = name := by
  obtain ⟨-, members, methods, others⟩ := attrDict_eq_ok entered
  have named : name ∈ c.attrNames := Classical.byContradiction fun outside => by
    rw [others name outside] at found
    cases found
  rcases mem_attrNames named with ⟨i, m, at_, rfl⟩ | ⟨i, m, at_, rfl⟩
  · cases (members i m at_).symm.trans found
    exact .inl ⟨i, m, rfl, at_, rfl⟩
  · cases (methods i m at_).symm.trans found
    exact .inr ⟨i, m, rfl, at_, rfl⟩

/-- Only a name that no member and no method has leads nowhere. -/
theorem attrDict_get?_eq_none_iff (entered : c.attrDict = .ok d) {name : String} :
    d.get? name = none ↔ name ∉ c.attrNames := by
  obtain ⟨-, members, methods, others⟩ := attrDict_eq_ok entered
  refine ⟨fun none inside => ?_, others name⟩
  rcases mem_attrNames inside with ⟨i, m, at_, rfl⟩ | ⟨i, m, at_, rfl⟩
  · cases (members i m at_).symm.trans none
  · cases (methods i m at_).symm.trans none

end ClassSpec

namespace Hierarchy

variable {g h : Hierarchy}

/-- Every class of the table has the dictionary that its members and methods make. -/
def Entered (h : Hierarchy) : Prop :=
  ∀ id c, h.get? id = some c → c.toClassSpec.attrDict = .ok c.attrs

theorem Entered.register (entered : h.Entered) {spec : ClassSpec} {id : ClassId}
    (registered : h.register spec = .ok (id, g)) : g.Entered := by
  obtain ⟨-, -, settled, attrs, -, made, rfl⟩ := register_eq_ok_iff.mp registered
  intro k c found
  rw [get?_push] at found
  split at found
  next =>
    cases found
    exact made
  next => exact entered k c found

theorem settle_of_based {spec : ClassSpec}
    (based : (h.get? (spec.base.getD .object)).isSome = true) : ∃ layout,
    h.settle h.size spec = .ok { spec with base := some (spec.base.getD .object), layout } := by
  obtain ⟨b, found⟩ := Option.isSome_iff_exists.mp based
  have notRoot : h.size ≠ ClassId.object := Nat.ne_of_gt (Nat.zero_lt_of_lt (get?_lt_size found))
  unfold settle
  rw [if_neg notRoot]
  dsimp only
  rw [found]
  exact ⟨_, rfl⟩

theorem register_of_based {spec : ClassSpec} (room : h.size < maxClasses)
    (based : (h.get? (spec.base.getD .object)).isSome = true) : ∃ base layout,
    h.register spec = spec.attrDict.map fun attrs =>
      (h.size, ⟨h.classes.push { spec with base, layout, attrs }⟩) := by
  obtain ⟨layout, settled⟩ := settle_of_based based
  refine ⟨some (spec.base.getD .object), layout, ?_⟩
  have same : ClassSpec.attrDict { spec with base := some (spec.base.getD .object), layout } =
      spec.attrDict := rfl
  simp only [register, if_neg (Nat.not_le.mpr room), settled, bind, Except.bind, same]
  cases spec.attrDict <;> rfl

end Hierarchy

namespace Vm

/-- A class is refused just where two of its members and methods share a name; otherwise each name
leads to the one that has it. -/
theorem attributes_of_names (vm : Vm) (spec : ClassSpec)
    (room : vm.hierarchy.size < Hierarchy.maxClasses)
    (based : (vm.hierarchy.get? (spec.base.getD .object)).isSome = true) :
    let r := vm.register spec
    ((∃ fault, r.1 = .error fault) ↔ ¬ spec.attrNames.Nodup) ∧
    (∀ fault, r.1 = .error fault → r.2 = vm ∧ fault.kind = .fatal ∧
      ∃ before name rest, spec.attrNames = before ++ name :: rest ∧ before.Nodup ∧
        name ∈ before ∧ fault = .duplicateAttribute spec.name name) ∧
    ∀ id, r.1 = .ok id → ∃ c : Class, c.members = spec.members ∧ c.methods = spec.methods ∧
      (∀ requests, (r.2.serveAll requests).hierarchy.get? id = some c) ∧
      ∀ name,
        (∀ i, c.attr? name = some (.member i) ↔
          ∃ m, spec.members[i]? = some m ∧ m.name = name) ∧
        (∀ j, c.attr? name = some (.method j) ↔
          ∃ m, spec.methods[j]? = some m ∧ m.name = name) ∧
        (c.attr? name = none ↔ name ∉ spec.attrNames) := by
  intro r
  obtain ⟨base, layout, registered⟩ := Hierarchy.register_of_based room based
  cases entered : spec.attrDict with
  | error fault =>
    rw [entered] at registered
    have refused : r = (.error fault, vm) := by
      show vm.register spec = _
      rw [register, registered]
      rfl
    obtain ⟨before, name, rest, parts, rfl, nodup, again⟩ := ClassSpec.attrDict_eq_error entered
    rw [refused]
    refine ⟨⟨fun _ distinct => ?_, fun _ => ⟨_, rfl⟩⟩, ?_, nofun⟩
    · rw [parts] at distinct
      exact List.disjoint_of_nodup_append distinct again List.mem_cons_self
    · rintro _ ⟨⟩
      exact ⟨rfl, rfl, before, name, rest, parts, nodup, again, rfl⟩
  | ok attrs =>
    rw [entered] at registered
    obtain ⟨distinct, members, methods, -⟩ := ClassSpec.attrDict_eq_ok entered
    let c : Class := { spec with base, layout, attrs }
    have accepted : r = (.ok vm.hierarchy.size,
        { vm with hierarchy := ⟨vm.hierarchy.classes.push c⟩ }) := by
      show vm.register spec = _
      rw [register, registered]
      rfl
    rw [accepted]
    refine ⟨⟨nofun, fun clash => absurd distinct clash⟩, nofun, ?_⟩
    rintro _ ⟨⟩
    refine ⟨c, rfl, rfl, fun requests => ?_, fun name => ⟨fun i => ⟨fun found => ?_, ?_⟩,
      fun j => ⟨fun found => ?_, ?_⟩, ClassSpec.attrDict_get?_eq_none_iff entered⟩⟩
    · refine serveAll_keeps (fun found _ _ later => Hierarchy.extends_of_register later _ _ found) _
        ?_ requests
      rw [Hierarchy.get?_push, if_pos rfl]
    · rcases ClassSpec.attrDict_get? entered found with ⟨k, m, ⟨⟩, at_, named⟩ | ⟨_, _, ⟨⟩, _⟩
      exact ⟨m, at_, named⟩
    · rintro ⟨m, at_, rfl⟩
      exact members i m at_
    · rcases ClassSpec.attrDict_get? entered found with ⟨_, _, ⟨⟩, _⟩ | ⟨k, m, ⟨⟩, at_, named⟩
      exact ⟨m, at_, named⟩
    · rintro ⟨m, at_, rfl⟩
      exact methods j m at_

/-- A member and a method whose names have one hash. -/
def colliding : ClassSpec where
  name := "Pair"
  layout := .fields
  members := [{ name := "Aa", kind := .int, index := 0 }]
  methods := [⟨"BB", .host 0⟩]

theorem attributes_of_names_colliding :
    let vm := Vm.new {}
    let r := vm.register colliding
    Dict.keyHash "Aa" = Dict.keyHash "BB" ∧ vm.hierarchy.size < Hierarchy.maxClasses ∧
      (vm.hierarchy.get? (colliding.base.getD .object)).isSome = true ∧
      colliding.attrNames.Nodup ∧ ∃ id c, r.1 = .ok id ∧
        (∀ requests, (r.2.serveAll requests).hierarchy.get? id = some c) ∧
        c.attr? "Aa" = some (.member 0) ∧ c.attr? "BB" = some (.method 0) := by
  intro vm r
  have room : vm.hierarchy.size < Hierarchy.maxClasses := by decide +kernel
  have based : (vm.hierarchy.get? (colliding.base.getD .object)).isSome = true := by decide +kernel
  have distinct : colliding.attrNames.Nodup := by decide
  obtain ⟨refused, -, registered⟩ := attributes_of_names vm colliding room based
  refine ⟨by decide +kernel, room, based, distinct, ?_⟩
  cases result : r.1 with
  | error fault => exact absurd distinct (refused.mp ⟨fault, result⟩)
  | ok id =>
    obtain ⟨c, -, -, stays, leads⟩ := registered id result
    exact ⟨id, c, rfl, stays, ((leads "Aa").1 0).mpr ⟨_, rfl, rfl⟩,
      ((leads "BB").2.1 0).mpr ⟨_, rfl, rfl⟩⟩

end Vm

end SlotVM
