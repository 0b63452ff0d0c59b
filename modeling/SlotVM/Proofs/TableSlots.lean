import SlotVM.Module.Builder
import SlotVM.Proofs.ExactReading
import SlotVM.Proofs.StepCases

namespace SlotVM

/-- What a builder is asked to enter into a table. -/
inductive TableEntry where
  /-- A name that is added if it is not there. -/
  | name (t : String)
  /-- A name that is added in any case. -/
  | newName (t : String)
  | attr (t : String)
  | const (c : Const)

/-- The text has its first place in the list there. -/
def FirstAt (texts : List String) (i : Nat) (t : String) : Prop :=
  texts[i]? = some t ∧ ∀ j < i, texts[j]? ≠ some t

theorem getElem?_mono {α : Type} {xs ys : List α} (h : xs <+: ys) {i : Nat} {a : α}
    (found : xs[i]? = some a) : ys[i]? = some a := by
  obtain ⟨inside, rfl⟩ := List.getElem?_eq_some_iff.mp found
  exact List.prefix_iff_getElem?.mp h i inside

theorem FirstAt.mono {xs ys : List String} (h : xs <+: ys) {i : Nat} {t : String}
    (first : FirstAt xs i t) : FirstAt ys i t := by
  refine ⟨getElem?_mono h first.1, fun j before same => ?_⟩
  have inside : j < xs.length := Nat.lt_trans before (List.getElem?_eq_some_iff.mp first.1).1
  have own : ys[j]? = xs[j]? := by
    rw [List.prefix_iff_getElem?.mp h j inside, List.getElem?_eq_getElem inside]
  exact first.2 j before (own.symm.trans same)

theorem firstAt_of_idxOf? {texts : List String} {t : String} {i : Nat}
    (found : texts.idxOf? t = some i) : FirstAt texts i t := by
  obtain ⟨inside, same, others⟩ := List.idxOf?_eq_some_iff.mp found
  refine ⟨List.getElem?_eq_some_iff.mpr ⟨inside, same⟩, fun j before eq => ?_⟩
  exact others j before (List.getElem?_eq_some_iff.mp eq).2

theorem firstAt_append {texts : List String} {t : String} (new : t ∉ texts) :
    FirstAt (texts ++ [t]) texts.length t := by
  refine ⟨List.getElem?_concat_length, fun j before eq => new ?_⟩
  rw [List.getElem?_append_left before] at eq
  exact List.mem_of_getElem? eq

namespace Segment

/-- Enters into a table, with the place that the builder gives. -/
def enter (s : Segment) : TableEntry → Nat × Segment
  | .name t => ((s.internName t).1.toNat, (s.internName t).2)
  | .newName t => ((s.pushName t).1.toNat, (s.pushName t).2)
  | .attr t => ((s.internAttr t).1.toNat, (s.internAttr t).2)
  | .const c => ((s.addConst c).1.toNat, (s.addConst c).2)

def enterAll (s : Segment) (entries : List TableEntry) : Segment :=
  entries.foldl (fun s e => (s.enter e).2) s

/-- The place leads to what was entered, to the first one where equal entries share a place. -/
def Selects (s : Segment) (slot : Nat) : TableEntry → Prop
  | .name t => FirstAt s.names slot t
  | .newName t => s.names[slot]? = some t
  | .attr t => FirstAt s.attrs slot t
  | .const c => s.consts[slot]? = some c

/-- The tables have no more entries than a file can hold. -/
structure Countable (s : Segment) : Prop where
  names : s.names.length ≤ 65535
  attrs : s.attrs.length ≤ 65535
  consts : s.consts.length ≤ 65535

/-- A constant that is added is one of the 256 that an operand can lead to. -/
def Addressable (s : Segment) : TableEntry → Prop
  | .const _ => s.consts.length < 256
  | _ => True

/-- The tables of the second segment begin with those of the first one. -/
structure Begins (s t : Segment) : Prop where
  names : s.names <+: t.names
  attrs : s.attrs <+: t.attrs
  consts : s.consts <+: t.consts

variable {s t u : Segment} {slot : Nat} {e : TableEntry}

theorem begins_refl (s : Segment) : s.Begins s :=
  ⟨List.prefix_rfl, List.prefix_rfl, List.prefix_rfl⟩

theorem Begins.trans (h : s.Begins t) (h' : t.Begins u) : s.Begins u :=
  ⟨h.names.trans h'.names, h.attrs.trans h'.attrs, h.consts.trans h'.consts⟩

theorem Begins.countable (h : s.Begins t) (fits : t.Countable) : s.Countable :=
  ⟨Nat.le_trans h.names.length_le fits.names, Nat.le_trans h.attrs.length_le fits.attrs,
    Nat.le_trans h.consts.length_le fits.consts⟩

theorem Begins.selects (h : s.Begins t) (selects : s.Selects slot e) : t.Selects slot e := by
  cases e with
  | name => exact FirstAt.mono h.names selects
  | newName => exact getElem?_mono h.names selects
  | attr => exact FirstAt.mono h.attrs selects
  | const => exact getElem?_mono h.consts selects

theorem internName_cases (s : Segment) (text : String) :
    (∃ i, FirstAt s.names i text ∧ s.internName text = (UInt32.ofNat i, s)) ∨
      text ∉ s.names ∧ s.internName text = s.pushName text := by
  unfold internName
  cases found : s.names.idxOf? text with
  | some i => exact .inl ⟨i, firstAt_of_idxOf? found, rfl⟩
  | none => exact .inr ⟨List.idxOf?_eq_none_iff.mp found, rfl⟩

theorem internAttr_cases (s : Segment) (text : String) :
    (∃ i, FirstAt s.attrs i text ∧ s.internAttr text = (UInt16.ofNat i, s)) ∨
      text ∉ s.attrs ∧ s.internAttr text =
        (UInt16.ofNat s.attrs.length, { s with attrs := s.attrs ++ [text] }) := by
  unfold internAttr
  cases found : s.attrs.idxOf? text with
  | some i => exact .inl ⟨i, firstAt_of_idxOf? found, rfl⟩
  | none => exact .inr ⟨List.idxOf?_eq_none_iff.mp found, rfl⟩

theorem begins_enter (s : Segment) (e : TableEntry) : s.Begins (s.enter e).2 := by
  cases e with
  | name text =>
    change s.Begins (s.internName text).2
    rcases s.internName_cases text with ⟨i, -, eq⟩ | ⟨-, eq⟩ <;> rw [eq]
    · exact s.begins_refl
    · exact ⟨List.prefix_append _ _, List.prefix_rfl, List.prefix_rfl⟩
  | newName text => exact ⟨List.prefix_append _ _, List.prefix_rfl, List.prefix_rfl⟩
  | attr text =>
    change s.Begins (s.internAttr text).2
    rcases s.internAttr_cases text with ⟨i, -, eq⟩ | ⟨-, eq⟩ <;> rw [eq]
    · exact s.begins_refl
    · exact ⟨List.prefix_rfl, List.prefix_append _ _, List.prefix_rfl⟩
  | const c => exact ⟨List.prefix_rfl, List.prefix_rfl, List.prefix_append _ _⟩

theorem begins_enterAll (s : Segment) (entries : List TableEntry) :
    s.Begins (s.enterAll entries) := by
  induction entries generalizing s with
  | nil => exact s.begins_refl
  | cons e rest ih => exact (s.begins_enter e).trans (ih (s.enter e).2)

/-- The place of a constant is what eight bits hold of it. -/
theorem enter_const_fst (s : Segment) (c : Const) :
    (s.enter (.const c)).1 = s.consts.length % 256 := UInt8.toNat_ofNat

/-- As long as the tables can be counted, the place that is given leads to the entry. -/
theorem enter_selects (fits : s.Countable) (addressable : s.Addressable e) :
    (s.enter e).2.Selects (s.enter e).1 e := by
  -- Places have as many bits as the operands they are for; the counts keep them from wrapping.
  have names := fits.names
  have attrs := fits.attrs
  have size : UInt32.size = 4294967296 := rfl
  have size' : UInt16.size = 65536 := rfl
  have pushed : (UInt32.ofNat s.names.length).toNat = s.names.length :=
    UInt32.toNat_ofNat_of_lt' (by omega)
  cases e with
  | name text =>
    change FirstAt (s.internName text).2.names (s.internName text).1.toNat text
    rcases s.internName_cases text with ⟨i, first, eq⟩ | ⟨new, eq⟩ <;> rw [eq]
    · have inside := (List.getElem?_eq_some_iff.mp first.1).1
      have place : (UInt32.ofNat i).toNat = i := UInt32.toNat_ofNat_of_lt' (by omega)
      exact place.symm ▸ first
    · exact pushed.symm ▸ firstAt_append new
  | newName text =>
    change (s.names ++ [text])[(UInt32.ofNat s.names.length).toNat]? = some text
    rw [pushed]
    exact List.getElem?_concat_length
  | attr text =>
    change FirstAt (s.internAttr text).2.attrs (s.internAttr text).1.toNat text
    rcases s.internAttr_cases text with ⟨i, first, eq⟩ | ⟨new, eq⟩ <;> rw [eq]
    · have inside := (List.getElem?_eq_some_iff.mp first.1).1
      have place : (UInt16.ofNat i).toNat = i := UInt16.toNat_ofNat_of_lt' (by omega)
      exact place.symm ▸ first
    · have place : (UInt16.ofNat s.attrs.length).toNat = s.attrs.length :=
        UInt16.toNat_ofNat_of_lt' (by omega)
      exact place.symm ▸ firstAt_append new
  | const c =>
    rw [enter_const_fst, Nat.mod_eq_of_lt addressable]
    exact List.getElem?_concat_length

/-- The place that was given leads to the entry whatever is entered later. -/
theorem enterAll_selects (before after : List TableEntry)
    (fits : (s.enterAll (before ++ e :: after)).Countable)
    (addressable : (s.enterAll before).Addressable e) :
    (s.enterAll (before ++ e :: after)).Selects ((s.enterAll before).enter e).1 e := by
  have parts : s.enterAll (before ++ e :: after) =
      ((s.enterAll before).enter e).2.enterAll after := by
    unfold enterAll
    rw [List.foldl_append, List.foldl_cons]
  have later := begins_enterAll ((s.enterAll before).enter e).2 after
  rw [parts] at fits ⊢
  have counted := ((begins_enter _ e).trans later).countable fits
  exact later.selects (enter_selects counted addressable)

end Segment

theorem getElem?_of_constList? {values : List Value} {consts : List Const}
    (stand : constList? values = some consts) {i : Nat} {c : Const} (found : consts[i]? = some c) :
    ∃ v, values[i]? = some v ∧ v.const? = some c := by
  induction values generalizing consts i with
  | nil =>
    cases stand
    cases found
  | cons v rest ih =>
    simp only [constList?] at stand
    split at stand
    next k ks first others =>
      cases stand
      cases i with
      | zero => exact ⟨v, rfl, first.trans found⟩
      | succ i => exact ih others found
    next => cases stand

theorem code?_of_const? {v : Value} {s : Segment} (stands : v.const? = some (.code s)) :
    ∃ d, v.code? = some d ∧ d.segment? = some s := by
  cases v with
  | object o =>
    obtain ⟨id, cls, data⟩ := o
    cases data with
    | code c =>
      simp only [Value.const?, Object.const?, ObjectData.const?] at stands
      split at stands
      next =>
        obtain ⟨t, segment, eq⟩ := Option.map_eq_some_iff.mp stands
        cases eq
        exact ⟨c, rfl, segment⟩
      next => cases stands
    | text t =>
      simp only [Value.const?, Object.const?, ObjectData.const?] at stands
      split at stands <;> cases stands
    | plain | exception | method | fields => cases stands
  | int | float | error | unsupported | divByZero | iterStop => cases stands

namespace CodeObject

/-- The code object has the tables and the code of the segment. -/
structure TablesOf (d : CodeObject) (s : Segment) : Prop where
  names : d.names = s.names
  attrs : d.attrs = s.attrs
  consts : constList? d.consts = some s.consts
  bytecode : d.bytecode = s.code

/-- The place leads to what was entered; a constant has become the value that stands for it. -/
def Selects (d : CodeObject) (slot : Nat) : TableEntry → Prop
  | .name t => FirstAt d.names slot t
  | .newName t => d.names[slot]? = some t
  | .attr t => FirstAt d.attrs slot t
  | .const c => ∃ v, d.consts[slot]? = some v ∧ v.const? = some c

variable {c d : CodeObject} {s t : Segment}

theorem tablesOf_of_segment? (stands : d.segment? = some s) : d.TablesOf s := by
  obtain ⟨-, -, names, attrs, code, consts⟩ := segment?_eq_some_iff.mp stands
  exact ⟨names, attrs, consts, code⟩

theorem TablesOf.selects (tables : d.TablesOf s) {slot : Nat} {e : TableEntry}
    (selects : s.Selects slot e) : d.Selects slot e := by
  cases e with
  | name text =>
    change FirstAt d.names slot text
    rw [tables.names]
    exact selects
  | newName text =>
    change d.names[slot]? = some text
    rw [tables.names]
    exact selects
  | attr text =>
    change FirstAt d.attrs slot text
    rw [tables.attrs]
    exact selects
  | const => exact getElem?_of_constList? tables.consts selects

theorem TablesOf.within (tables : c.TablesOf s) {n : Nat} (within : t.Within n s) :
    ∃ d : CodeObject, d.Within n c ∧ d.TablesOf t := by
  induction within generalizing c with
  | here => exact ⟨c, .here, tables⟩
  | inside member _ ih =>
    obtain ⟨i, place⟩ := List.getElem?_of_mem member
    obtain ⟨v, found, stands⟩ := getElem?_of_constList? tables.consts place
    obtain ⟨e, code, segment⟩ := code?_of_const? stands
    obtain ⟨d, inside, tables'⟩ := ih (tablesOf_of_segment? segment)
    exact ⟨d, .inside (List.mem_of_getElem? found) code inside, tables'⟩

end CodeObject

theorem Machine.step_loadConst (env : Setting) {m : Machine} {f : Frame} {rest : List Frame}
    (frames : m.frames = f :: rest) {index : UInt8} {next : Nat} (at_ : f.At (.loadConst index) next)
    {v : Value} (found : f.code.consts[index.toNat]? = some v)
    (room : f.stack.size < env.config.maxStack) :
    m.step env = .running
      { m with frames := { f with pos := next, stack := f.stack.push v } :: rest } := by
  obtain ⟨_, store, output⟩ := m
  obtain rfl : _ = f :: rest := frames
  have acts : f.act env.host env.config env.hierarchy store =
      (.next { f with pos := next, stack := f.stack.push v }, store) := by
    have inside := at_.bounds
    have decoded : Instruction.decode f.code.bytecode f.pos = .ok (.loadConst index, next) := at_
    unfold Frame.act
    rw [if_neg (by omega), decoded]
    change (Frame.loadConst env.config { f with pos := next } index.toNat, store) = _
    unfold Frame.loadConst
    rw [found]
    change (Frame.push env.config { f with pos := next } v, store) = _
    unfold Frame.push Frame.push?
    rw [if_pos room]
  change apply env ⟨rest, (f.act env.host env.config env.hierarchy store).2, output⟩
    (f.act env.host env.config env.hierarchy store).1 = _
  rw [acts]
  rfl

namespace Segment

/-- The place given for an entry of a table leads to it from there on, also in the code that is
loaded. -/
theorem slots_lead_to_entries (s : Segment) (before after : List TableEntry) (e : TableEntry) :
    let slot := ((s.enterAll before).enter e).1
    let t := s.enterAll (before ++ e :: after)
    t.Countable → (s.enterAll before).Addressable e →
    t.Selects slot e ∧
    ∀ (vm : Vm) (code : Array UInt8) (m : Segment) (n : Nat),
      m.Encodable maxNesting → Within { t with code } n m →
      ∃ module vm', vm.load m.writeModule = .ok (module, vm') ∧
      ∃ d : CodeObject, d.Within n module ∧ d.bytecode = code ∧ d.Selects slot e ∧
        ∀ c, e = .const c → ∃ v, v.const? = some c ∧
          ∀ (env : Setting) (machine : Machine) (f : Frame) (rest : List Frame) (index : UInt8)
            (next : Nat), machine.frames = f :: rest → f.code = d →
            f.At (.loadConst index) next → index.toNat = slot →
            f.stack.size < env.config.maxStack →
            machine.step env = .running
              { machine with frames := { f with pos := next, stack := f.stack.push v } :: rest } := by
  intro slot t fits addressable
  have selects : t.Selects slot e := enterAll_selects before after fits addressable
  refine ⟨selects, fun vm code m n encodable within => ?_⟩
  have root : (Segment.load { m with name := moduleName } vm.hierarchy vm.store).1.TablesOf m := by
    have stands := load_segment? vm.hierarchy { m with name := moduleName } vm.store
    obtain ⟨names, attrs, consts, bytecode⟩ := CodeObject.tablesOf_of_segment? stands
    exact ⟨names, attrs, consts, bytecode⟩
  obtain ⟨d, inside, tables⟩ := root.within within
  have selects' : d.Selects slot e := by
    have finished : Segment.Selects { t with code } slot e := by
      cases e <;> exact selects
    exact tables.selects finished
  refine ⟨_, _, Vm.load_written vm encodable, d, inside, tables.bytecode, selects', ?_⟩
  rintro c rfl
  obtain ⟨v, found, stands⟩ := selects'
  refine ⟨v, stands, fun env machine f rest index next frames eq at_ place room => ?_⟩
  exact Machine.step_loadConst env frames at_ (by rw [eq, place]; exact found) room

/-- A text among the constants of a module that loads it. -/
theorem slots_lead_to_entries_text :
    let before := [TableEntry.name "x", .const (.int 5)]
    let after := [TableEntry.attr "length", .newName "x", .name "x"]
    let t := newModule.enterAll (before ++ .const (.str "né") :: after)
    let m : Segment := { t with code := #[0x33, 1] }
    let env := (Vm.new {}).setting .none
    t.Countable ∧ (newModule.enterAll before).Addressable (.const (.str "né")) ∧
    m.Encodable maxNesting ∧ t.Selects 1 (.const (.str "né")) ∧
    ∃ module vm', (Vm.new {}).load m.writeModule = .ok (module, vm') ∧
      ∃ v, v.const? = some (.str "né") ∧
        Machine.step env ⟨[⟨0, module, #[none, none], #[], 0⟩], vm'.store, #[]⟩ =
          .running ⟨[⟨0, module, #[none, none], #[v], 2⟩], vm'.store, #[]⟩ := by
  intro before after t m env
  have fits : t.Countable := by constructor <;> decide
  have addressable : (newModule.enterAll before).Addressable (.const (.str "né")) := by
    change 1 < 256
    decide
  have consts : m.consts = [.int 5, .str "né"] := rfl
  have encodable : m.Encodable maxNesting :=
    .of_below (by constructor <;> decide) (by simp [consts])
  obtain ⟨selects, loads⟩ := slots_lead_to_entries newModule before after _ fits addressable
  obtain ⟨module, vm', loaded, d, within, bytecode, -, pushes⟩ :=
    loads (Vm.new {}) #[0x33, 1] m 0 encodable .here
  cases within
  obtain ⟨v, stands, step⟩ := pushes _ rfl
  have decoded : Instruction.decode #[0x33, 1] 0 = .ok (.loadConst 1, 2) := rfl
  have at_ : (Frame.mk 0 module #[none, none] #[] 0).At (.loadConst 1) 2 := by
    change Instruction.decode module.bytecode 0 = _
    rw [bytecode]
    exact decoded
  exact ⟨fits, addressable, encodable, selects, module, vm', loaded, v, stands,
    step env _ _ [] 1 2 rfl rfl at_ rfl (Nat.zero_lt_succ _)⟩

theorem enterAll_consts (s : Segment) (consts : List Const) :
    (s.enterAll (consts.map .const)).names = s.names ∧
      (s.enterAll (consts.map .const)).attrs = s.attrs ∧
      (s.enterAll (consts.map .const)).consts = s.consts ++ consts := by
  induction consts generalizing s with
  | nil => exact ⟨rfl, rfl, (List.append_nil _).symm⟩
  | cons c rest ih =>
    obtain ⟨names, attrs, consts⟩ := ih (s.enter (.const c)).2
    exact ⟨names, attrs, consts.trans (List.append_assoc s.consts [c] rest)⟩

/-- The place of a constant after the first 256 is that of the first one, which is another one. -/
theorem slot_of_constant_beyond :
    let before := (List.replicate 256 (Const.int 0)).map TableEntry.const
    let slot := ((newModule.enterAll before).enter (.const (.int 1))).1
    let t := newModule.enterAll (before ++ [.const (.int 1)])
    t.Countable ∧ slot = 0 ∧ t.Selects slot (.const (.int 0)) ∧
      ¬ t.Selects slot (.const (.int 1)) := by
  intro before slot t
  obtain ⟨-, -, earlier⟩ := newModule.enterAll_consts (List.replicate 256 (Const.int 0))
  obtain ⟨names, attrs, consts⟩ :=
    newModule.enterAll_consts (List.replicate 256 (Const.int 0) ++ [Const.int 1])
  rw [List.map_append] at names attrs consts
  have place : slot = 0 := by
    have wrapped := enter_const_fst (newModule.enterAll before) (.int 1)
    rw [earlier, List.length_append, List.length_replicate] at wrapped
    exact wrapped
  have first : t.consts[slot]? = some (.int 0) := by
    rw [place]
    exact (congrArg (·[0]?) consts).trans rfl
  refine ⟨⟨?_, ?_, ?_⟩, place, first, fun same => ?_⟩
  · exact Nat.le_trans (Nat.le_of_eq (congrArg List.length names)) (Nat.zero_le _)
  · exact Nat.le_trans (Nat.le_of_eq (congrArg List.length attrs)) (Nat.zero_le _)
  · refine Nat.le_trans (Nat.le_of_eq (congrArg List.length consts)) ?_
    rw [List.length_append, List.length_append, List.length_replicate]
    decide
  · cases first.symm.trans same

end Segment

end SlotVM
