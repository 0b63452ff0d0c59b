import SlotVM.Proofs.ModuleRoundTrip

namespace SlotVM

namespace Reader

variable {α β : Type}

/-- Whenever the reader succeeds, the bytes that it takes and its result are in this relation. -/
def Takes (r : Reader α) (taken : List UInt8 → α → Prop) : Prop :=
  ∀ bytes a rest, r bytes = .ok (a, rest) → ∃ front, bytes = front ++ rest ∧ taken front a

theorem bind_eq_ok {r : Reader α} {f : α → Reader β} {bytes rest : List UInt8} {b : β} :
    (r >>= f) bytes = .ok (b, rest) ↔
      ∃ a middle, r bytes = .ok (a, middle) ∧ f a middle = .ok (b, rest) := by
  change (r bytes).bind (fun p => f p.1 p.2) = .ok (b, rest) ↔ _
  cases r bytes with
  | error e => simp [Except.bind]
  | ok p => simp [Except.bind, Prod.ext_iff, and_assoc]

theorem Takes.pure {taken : List UInt8 → α → Prop} {a : α} (h : taken [] a) :
    Takes (pure a) taken := by
  intro bytes b rest ok
  cases ok
  exact ⟨[], rfl, h⟩

theorem Takes.fail (cause : Fault) (taken : List UInt8 → α → Prop) :
    (Reader.fail cause : Reader α).Takes taken := fun _ _ _ ok => nomatch ok

/-- What the second reader takes follows what the first one took. -/
theorem Takes.bind {r : Reader α} {f : α → Reader β} {taken : List UInt8 → α → Prop}
    {taken' : List UInt8 → β → Prop} (hr : r.Takes taken)
    (hf : ∀ front a, taken front a → (f a).Takes fun more b => taken' (front ++ more) b) :
    (r >>= f).Takes taken' := by
  intro bytes b rest ok
  obtain ⟨a, middle, first, later⟩ := bind_eq_ok.mp ok
  obtain ⟨front, rfl, ha⟩ := hr bytes a middle first
  obtain ⟨more, rfl, hb⟩ := hf front a ha middle b rest later
  exact ⟨front ++ more, (List.append_assoc _ _ _).symm, hb⟩

theorem take_takes (n : Nat) :
    (take n).Takes fun front bytes => front = bytes ∧ bytes.length = n := by
  intro bytes a rest ok
  simp only [take] at ok
  split at ok
  next => cases ok
  next enough =>
    cases ok
    have length : (bytes.take n).length = n := by
      rw [List.length_take] at enough ⊢
      omega
    exact ⟨bytes.take n, (List.take_append_drop n bytes).symm, rfl, length⟩

theorem byte_takes : byte.Takes fun front b => front = [b] := by
  intro bytes a rest ok
  cases bytes with
  | nil => cases ok
  | cons b others => cases ok; exact ⟨[a], rfl, rfl⟩

theorem word_takes (width : Nat) :
    (word width).Takes fun front n => front = littleEndian width n ∧ n < 256 ^ width := by
  refine (take_takes width).bind fun front bytes ⟨same, length⟩ => .pure ?_
  subst same length
  rw [List.append_nil]
  exact ⟨(littleEndian_ofLittleEndian front).symm, ofLittleEndian_lt front⟩

theorem expect_takes (marker : UInt8) : (expect marker).Takes fun front _ => front = [marker] := by
  refine byte_takes.bind fun front b same => ?_
  split
  next => exact .fail _ _
  next equal =>
    replace equal := Decidable.not_not.mp equal
    exact .pure (by rw [same, equal, List.append_nil])

theorem text_takes :
    text.Takes fun front s => front = writeText s ∧ s.utf8ByteSize ≤ 65535 := by
  refine (word_takes 2).bind fun front n ⟨count, bound⟩ => ?_
  refine (take_takes n).bind fun more bytes ⟨same, length⟩ => ?_
  split
  next s read =>
    have encoded := encodeText_of_decodeText read
    refine .pure ⟨?_, ?_⟩
    · rw [count, same, writeText, encoded, length, List.append_nil]
    · rw [← length_encodeText, encoded, length]
      omega
  next => exact .fail _ _

theorem times_takes {r : Reader α} {write : α → List UInt8} {fits : α → Prop}
    (hr : r.Takes fun front a => front = write a ∧ fits a) (n : Nat) :
    (times r n).Takes fun front as =>
      front = as.flatMap write ∧ as.length = n ∧ ∀ a ∈ as, fits a := by
  induction n with
  | zero => exact .pure ⟨rfl, rfl, fun a ha => nomatch ha⟩
  | succ n ih =>
    refine hr.bind fun front a ⟨first, fit⟩ => ih.bind fun more as ⟨others, length, fit'⟩ => ?_
    refine .pure ⟨?_, ?_, ?_⟩
    · rw [first, others, List.append_nil, List.flatMap_cons]
    · rw [List.length_cons, length]
    · exact List.forall_mem_cons.mpr ⟨fit, fit'⟩

theorem symbols_takes : symbols.Takes fun front table =>
    front = writeSymbols table ∧ table.length ≤ 65535 ∧ ∀ s ∈ table, s.utf8ByteSize ≤ 65535 := by
  refine (expect_takes _).bind fun front _ opening => ?_
  refine (word_takes 2).bind fun front' n ⟨count, bound⟩ => ?_
  refine (times_takes text_takes n).bind fun front'' table ⟨texts, length, sizes⟩ => ?_
  refine (expect_takes _).bind fun last _ closing => .pure ⟨?_, by omega, sizes⟩
  simp [opening, count, texts, closing, length, writeSymbols]

/-- The segment and all segments within it fit, and fewer than so many stand above any of them. -/
def Shallow (depth : Nat) (s : Segment) : Prop :=
  ∀ (n : Nat) (t : Segment), t.Within n s → t.Fits ∧ n < depth

theorem const_takes {segment : String → Reader Segment} {depth : Nat}
    (hs : ∀ name, (segment name).Takes fun front t =>
      front = t.write ∧ t.name = name ∧ Shallow depth t) :
    (const segment).Takes fun front c =>
      front = c.write ∧ c.Fits ∧ ∀ t, c = .code t → Shallow depth t := by
  refine byte_takes.bind fun front marker first => ?_
  split
  next is =>
    refine (word_takes 8).bind fun more n ⟨bytes, bound⟩ =>
      .pure ⟨?_, trivial, fun t eq => nomatch eq⟩
    have value : (UInt64.ofNat n).toInt64.toUInt64.toNat = n := UInt64.toNat_ofNat_of_lt' bound
    rw [first, is, bytes, List.append_nil, Const.write, value, List.singleton_append]
  next =>
    split
    next is =>
      refine (word_takes 8).bind fun more n ⟨bytes, bound⟩ =>
        .pure ⟨?_, trivial, fun t eq => nomatch eq⟩
      have value : (UInt64.ofNat n).toNat = n := UInt64.toNat_ofNat_of_lt' bound
      rw [first, is, bytes, List.append_nil, Const.write, value, List.singleton_append]
    next =>
      split
      next is =>
        refine text_takes.bind fun more s ⟨bytes, size⟩ => .pure ⟨?_, size, fun t eq => nomatch eq⟩
        simp [first, is, bytes, Const.write]
      next =>
        split
        next is =>
          refine text_takes.bind fun more name ⟨bytes, size⟩ => ?_
          refine (hs name).bind fun last t ⟨segment, named, shallow⟩ => ?_
          subst named
          refine .pure ⟨?_, size, fun u eq => ?_⟩
          · simp [first, is, bytes, segment, Const.write]
          · cases eq
            exact shallow
        next => exact .fail _ _

theorem consts_takes {segment : String → Reader Segment} {depth : Nat}
    (hs : ∀ name, (segment name).Takes fun front t =>
      front = t.write ∧ t.name = name ∧ Shallow depth t) :
    (consts segment).Takes fun front cs =>
      front = Marker.constsBegin :: littleEndian 2 cs.length ++ writeConsts cs ++
        [Marker.constsEnd] ∧
      cs.length ≤ 65535 ∧ ∀ c ∈ cs, c.Fits ∧ ∀ t, c = .code t → Shallow depth t := by
  refine (expect_takes _).bind fun front _ opening => ?_
  refine (word_takes 2).bind fun front' n ⟨count, bound⟩ => ?_
  refine (times_takes (const_takes hs) n).bind fun front'' cs ⟨entries, length, fit⟩ => ?_
  refine (expect_takes _).bind fun last _ closing => .pure ⟨?_, by omega, fit⟩
  simp [opening, count, entries, closing, length, writeConsts_eq]

theorem checkArguments_takes (s : Segment) : (liftM (checkArguments s) : Reader Unit).Takes
    fun front _ => front = [] ∧
      s.argcount.toNat ≤ s.names.length ∧ (s.names.take s.argcount.toNat).Nodup := by
  intro bytes a rest ok
  cases checked : checkArguments s with
  | error cause =>
    rw [checked] at ok
    cases ok
  | ok u =>
    rw [checked] at ok
    cases ok
    exact ⟨[], rfl, rfl, checkArguments_eq_ok.mp checked⟩

/-- By the depth that is left: what stands right within a segment is one level further down. -/
theorem segment_takes (depth : Nat) (name : String) : (segment depth name).Takes fun front s =>
    front = s.write ∧ s.name = name ∧ Shallow depth s := by
  induction depth generalizing name with
  | zero => exact .fail _ _
  | succ depth ih =>
    refine byte_takes.bind fun a argcount first => ?_
    refine symbols_takes.bind fun b names ⟨nameBytes, nameCount, nameSizes⟩ => ?_
    refine symbols_takes.bind fun c attrs ⟨attrBytes, attrCount, attrSizes⟩ => ?_
    refine (consts_takes ih).bind fun d consts ⟨constBytes, constCount, constFits⟩ => ?_
    refine (word_takes 4).bind fun e n ⟨lengthBytes, bound⟩ => ?_
    refine (take_takes n).bind fun f code ⟨codeBytes, length⟩ => ?_
    refine (checkArguments_takes _).bind fun g _ ⟨nothing, arguments, distinct⟩ => ?_
    refine .pure ⟨?_, rfl, fun m t within => ?_⟩
    · simp [first, nameBytes, attrBytes, constBytes, lengthBytes, codeBytes, length,
        nothing, Segment.write]
    · cases within with
      | here =>
        refine ⟨⟨nameCount, attrCount, constCount, nameSizes, attrSizes, fun c hc => ?_, ?_,
          arguments, distinct⟩, Nat.succ_pos depth⟩
        · exact (constFits c hc).1
        · simpa [length] using bound
      | inside member within =>
        obtain ⟨fits, above⟩ := (constFits _ member).2 _ rfl _ _ within
        exact ⟨fits, Nat.succ_lt_succ above⟩

end Reader

/-- A module file is read as a segment just if it is the file of that segment, which is named as
modules are and keeps to the limits of the format at every depth. -/
theorem Segment.readModule_eq_ok_iff {bytes : List UInt8} {s : Segment} :
    readModule bytes = .ok s ↔
      s.writeModule = bytes ∧ s.name = moduleName ∧ s.Encodable maxNesting := by
  constructor
  · intro ok
    unfold readModule at ok
    split at ok
    next => cases ok
    next signed =>
      replace signed := Decidable.not_not.mp signed
      split at ok
      next => cases ok
      next t read =>
        cases ok
        obtain ⟨front, same, written, named, shallow⟩ := Reader.segment_takes _ _ _ _ _ read
        refine ⟨?_, named, fun n t within => ?_⟩
        · have parts := List.take_append_drop Marker.signature.length bytes
          rw [signed, same, List.append_nil, written] at parts
          exact parts
        · obtain ⟨fits, above⟩ := shallow n t within
          exact ⟨fits, Nat.le_of_lt_succ above⟩
      next => cases ok
  · rintro ⟨rfl, named, encodable⟩
    rw [readModule_writeModule encodable, ← named]
    cases s
    rfl

namespace CodeObject

/-- The code object `d` stands within `c`, so many code objects below it. -/
inductive Within (d : CodeObject) : Nat → CodeObject → Prop
  | here : Within d 0 d
  | inside {n : Nat} {c e : CodeObject} {v : Value} :
      v ∈ c.consts → v.code? = some e → Within d n e → Within d (n + 1) c

theorem const?_of_code? {v : Value} {e : CodeObject} {k : Const} (code : v.code? = some e)
    (stands : v.const? = some k) : ∃ t, k = .code t ∧ e.segment? = some t := by
  unfold Value.code? at code
  split at code
  next id cls c =>
    cases code
    simp only [Value.const?, Object.const?, ObjectData.const?] at stands
    split at stands
    next =>
      obtain ⟨t, segment, rfl⟩ := Option.map_eq_some_iff.mp stands
      exact ⟨t, rfl, segment⟩
    next => cases stands
  next => cases code

theorem mem_of_constList? {values : List Value} {consts : List Const} {v : Value}
    (member : v ∈ values) (stand : constList? values = some consts) :
    ∃ k ∈ consts, v.const? = some k := by
  induction values generalizing consts with
  | nil => cases member
  | cons w rest ih =>
    simp only [constList?] at stand
    split at stand
    next k ks first others =>
      cases stand
      rcases List.mem_cons.mp member with rfl | member
      · exact ⟨k, List.mem_cons_self, first⟩
      · obtain ⟨l, hl, stands⟩ := ih member others
        exact ⟨l, List.mem_cons_of_mem k hl, stands⟩
    next => cases stand

theorem Within.segment? {c d : CodeObject} {n : Nat} (within : d.Within n c) {s : Segment}
    (stands : c.segment? = some s) : ∃ t, t.Within n s ∧ d.segment? = some t := by
  induction within generalizing s with
  | here => exact ⟨s, .here, stands⟩
  | inside member code _ ih =>
    obtain ⟨-, -, -, -, -, consts⟩ := segment?_eq_some_iff.mp stands
    obtain ⟨k, hk, const⟩ := mem_of_constList? member consts
    obtain ⟨t, rfl, stands⟩ := const?_of_code? code const
    obtain ⟨u, within, stands'⟩ := ih stands
    exact ⟨u, .inside hk within, stands'⟩

theorem Within.storable {c d : CodeObject} {n : Nat} (within : d.Within n c)
    (storable : ∀ v ∈ c.consts, v.Storable) : ∀ v ∈ d.consts, v.Storable := by
  induction within with
  | here => exact storable
  | inside member code _ ih =>
    refine ih ?_
    cases storable _ member with
    | code consts => cases code; exact consts
    | int n | float x | text id s => cases code

end CodeObject

namespace Vm

theorem load_segment? {vm vm' : Vm} {bytes : List UInt8} {code : CodeObject}
    (loaded : vm.load bytes = .ok (code, vm')) :
    ∃ s, code.segment? = some s ∧ s.writeModule = bytes ∧ s.Encodable Segment.maxNesting := by
  obtain ⟨⟨s, read, eq⟩, -⟩ := load_eq_ok loaded
  obtain ⟨written, -, encodable⟩ := Segment.readModule_eq_ok_iff.mp read
  have stands := Segment.load_segment? vm.hierarchy s vm.store
  refine ⟨s, ?_, written, encodable⟩
  cases eq
  exact stands

theorem load_arguments {vm vm' : Vm} {bytes : List UInt8} {code : CodeObject}
    (loaded : vm.load bytes = .ok (code, vm')) {n : Nat} {d : CodeObject}
    (within : d.Within n code) :
    d.argcount ≤ d.names.length ∧ (d.names.take d.argcount).Nodup ∧ n ≤ Segment.maxNesting := by
  obtain ⟨s, stands, -, encodable⟩ := load_segment? loaded
  obtain ⟨t, within, stands⟩ := within.segment? stands
  obtain ⟨-, argcount, names, -, -, -⟩ := CodeObject.segment?_eq_some_iff.mp stands
  obtain ⟨fits, depth⟩ := encodable n t within
  rw [argcount, names]
  exact ⟨fits.arguments, fits.distinct, depth⟩

/-- Whatever bytes are loaded as a module, they are those written for the tables of the code. -/
theorem writeModule_of_load {vm vm' : Vm} {bytes : List UInt8} {code : CodeObject}
    (loaded : vm.load bytes = .ok (code, vm')) :
    (∃ s, code.segment? = some s ∧ s.writeModule = bytes ∧ s.Encodable Segment.maxNesting) ∧
    (∀ n d, CodeObject.Within d n code →
      d.argcount ≤ d.names.length ∧ (d.names.take d.argcount).Nodup ∧ n ≤ 64 ∧
      ∀ v ∈ d.consts, v.Storable) ∧
    ∀ (other other' : Vm) (bytes' : List UInt8) (code' : CodeObject),
      other.load bytes' = .ok (code', other') → code'.segment? = code.segment? →
        bytes' = bytes := by
  obtain ⟨s, stands, written, encodable⟩ := load_segment? loaded
  refine ⟨⟨s, stands, written, encodable⟩, fun n d within => ?_, ?_⟩
  · obtain ⟨arguments, distinct, depth⟩ := load_arguments loaded within
    exact ⟨arguments, distinct, depth, within.storable (load_eq_ok loaded).2.1⟩
  · intro other other' bytes' code' loaded' same
    obtain ⟨s', stands', written', -⟩ := load_segment? loaded'
    rw [same, stands] at stands'
    cases stands'
    rw [← written, written']

theorem load_written (vm : Vm) {s : Segment} (encodable : s.Encodable Segment.maxNesting) :
    vm.load s.writeModule = .ok (vm.eval (Segment.load { s with name := Segment.moduleName })) := by
  unfold load
  rw [Segment.readModule_writeModule encodable]
  rfl

theorem writeModule_of_load_sample : ∃ code vm',
    (new {}).load Segment.sample.writeModule = .ok (code, vm') ∧
    (∃ s, code.segment? = some s ∧ s.writeModule = Segment.sample.writeModule ∧
      s.Encodable Segment.maxNesting) ∧
    (∀ n d, CodeObject.Within d n code →
      d.argcount ≤ d.names.length ∧ (d.names.take d.argcount).Nodup ∧ n ≤ 64 ∧
      ∀ v ∈ d.consts, v.Storable) ∧
    ∀ (other other' : Vm) (bytes' : List UInt8) (code' : CodeObject),
      other.load bytes' = .ok (code', other') → code'.segment? = code.segment? →
        bytes' = Segment.sample.writeModule :=
  ⟨_, _, load_written (new {}) Segment.sample_encodable,
    writeModule_of_load (load_written (new {}) Segment.sample_encodable)⟩

end Vm

end SlotVM
