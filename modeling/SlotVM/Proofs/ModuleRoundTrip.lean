import SlotVM.Proofs.LittleEndian
import SlotVM.Proofs.LoadedCode
import SlotVM.Proofs.TextBytes

namespace SlotVM

namespace Reader

variable {α β : Type}

/-- The reader takes just these bytes from the front and gives this result. -/
def Reads (r : Reader α) (bytes : List UInt8) (a : α) : Prop :=
  ∀ rest, r (bytes ++ rest) = .ok (a, rest)

theorem reads_pure (a : α) : Reads (pure a) [] a := fun _ => rfl

theorem Reads.bind {r : Reader α} {f : α → Reader β} {xs ys : List UInt8} {a : α} {b : β}
    (hr : r.Reads xs a) (hf : (f a).Reads ys b) : (r >>= f).Reads (xs ++ ys) b := by
  intro rest
  change (r (xs ++ ys ++ rest)).bind (fun p => f p.1 p.2) = _
  rw [List.append_assoc, hr (ys ++ rest)]
  exact hf rest

/-- A reader followed by one that takes nothing. -/
theorem Reads.map {r : Reader α} {f : α → Reader β} {xs : List UInt8} {a : α} {b : β}
    (hr : r.Reads xs a) (hf : (f a).Reads [] b) : (r >>= f).Reads xs b := by
  have both := hr.bind hf
  rwa [List.append_nil] at both

theorem reads_take {n : Nat} {bytes : List UInt8} (h : bytes.length = n) :
    (take n).Reads bytes bytes := by
  intro rest
  subst h
  simp [take]

theorem reads_byte (b : UInt8) : byte.Reads [b] b := fun _ => rfl

theorem reads_word {width n : Nat} (h : n < 256 ^ width) :
    (word width).Reads (littleEndian width n) n := by
  intro rest
  have taken := reads_take (length_littleEndian width n) rest
  change (take width (littleEndian width n ++ rest)).map (fun p => (ofLittleEndian p.1, p.2)) = _
  rw [taken]
  exact congrArg (fun m => Except.ok (m, rest)) (ofLittleEndian_littleEndian h)

theorem reads_expect (marker : UInt8) : (expect marker).Reads [marker] () := by
  refine (reads_byte marker).map ?_
  rw [if_neg (by simp)]
  exact reads_pure ()

theorem reads_text {s : String} (h : s.utf8ByteSize ≤ 65535) : text.Reads (writeText s) s := by
  have size := length_encodeText s
  have fits : (encodeText s).length < 256 ^ 2 := by omega
  refine (reads_word fits).bind ((reads_take rfl).map ?_)
  rw [decodeText_encodeText]
  exact reads_pure s

theorem reads_times {r : Reader α} {write : α → List UInt8} {as : List α}
    (h : ∀ a ∈ as, r.Reads (write a) a) : (times r as.length).Reads (as.flatMap write) as := by
  induction as with
  | nil => exact reads_pure []
  | cons a as ih =>
    have first := h a List.mem_cons_self
    have others := ih fun b hb => h b (List.mem_cons_of_mem a hb)
    rw [List.flatMap_cons]
    exact first.bind (others.map (reads_pure (a :: as)))

theorem reads_symbols {table : List String} (count : table.length ≤ 65535)
    (sizes : ∀ s ∈ table, s.utf8ByteSize ≤ 65535) : symbols.Reads (writeSymbols table) table := by
  have fits : table.length < 256 ^ 2 := by omega
  have parts : writeSymbols table = [Marker.symbolsBegin] ++ (littleEndian 2 table.length ++
      (table.flatMap writeText ++ [Marker.symbolsEnd])) := by
    simp [writeSymbols]
  rw [parts]
  refine (reads_expect _).bind ((reads_word fits).bind ?_)
  have texts : ∀ s ∈ table, text.Reads (writeText s) s := fun s hs => reads_text (sizes s hs)
  exact (reads_times texts).bind ((reads_expect _).map (reads_pure table))

end Reader

/-- The text, or the name of the code, fits into its count. -/
def Const.Fits : Const → Prop
  | .str t => t.utf8ByteSize ≤ 65535
  | .code s => s.name.utf8ByteSize ≤ 65535
  | _ => True

instance (c : Const) : Decidable c.Fits :=
  match c with
  | .str t => inferInstanceAs (Decidable (t.utf8ByteSize ≤ 65535))
  | .code s => inferInstanceAs (Decidable (s.name.utf8ByteSize ≤ 65535))
  | .int _ | .float _ => isTrue trivial

namespace Segment

/-- The segment `t` stands within `s`, so many segments below it. -/
inductive Within (t : Segment) : Nat → Segment → Prop
  | here : Within t 0 t
  | inside {n : Nat} {s u : Segment} : .code u ∈ s.consts → Within t n u → Within t (n + 1) s

/-- The tables, the texts and the code fit into their counts, and there are names for the arguments,
no two the same. -/
structure Fits (s : Segment) : Prop where
  names : s.names.length ≤ 65535
  attrs : s.attrs.length ≤ 65535
  consts : s.consts.length ≤ 65535
  nameSizes : ∀ t ∈ s.names, t.utf8ByteSize ≤ 65535
  attrSizes : ∀ t ∈ s.attrs, t.utf8ByteSize ≤ 65535
  constSizes : ∀ c ∈ s.consts, c.Fits
  code : s.code.size < 2 ^ 32
  arguments : s.argcount.toNat ≤ s.names.length
  distinct : (s.names.take s.argcount.toNat).Nodup

/-- All segments within the segment fit, and none is deeper than that. -/
def Encodable (depth : Nat) (s : Segment) : Prop :=
  ∀ (n : Nat) (t : Segment), t.Within n s → t.Fits ∧ n ≤ depth

theorem Encodable.fits {depth : Nat} {s : Segment} (h : s.Encodable depth) : s.Fits :=
  (h 0 s .here).1

theorem Encodable.below {depth : Nat} {s t : Segment} (h : s.Encodable (depth + 1))
    (ht : .code t ∈ s.consts) : t.Encodable depth := by
  intro n u hu
  obtain ⟨fits, bound⟩ := h (n + 1) u (.inside ht hu)
  exact ⟨fits, Nat.le_of_succ_le_succ bound⟩

theorem Encodable.of_below {depth : Nat} {s : Segment} (fits : s.Fits)
    (below : ∀ t, .code t ∈ s.consts → t.Encodable depth) : s.Encodable (depth + 1) := by
  intro n t within
  cases within with
  | here => exact ⟨fits, Nat.zero_le _⟩
  | inside member within =>
    obtain ⟨fits, bound⟩ := below _ member _ t within
    exact ⟨fits, Nat.succ_le_succ bound⟩

theorem Encodable.flat {s t : Segment} (h : s.Encodable 0) : .code t ∉ s.consts := by
  intro ht
  obtain ⟨-, bound⟩ := h 1 t (.inside ht .here)
  omega

end Segment

namespace Reader

theorem repeated?_eq_none {before names : List String} :
    repeated? before names = none ↔ names.Nodup ∧ ∀ s ∈ names, s ∉ before := by
  induction names generalizing before with
  | nil => simp [repeated?]
  | cons s rest ih =>
    unfold repeated?
    by_cases seen : s ∈ before
    · simp [seen]
    · simp only [List.contains_eq_mem, seen, decide_false, Bool.false_eq_true, if_false, ih,
        List.nodup_cons, List.mem_cons, not_or, forall_eq_or_imp, not_false_eq_true, true_and]
      constructor
      · rintro ⟨distinct, apart⟩
        exact ⟨⟨fun member => (apart s member).1 rfl, distinct⟩, fun t ht => (apart t ht).2⟩
      · rintro ⟨⟨fresh, distinct⟩, apart⟩
        exact ⟨distinct, fun t ht => ⟨fun eq => fresh (eq ▸ ht), apart t ht⟩⟩

theorem checkArguments_eq_ok {s : Segment} : checkArguments s = .ok () ↔
    s.argcount.toNat ≤ s.names.length ∧ (s.names.take s.argcount.toNat).Nodup := by
  unfold checkArguments
  by_cases enough : s.names.length < s.argcount.toNat
  · simp [enough, Nat.not_le.mpr enough]
  · have none := @repeated?_eq_none [] (s.names.take s.argcount.toNat)
    simp only [List.not_mem_nil, not_false_eq_true, implies_true, and_true] at none
    rw [if_neg enough, ← none]
    cases repeated? [] (s.names.take s.argcount.toNat) with
    | none => simp [Nat.le_of_not_lt enough]
    | some parameter => simp

theorem writeConsts_eq (cs : List Const) : writeConsts cs = cs.flatMap Const.write := by
  induction cs with
  | nil => rfl
  | cons c rest ih => rw [writeConsts, ih, List.flatMap_cons]

theorem reads_const {segment : String → Reader Segment} {c : Const} (sizes : c.Fits)
    (segments : ∀ t, c = .code t → (segment t.name).Reads t.write t) :
    (const segment).Reads c.write c := by
  cases c with
  | int n =>
    have fits : n.toUInt64.toNat < 256 ^ 8 := n.toUInt64.toNat_lt
    refine (reads_byte Marker.int).bind ((reads_word fits).map ?_)
    rw [UInt64.ofNat_toNat]
    exact reads_pure (Const.int n)
  | float x =>
    have fits : x.bits.toNat < 256 ^ 8 := x.bits.toNat_lt
    refine (reads_byte Marker.float).bind ((reads_word fits).map ?_)
    rw [UInt64.ofNat_toNat]
    exact reads_pure (Const.float x)
  | str t =>
    exact (reads_byte Marker.str).bind ((reads_text sizes).map (reads_pure (Const.str t)))
  | code t =>
    refine (reads_byte Marker.code).bind ((reads_text sizes).bind ?_)
    exact (segments t rfl).map (reads_pure (Const.code t))

theorem reads_consts {segment : String → Reader Segment} {cs : List Const}
    (count : cs.length ≤ 65535) (h : ∀ c ∈ cs, (const segment).Reads c.write c) :
    (consts segment).Reads
      (Marker.constsBegin :: littleEndian 2 cs.length ++ writeConsts cs ++ [Marker.constsEnd])
      cs := by
  have fits : cs.length < 256 ^ 2 := by omega
  have parts : Marker.constsBegin :: littleEndian 2 cs.length ++ writeConsts cs ++
      [Marker.constsEnd] = [Marker.constsBegin] ++ (littleEndian 2 cs.length ++
        (cs.flatMap Const.write ++ [Marker.constsEnd])) := by
    simp [writeConsts_eq]
  rw [parts]
  refine (reads_expect _).bind ((reads_word fits).bind ?_)
  exact (reads_times h).bind ((reads_expect _).map (reads_pure cs))

theorem reads_checkArguments {s : Segment} (h : checkArguments s = .ok ()) :
    (liftM (checkArguments s) : Reader Unit).Reads [] () := by
  intro rest
  rw [h]
  rfl

theorem reads_level {depth : Nat} {s : Segment} (fits : s.Fits) (name : String)
    (nested : ∀ t, .code t ∈ s.consts → (segment depth t.name).Reads t.write t) :
    (segment (depth + 1) name).Reads s.write { s with name } := by
  obtain ⟨own, argcount, names, attrs, consts, code⟩ := s
  have constants : ∀ c ∈ consts, (const (segment depth)).Reads c.write c := by
    intro c hc
    exact reads_const (fits.constSizes c hc) fun t eq => nested t (eq ▸ hc)
  have size : code.size < 256 ^ 4 := fits.code
  have parts : Segment.write ⟨own, argcount, names, attrs, consts, code⟩ =
      [argcount] ++ (writeSymbols names ++ (writeSymbols attrs ++
        ((Marker.constsBegin :: littleEndian 2 consts.length ++ writeConsts consts ++
          [Marker.constsEnd]) ++ (littleEndian 4 code.size ++ code.toList)))) := by
    simp [Segment.write]
  have checked : checkArguments ⟨name, argcount, names, attrs, consts, code⟩ = .ok () :=
    checkArguments_eq_ok.mpr ⟨fits.arguments, fits.distinct⟩
  rw [parts]
  refine (reads_byte argcount).bind ?_
  refine (reads_symbols fits.names fits.nameSizes).bind ?_
  refine (reads_symbols fits.attrs fits.attrSizes).bind ?_
  refine (reads_consts fits.consts constants).bind ?_
  refine (reads_word size).bind ((reads_take (Array.length_toList)).map ?_)
  exact (reads_checkArguments checked).map (reads_pure _)

theorem reads_segment {depth : Nat} {s : Segment} (h : s.Encodable depth) (name : String) :
    (segment (depth + 1) name).Reads s.write { s with name } := by
  induction depth generalizing s name with
  | zero => exact reads_level h.fits name fun t ht => absurd ht h.flat
  | succ depth ih =>
    refine reads_level h.fits name fun t ht => ?_
    have nested := ih (h.below ht) t.name
    cases t
    exact nested

end Reader

namespace Segment

theorem readModule_writeModule {s : Segment} (h : s.Encodable maxNesting) :
    readModule s.writeModule = .ok { s with name := moduleName } := by
  have signature : s.writeModule.take Marker.signature.length = Marker.signature := by
    rw [writeModule, List.take_left]
  have rest : s.writeModule.drop Marker.signature.length = s.write ++ [] := by
    rw [writeModule, List.drop_left, List.append_nil]
  unfold readModule
  rw [if_neg (not_not_intro signature), rest, Reader.reads_segment h moduleName []]

/-- Loading what was written gives a code object of the name of modules with the tables, the code
and the constants of the segment, where a constant that is code stands for its segment in turn. -/
theorem load_writeModule (vm : Vm) (s : Segment) (h : s.Encodable maxNesting) :
    ∃ code vm', vm.load s.writeModule = .ok (code, vm') ∧ code.name = "<module>" ∧
      code.argcount = s.argcount.toNat ∧ code.names = s.names ∧ code.attrs = s.attrs ∧
      code.bytecode = s.code ∧ constList? code.consts = some s.consts := by
  have loaded : vm.load s.writeModule = .ok (vm.eval (load { s with name := moduleName })) := by
    unfold Vm.load
    rw [readModule_writeModule h]
    rfl
  have stands := load_segment? vm.hierarchy { s with name := moduleName } vm.store
  exact ⟨_, _, loaded, CodeObject.segment?_eq_some_iff.mp stands⟩

/-- A module with a text beyond ASCII and with code among its constants. -/
def sample : Segment :=
  ⟨"m", 1, ["x", "y"], ["length"], [.int (-5), .str "né",
    .code ⟨"f", 1, ["n"], [], [.float .zero, .str ""], #[0x46]⟩], #[0x33, 2, 0x46]⟩

theorem sample_encodable : sample.Encodable maxNesting := by
  refine .of_below (by constructor <;> decide) fun t member => ?_
  simp only [sample, List.mem_cons, reduceCtorEq, Const.code.injEq, List.not_mem_nil, false_or,
    or_false] at member
  subst member
  exact .of_below (by constructor <;> decide) (by simp)

theorem load_writeModule_sample : sample.Encodable maxNesting ∧
    ∃ code vm', (Vm.new {}).load sample.writeModule = .ok (code, vm') ∧ code.name = "<module>" ∧
      code.argcount = 1 ∧ code.names = ["x", "y"] ∧ code.attrs = ["length"] ∧
      code.bytecode = #[0x33, 2, 0x46] ∧ constList? code.consts = some sample.consts :=
  ⟨sample_encodable, load_writeModule (Vm.new {}) sample sample_encodable⟩

end Segment

end SlotVM
