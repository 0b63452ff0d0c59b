import Mathlib.Algebra.Order.Ring.Nat
import SlotVM.Module.Link
import SlotVM.Proofs.InstructionCodec

namespace SlotVM

namespace Instruction

variable {code : Array UInt8} {pos next : Nat} {i j : Instruction} {b : UInt8}

/-- The code from `pos` up to `next` is the encoding of the instruction. -/
def Stands (code : Array UInt8) (pos : Nat) (i : Instruction) (next : Nat) : Prop :=
  next = pos + i.size ∧ next ≤ code.size ∧ (code.extract pos next).toList = i.encode

/-- The code has the byte at the position, and it begins no instruction. -/
def Unknown (code : Array UInt8) (pos : Nat) (b : UInt8) : Prop :=
  code[pos]? = some b ∧ ∀ op : Opcode, op.byte ≠ b

theorem decode_eq_ok_iff_stands : decode code pos = .ok (i, next) ↔ Stands code pos i next := by
  rw [decode_eq_ok_iff]
  refine and_congr_right fun after => ?_
  have window : (code.extract pos next).toList = (code.toList.drop pos).take i.size := by
    rw [Array.toList_extract, List.extract_eq_take_drop, after, Nat.add_sub_cancel_left]
  rw [window]
  constructor
  · rintro ⟨front, rest, parts, rfl⟩
    have size := congrArg List.length parts
    rw [Array.length_toList, List.length_append, List.length_append, length_encode] at size
    refine ⟨by omega, ?_⟩
    rw [parts, List.drop_left, List.take_left' (length_encode i)]
  · rintro ⟨inside, same⟩
    refine ⟨code.toList.take pos, code.toList.drop next, ?_, List.length_take_of_le ?_⟩
    · rw [← same, after, ← List.drop_drop, List.take_append_drop, List.take_append_drop]
    · rw [Array.length_toList]
      omega

/-- What is read off the front of bytes: an instruction, or one of two errors. -/
inductive Front : List UInt8 → Except Fault Instruction → Prop
  | instruction {bytes : List UInt8} (i : Instruction) : Front bytes (.ok i)
  | empty : Front [] (.error (.unexpectedEnd context))
  | unknown {b : UInt8} {rest : List UInt8} (unknown : ∀ op : Opcode, op.byte ≠ b) :
      Front (b :: rest) (.error (.unexpectedByte context b))
  | cut {op : Opcode} {rest : List UInt8} (short : rest.length < op.width) :
      Front (op.byte :: rest) (.error (.unexpectedEnd context))

theorem front_ofBytes (bytes : List UInt8) : Front bytes (ofBytes bytes) := by
  cases bytes with
  | nil => exact .empty
  | cons b rest =>
    rw [ofBytes]
    cases found : Opcode.ofByte? b with
    | none => exact .unknown (Opcode.ofByte?_eq_none_iff.mp found)
    | some op =>
      obtain rfl := Opcode.byte_of_ofByte? found
      dsimp only
      split
      next short =>
        rw [List.length_take] at short
        exact .cut (by omega)
      next => exact .instruction _

theorem ofBytes_eq_unexpectedByte_iff {bytes : List UInt8} :
    ofBytes bytes = .error (.unexpectedByte context b) ↔
      bytes.head? = some b ∧ ∀ op : Opcode, op.byte ≠ b := by
  constructor
  · intro read
    have front := front_ofBytes bytes
    rw [read] at front
    cases front with
    | unknown unknown => exact ⟨rfl, unknown⟩
  · rintro ⟨first, unknown⟩
    obtain ⟨rest, rfl⟩ := List.head?_eq_some_iff.mp first
    rw [ofBytes, Opcode.ofByte?_eq_none_iff.mpr unknown]

theorem ofBytes_eq_unexpectedEnd_iff {bytes : List UInt8} :
    ofBytes bytes = .error (.unexpectedEnd context) ↔
      bytes = [] ∨ ∃ op rest, bytes = Opcode.byte op :: rest ∧ rest.length < op.width := by
  constructor
  · intro read
    have front := front_ofBytes bytes
    rw [read] at front
    cases front with
    | empty => exact .inl rfl
    | cut short => exact .inr ⟨_, _, rfl, short⟩
  · rintro (rfl | ⟨op, rest, rfl, short⟩)
    · rfl
    · have cut : (rest.take op.width).length < op.width := by
        rw [List.length_take]
        omega
      rw [ofBytes, Opcode.ofByte?_byte]
      exact if_pos cut

theorem fault_of_ofBytes {bytes : List UInt8} {fault : Fault} (read : ofBytes bytes = .error fault) :
    fault = .unexpectedEnd context ∨ ∃ b, fault = .unexpectedByte context b := by
  have front := front_ofBytes bytes
  rw [read] at front
  cases front with
  | empty | cut => exact .inl rfl
  | unknown => exact .inr ⟨_, rfl⟩

theorem decode_eq_error_iff {fault : Fault} :
    decode code pos = .error fault ↔ ofBytes (code.toList.drop pos) = .error fault := by
  rw [decode_eq]
  cases ofBytes (code.toList.drop pos) with
  | error cause => simp [Except.map]
  | ok j => simp [Except.map]

theorem decode_eq_unexpectedByte_iff :
    decode code pos = .error (.unexpectedByte context b) ↔ Unknown code pos b := by
  rw [decode_eq_error_iff, ofBytes_eq_unexpectedByte_iff, List.head?_drop, Array.getElem?_toList,
    Unknown]

/-- The code ends before an instruction that would begin at the position. -/
def Ends (code : Array UInt8) (pos : Nat) : Prop :=
  code.size ≤ pos ∨ ∃ op : Opcode, code[pos]? = some op.byte ∧ code.size < pos + 1 + op.width

theorem decode_eq_unexpectedEnd_iff :
    decode code pos = .error (.unexpectedEnd context) ↔ Ends code pos := by
  have length : (code.toList.drop pos).length = code.size - pos := by
    rw [List.length_drop, Array.length_toList]
  rw [decode_eq_error_iff, ofBytes_eq_unexpectedEnd_iff, Ends, List.drop_eq_nil_iff,
    Array.length_toList]
  refine or_congr_right (exists_congr fun op => ?_)
  rw [← Array.getElem?_toList, ← List.head?_drop]
  constructor
  · rintro ⟨rest, parts, short⟩
    rw [parts, List.length_cons] at length
    exact ⟨by rw [parts, List.head?_cons], by omega⟩
  · rintro ⟨first, short⟩
    obtain ⟨rest, parts⟩ := List.head?_eq_some_iff.mp first
    rw [parts, List.length_cons] at length
    exact ⟨rest, parts, by omega⟩

/-- The code ends too early just where neither an instruction nor an unknown byte stands. -/
theorem ends_iff : Ends code pos ↔
    (∀ i next, ¬ Stands code pos i next) ∧ ∀ b, ¬ Unknown code pos b := by
  simp only [← decode_eq_unexpectedEnd_iff, ← decode_eq_ok_iff_stands,
    ← decode_eq_unexpectedByte_iff]
  constructor
  · intro early
    rw [early]
    exact ⟨nofun, nofun⟩
  · rintro ⟨instruction, unknown⟩
    cases read : decode code pos with
    | ok found => exact absurd read (instruction found.1 found.2)
    | error fault =>
      rcases fault_of_ofBytes (decode_eq_error_iff.mp read) with rfl | ⟨b, rfl⟩
      · rfl
      · exact absurd read (unknown b)

/-- Every listed position is the total size of the instructions before it. -/
def Consecutive (listing : List (Nat × Instruction)) : Prop :=
  ∀ k (inside : k < listing.length),
    listing[k].1 = ((listing.take k).map fun entry => entry.2.size).sum

theorem laid_iff {listing : List (Nat × Instruction)} {start stop : Nat} :
    Laid start listing stop ↔ start + (bytesOf listing).length = stop ∧
      ∀ k (inside : k < listing.length),
        listing[k].1 = start + ((listing.take k).map fun entry => entry.2.size).sum := by
  induction listing generalizing start with
  | nil => simp [Laid, bytesOf]
  | cons entry rest ih =>
    obtain ⟨position, i⟩ := entry
    rw [Laid, ih, bytesOf_cons, List.length_append, length_encode, Nat.add_assoc]
    constructor
    · rintro ⟨rfl, total, later⟩
      refine ⟨total, fun k inside => ?_⟩
      cases k with
      | zero => rfl
      | succ k =>
        have position := later k (Nat.lt_of_succ_lt_succ inside)
        rw [List.take_succ_cons, List.map_cons, List.sum_cons, ← Nat.add_assoc]
        exact position
    · rintro ⟨total, each⟩
      refine ⟨each 0 (Nat.zero_lt_succ _), total, fun k inside => ?_⟩
      have position := each (k + 1) (Nat.succ_lt_succ inside)
      rw [List.take_succ_cons, List.map_cons, List.sum_cons, ← Nat.add_assoc] at position
      exact position

theorem laid_zero_iff {listing : List (Nat × Instruction)} {stop : Nat} :
    Laid 0 listing stop ↔ (bytesOf listing).length = stop ∧ Consecutive listing := by
  simp only [laid_iff, Nat.zero_add, Consecutive]

/-- A sweep fails where no instruction stands after those before. By the recursion of the sweep. -/
theorem sweep_eq_error {start : Nat} {bytes : List UInt8} {fault : Fault}
    (h : sweep start bytes = .error fault) : ∃ listing stop rest, Laid start listing stop ∧
      bytes = bytesOf listing ++ rest ∧ rest ≠ [] ∧ ofBytes rest = .error fault := by
  fun_induction sweep start bytes with
  | case1 => cases h
  | case2 start b rest cause read =>
    cases h
    exact ⟨[], start, b :: rest, rfl, rfl, List.cons_ne_nil b rest, read⟩
  | case3 start b rest i read ih =>
    cases swept : sweep (start + i.size) (rest.drop i.opcode.width) with
    | ok others => rw [swept] at h; cases h
    | error cause =>
      rw [swept] at h
      cases h
      obtain ⟨listing, stop, more, laid, parts, nonempty, failed⟩ := ih swept
      obtain ⟨tail, whole⟩ := eq_encode_of_ofBytes read
      have dropped : rest.drop i.opcode.width = tail := by
        rw [encode, List.cons_append, List.cons.injEq] at whole
        rw [whole.2, List.drop_left' (length_littleEndian _ _)]
      refine ⟨(start, i) :: listing, stop, more, ⟨rfl, laid⟩, ?_, nonempty, failed⟩
      rw [whole, ← dropped, parts, bytesOf_cons, List.append_assoc]

theorem sweep_of_ofBytes {pos : Nat} {bytes : List UInt8} {fault : Fault} (nonempty : bytes ≠ [])
    (failed : ofBytes bytes = .error fault) : sweep pos bytes = .error fault := by
  cases bytes with
  | nil => exact absurd rfl nonempty
  | cons b rest => rw [sweep, failed]

end Instruction

namespace CodeObject

open Instruction

variable {c : CodeObject}

theorem instructions_eq_ok_iff_consecutive {listing : List (Nat × Instruction)} :
    c.instructions = .ok listing ↔ c.bytecode.toList = bytesOf listing ∧ Consecutive listing := by
  rw [instructions, sweep_eq_ok_iff, Nat.zero_add, laid_zero_iff]
  constructor
  · rintro ⟨⟨-, consecutive⟩, bytes⟩
    exact ⟨bytes.symm, consecutive⟩
  · rintro ⟨bytes, consecutive⟩
    exact ⟨⟨by rw [bytes], consecutive⟩, bytes.symm⟩

theorem instructions_eq_error_iff {fault : Fault} : c.instructions = .error fault ↔
    ∃ listing stop, stop < c.bytecode.size ∧ c.bytecode.toList.take stop = bytesOf listing ∧
      Consecutive listing ∧ decode c.bytecode stop = .error fault := by
  constructor
  · intro failed
    obtain ⟨listing, stop, rest, laid, parts, nonempty, read⟩ := sweep_eq_error failed
    obtain ⟨length, consecutive⟩ := laid_zero_iff.mp laid
    have size := congrArg List.length parts
    have more := List.length_pos_iff.mpr nonempty
    rw [Array.length_toList, List.length_append] at size
    refine ⟨listing, stop, by omega, ?_, consecutive, decode_eq_error_iff.mpr ?_⟩
    · rw [parts, List.take_left' length]
    · rw [parts, List.drop_left' length]
      exact read
  · rintro ⟨listing, stop, inside, front, consecutive, failed⟩
    have length := congrArg List.length front
    rw [List.length_take_of_le (by rw [Array.length_toList]; omega)] at length
    have laid : Laid 0 listing stop := laid_zero_iff.mpr ⟨length.symm, consecutive⟩
    have nonempty : c.bytecode.toList.drop stop ≠ [] := by
      rw [Ne, List.drop_eq_nil_iff, Array.length_toList]
      omega
    have swept := sweep_append laid (c.bytecode.toList.drop stop)
    rw [sweep_of_ofBytes nonempty (decode_eq_error_iff.mp failed), ← front,
      List.take_append_drop] at swept
    exact swept

end CodeObject

namespace Instruction

/-- An instruction is decoded just where its encoding stands, and code lists as instructions just if
it is made of their encodings. -/
theorem decoding_exact :
    (∀ (code : Array UInt8) (pos : Nat),
      (∀ i next, decode code pos = .ok (i, next) ↔ Stands code pos i next) ∧
      (∀ i j next next', Stands code pos i next → Stands code pos j next' → i = j) ∧
      (∀ b, decode code pos = .error (.unexpectedByte context b) ↔ Unknown code pos b) ∧
      (decode code pos = .error (.unexpectedEnd context) ↔ Ends code pos) ∧
      (Ends code pos ↔ (∀ i next, ¬ Stands code pos i next) ∧ ∀ b, ¬ Unknown code pos b)) ∧
    ∀ c : CodeObject,
      (∀ listing, c.instructions = .ok listing ↔
        c.bytecode.toList = bytesOf listing ∧ Consecutive listing) ∧
      ∀ fault, c.instructions = .error fault ↔
        ∃ listing stop, stop < c.bytecode.size ∧ c.bytecode.toList.take stop = bytesOf listing ∧
          Consecutive listing ∧ decode c.bytecode stop = .error fault := by
  refine ⟨fun code pos => ⟨fun i next => decode_eq_ok_iff_stands, ?_,
    fun b => decode_eq_unexpectedByte_iff, decode_eq_unexpectedEnd_iff, ends_iff⟩,
    fun c => ⟨fun listing => CodeObject.instructions_eq_ok_iff_consecutive,
      fun fault => CodeObject.instructions_eq_error_iff⟩⟩
  intro i j next next' first second
  have read := decode_eq_ok_iff_stands.mpr first
  rw [decode_eq_ok_iff_stands.mpr second] at read
  obtain ⟨same, -⟩ := Prod.mk.inj (Except.ok.inj read)
  exact same.symm

/-- An instruction with an operand of four bytes, and no other one in its place. -/
theorem decoding_exact_loadInt :
    Stands #[0x31, 7, 0, 0, 0] 0 (.loadInt 7) 5 ∧
      ∀ j next, Stands #[0x31, 7, 0, 0, 0] 0 j next → j = .loadInt 7 := by
  have stands : Stands #[0x31, 7, 0, 0, 0] 0 (.loadInt 7) 5 := ⟨rfl, by decide, by decide⟩
  obtain ⟨-, unique, -⟩ := decoding_exact.1 #[0x31, 7, 0, 0, 0] 0
  exact ⟨stands, fun j next other => unique j (.loadInt 7) next 5 other stands⟩

example : decode #[0x0a] 0 = .error (.unexpectedByte context 0x0a) ∧
    decode #[0x31, 1, 2] 0 = .error (.unexpectedEnd context) := ⟨rfl, rfl⟩

end Instruction

end SlotVM
