import SlotVM.Instruction
import SlotVM.Proofs.LittleEndian

namespace SlotVM

namespace Opcode

theorem mem_all (op : Opcode) : op ∈ all := by
  cases op with
  | arith a => cases a <;> decide
  | sign s => cases s <;> decide
  | jump dir guard => cases dir <;> cases guard <;> decide
  | _ => decide

theorem ofByte?_byte (op : Opcode) : ofByte? op.byte = some op := by
  have each : ∀ op ∈ all, ofByte? op.byte = some op := by decide
  exact each op (mem_all op)

theorem byte_of_ofByte? {b : UInt8} {op : Opcode} (h : ofByte? b = some op) : op.byte = b := by
  unfold ofByte? at h
  split at h
  next => cases h
  next =>
    obtain ⟨inside, rfl⟩ := List.getElem?_eq_some_iff.mp h
    have distinct : all.Nodup := by decide
    rw [byte, distinct.idxOf_getElem, UInt8.ofNat_toNat, UInt8.add_comm, UInt8.sub_add_cancel]

theorem ofByte?_eq_none_iff {b : UInt8} : ofByte? b = none ↔ ∀ op : Opcode, op.byte ≠ b := by
  constructor
  · rintro unknown op rfl
    rw [ofByte?_byte] at unknown
    cases unknown
  · intro unknown
    cases found : ofByte? b with
    | none => rfl
    | some op => exact absurd (byte_of_ofByte? found) (unknown op)

theorem width_lt_maxSize (op : Opcode) : op.width < Instruction.maxSize := by
  have each : ∀ op ∈ all, op.width < Instruction.maxSize := by decide
  exact each op (mem_all op)

end Opcode

namespace Instruction

theorem operand_lt (i : Instruction) : i.operand < 256 ^ i.opcode.width := by
  cases i with
  | loadInt n => exact n.toUInt32.toNat_lt
  | loadFloat x => exact x.bits.toNat_lt
  | store slot | load slot => exact slot.toNat_lt
  | loadConst b | jump _ _ b | call b => exact b.toNat_lt
  | _ => exact Nat.one_pos

theorem ofOperand_operand (i : Instruction) : ofOperand i.operand i.opcode = i := by
  cases i <;> simp [ofOperand, operand, opcode]

theorem opcode_ofOperand (n : Nat) (op : Opcode) : (ofOperand n op).opcode = op := by
  cases op <;> rfl

theorem operand_ofOperand {n : Nat} {op : Opcode} (h : n < 256 ^ op.width) :
    (ofOperand n op).operand = n := by
  cases op with
  | loadInt | store | load => exact UInt32.toNat_ofNat_of_lt' h
  | loadFloat => exact UInt64.toNat_ofNat_of_lt' h
  | loadConst | jump dir guard | call => exact UInt8.toNat_ofNat_of_lt' h
  | _ => exact (Nat.lt_one_iff.mp h).symm

theorem size_pos (i : Instruction) : 0 < i.size := by
  rw [size]
  omega

theorem length_encode (i : Instruction) : i.encode.length = i.size := by
  rw [encode, List.length_cons, length_littleEndian, size, Nat.add_comm]

/-- An instruction is read back, whatever follows it. -/
theorem ofBytes_encode (i : Instruction) (rest : List UInt8) :
    ofBytes (i.encode ++ rest) = .ok i := by
  have length := length_littleEndian i.opcode.width i.operand
  have front : (littleEndian i.opcode.width i.operand ++ rest).take i.opcode.width =
      littleEndian i.opcode.width i.operand := List.take_left' length
  rw [encode, List.cons_append, ofBytes, Opcode.ofByte?_byte]
  dsimp only
  rw [front, length, if_neg (Nat.lt_irrefl _), ofLittleEndian_littleEndian i.operand_lt,
    ofOperand_operand]

theorem encode_ofOperand {n : Nat} {op : Opcode} (h : n < 256 ^ op.width) :
    (ofOperand n op).encode = op.byte :: littleEndian op.width n := by
  rw [encode, opcode_ofOperand, operand_ofOperand h]

theorem operand_ofOperand_byte {n : Nat} {op : Opcode} (width : op.width = 1) (h : n < 256) :
    (ofOperand n op).operand = n :=
  operand_ofOperand (by rw [width]; exact h)

theorem encode_ofOperand_byte {n : Nat} {op : Opcode} (width : op.width = 1) (h : n < 256) :
    (ofOperand n op).encode = [op.byte, UInt8.ofNat n] := by
  rw [encode_ofOperand (by rw [width]; exact h), width]
  rfl

/-- What is read stands at the front of the bytes. -/
theorem eq_encode_of_ofBytes {bytes : List UInt8} {i : Instruction} (h : ofBytes bytes = .ok i) :
    ∃ rest, bytes = i.encode ++ rest := by
  unfold ofBytes at h
  split at h
  next => cases h
  next b rest =>
    split at h
    next => cases h
    next op found =>
      dsimp only at h
      split at h
      next => cases h
      next enough =>
        cases h
        have length : (rest.take op.width).length = op.width := by
          have most := List.length_take_le op.width rest
          omega
        have fits := ofLittleEndian_lt (rest.take op.width)
        have operand := littleEndian_ofLittleEndian (rest.take op.width)
        rw [length] at fits operand
        refine ⟨rest.drop op.width, ?_⟩
        rw [encode_ofOperand fits, operand, Opcode.byte_of_ofByte? found, List.cons_append,
          List.take_append_drop]

theorem ofBytes_eq_ok_iff {bytes : List UInt8} {i : Instruction} :
    ofBytes bytes = .ok i ↔ ∃ rest, bytes = i.encode ++ rest := by
  constructor
  · exact eq_encode_of_ofBytes
  · rintro ⟨rest, rfl⟩
    exact ofBytes_encode i rest

/-- No bytes matter beyond the greatest size of an instruction. -/
theorem ofBytes_take (bytes : List UInt8) : ofBytes (bytes.take maxSize) = ofBytes bytes := by
  cases bytes with
  | nil => rfl
  | cons b rest =>
    change ofBytes (b :: rest.take 8) = ofBytes (b :: rest)
    rw [ofBytes, ofBytes]
    cases Opcode.ofByte? b with
    | none => rfl
    | some op =>
      have width : op.width ≤ 8 := Nat.le_of_lt_succ op.width_lt_maxSize
      have same : (rest.take 8).take op.width = rest.take op.width := by
        rw [List.take_take, Nat.min_eq_left width]
      dsimp only
      rw [same]

theorem decode_eq (code : Array UInt8) (pos : Nat) :
    decode code pos = (ofBytes (code.toList.drop pos)).map fun i => (i, pos + i.size) := by
  have window : (code.extract pos (pos + maxSize)).toList =
      (code.toList.drop pos).take maxSize := by
    rw [Array.toList_extract, List.extract_eq_take_drop, Nat.add_sub_cancel_left]
  rw [decode, window, ofBytes_take]

theorem decode_eq_ok_iff {code : Array UInt8} {pos next : Nat} {i : Instruction} :
    decode code pos = .ok (i, next) ↔ next = pos + i.size ∧
      ∃ front rest, code.toList = front ++ (i.encode ++ rest) ∧ front.length = pos := by
  have opened : decode code pos = .ok (i, next) ↔
      ofBytes (code.toList.drop pos) = .ok i ∧ next = pos + i.size := by
    rw [decode_eq]
    cases ofBytes (code.toList.drop pos) with
    | error cause => simp [Except.map]
    | ok j =>
      simp only [Except.map, Except.ok.injEq, Prod.mk.injEq]
      constructor
      · rintro ⟨rfl, rfl⟩
        exact ⟨rfl, rfl⟩
      · rintro ⟨rfl, rfl⟩
        exact ⟨rfl, rfl⟩
  rw [opened, ofBytes_eq_ok_iff, and_comm]
  refine and_congr_right fun _ => ?_
  constructor
  · rintro ⟨rest, parts⟩
    have inside : pos ≤ code.toList.length := by
      have length := congrArg List.length parts
      have positive := size_pos i
      rw [List.length_append, length_encode, List.length_drop] at length
      omega
    refine ⟨code.toList.take pos, rest, ?_, List.length_take_of_le inside⟩
    rw [← parts, List.take_append_drop]
  · rintro ⟨front, rest, parts, rfl⟩
    refine ⟨rest, ?_⟩
    rw [parts, List.drop_left]

theorem decode_eq_ok {code : Array UInt8} {pos next : Nat} {i : Instruction}
    (h : decode code pos = .ok (i, next)) : next = pos + i.size ∧ next ≤ code.size := by
  obtain ⟨after, front, rest, parts, length⟩ := decode_eq_ok_iff.mp h
  have size := congrArg List.length parts
  rw [List.length_append, List.length_append, length_encode, Array.length_toList] at size
  omega

/-- The listing starts and stops at these positions, and each of its instructions stands where the
one before it ends. -/
def Laid : Nat → List (Nat × Instruction) → Nat → Prop
  | start, [], stop => start = stop
  | start, (position, i) :: rest, stop => position = start ∧ Laid (start + i.size) rest stop

def bytesOf (listing : List (Nat × Instruction)) : List UInt8 :=
  listing.flatMap fun entry => entry.2.encode

theorem bytesOf_append (first second : List (Nat × Instruction)) :
    bytesOf (first ++ second) = bytesOf first ++ bytesOf second := List.flatMap_append

theorem bytesOf_cons (entry : Nat × Instruction) (rest : List (Nat × Instruction)) :
    bytesOf (entry :: rest) = entry.2.encode ++ bytesOf rest := List.flatMap_cons

theorem laid_append {first second : List (Nat × Instruction)} {start stop : Nat} :
    Laid start (first ++ second) stop ↔ ∃ middle, Laid start first middle ∧
      Laid middle second stop := by
  induction first generalizing start with
  | nil => simp [Laid]
  | cons entry rest ih => simp [Laid, ih, and_assoc]

theorem Laid.length_bytesOf {listing : List (Nat × Instruction)} {start stop : Nat}
    (laid : Laid start listing stop) : start + (bytesOf listing).length = stop := by
  induction listing generalizing start with
  | nil => exact laid
  | cons entry rest ih =>
    have later := ih laid.2
    have size := length_encode entry.2
    rw [bytesOf_cons, List.length_append]
    omega

theorem Laid.bounds {listing : List (Nat × Instruction)} {start stop : Nat}
    (laid : Laid start listing stop) {entry : Nat × Instruction} (member : entry ∈ listing) :
    start ≤ entry.1 ∧ entry.1 + entry.2.size ≤ stop := by
  obtain ⟨first, second, rfl⟩ := List.append_of_mem member
  obtain ⟨middle, before, same, after⟩ := laid_append.mp laid
  have left := before.length_bytesOf
  have right := after.length_bytesOf
  omega

theorem sweep_append {listing : List (Nat × Instruction)} {start stop : Nat}
    (laid : Laid start listing stop) (rest : List UInt8) :
    sweep start (bytesOf listing ++ rest) = (sweep stop rest).map (listing ++ ·) := by
  induction listing generalizing start with
  | nil =>
    cases laid
    cases swept : sweep stop rest <;> exact swept
  | cons entry others ih =>
    obtain ⟨position, i⟩ := entry
    obtain ⟨rfl, laid⟩ := laid
    have read := ofBytes_encode i (bytesOf others ++ rest)
    have later : (littleEndian i.opcode.width i.operand ++ (bytesOf others ++ rest)).drop
        i.opcode.width = bytesOf others ++ rest := List.drop_left' (length_littleEndian _ _)
    have parts : bytesOf ((position, i) :: others) ++ rest =
        i.encode ++ (bytesOf others ++ rest) := by
      rw [bytesOf_cons, List.append_assoc]
    rw [encode, List.cons_append] at read parts
    rw [parts, sweep, read]
    dsimp only
    rw [later, ih laid]
    cases sweep stop rest <;> rfl

theorem sweep_bytesOf {listing : List (Nat × Instruction)} {start stop : Nat}
    (laid : Laid start listing stop) : sweep start (bytesOf listing) = .ok listing := by
  have swept := sweep_append laid []
  rw [List.append_nil, sweep] at swept
  rw [swept]
  exact congrArg Except.ok (List.append_nil listing)

/-- A sweep gives no listing but the one that is laid out in the bytes. By the recursion of the
sweep. -/
theorem laid_of_sweep {start : Nat} {bytes : List UInt8} {listing : List (Nat × Instruction)}
    (h : sweep start bytes = .ok listing) :
    Laid start listing (start + bytes.length) ∧ bytesOf listing = bytes := by
  fun_induction sweep start bytes generalizing listing with
  | case1 start =>
    cases h
    exact ⟨rfl, rfl⟩
  | case2 => cases h
  | case3 start b rest i read ih =>
    obtain ⟨more, parts⟩ := eq_encode_of_ofBytes read
    have tail : rest.drop i.opcode.width = more := by
      rw [encode, List.cons_append, List.cons.injEq] at parts
      rw [parts.2, List.drop_left' (length_littleEndian _ _)]
    cases swept : sweep (start + i.size) (rest.drop i.opcode.width) with
    | error cause => rw [swept] at h; cases h
    | ok others =>
      rw [swept] at h
      cases h
      obtain ⟨laid, same⟩ := ih swept
      rw [tail] at laid same
      refine ⟨⟨rfl, ?_⟩, ?_⟩
      · rw [parts, List.length_append, length_encode, ← Nat.add_assoc]
        exact laid
      · rw [bytesOf_cons, same, parts]

theorem sweep_eq_ok_iff {start : Nat} {bytes : List UInt8} {listing : List (Nat × Instruction)} :
    sweep start bytes = .ok listing ↔
      Laid start listing (start + bytes.length) ∧ bytesOf listing = bytes := by
  constructor
  · exact laid_of_sweep
  · rintro ⟨laid, rfl⟩
    exact sweep_bytesOf laid

end Instruction

end SlotVM
