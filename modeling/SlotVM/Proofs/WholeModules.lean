import SlotVM.Proofs.ExactReading
import SlotVM.Proofs.ReaderFaults

namespace SlotVM

namespace Reader

variable {α β : Type}

/-- The reader misses the end of these bytes wherever they are cut. -/
def Misses (r : Reader α) (bytes : List UInt8) : Prop :=
  ∀ short lost, bytes = short ++ lost → lost ≠ [] → r short = .error (.unexpectedEnd context)

/-- Whenever the reader succeeds, it would take the same bytes whatever followed them, and it would
miss the end of them. -/
def Whole (r : Reader α) : Prop :=
  ∀ bytes a rest, r bytes = .ok (a, rest) →
    ∃ front, bytes = front ++ rest ∧ r.Reads front a ∧ r.Misses front

theorem misses_nil (r : Reader α) : r.Misses [] := by
  intro short lost parts nonempty
  obtain ⟨-, rfl⟩ := List.append_eq_nil_iff.mp parts.symm
  exact absurd rfl nonempty

/-- Bytes are cut within the first part, or after it. -/
theorem Misses.bind {r : Reader α} {f : α → Reader β} {xs ys : List UInt8} {a : α}
    (reads : r.Reads xs a) (first : r.Misses xs) (later : (f a).Misses ys) :
    (r >>= f).Misses (xs ++ ys) := by
  have after (more lost : List UInt8) (parts : ys = more ++ lost) (nonempty : lost ≠ []) :
      (r >>= f) (xs ++ more) = .error (.unexpectedEnd context) :=
    bind_eq_error.mpr (.inr ⟨a, more, reads more, later more lost parts nonempty⟩)
  intro short lost parts nonempty
  rcases List.append_eq_append_iff.mp parts with ⟨more, rfl, cut⟩ | ⟨gap, cut, rfl⟩
  · exact after more lost cut nonempty
  · cases gap with
    | nil =>
      rw [List.append_nil] at cut
      subst cut
      simpa using after [] ys rfl nonempty
    | cons b gap =>
      exact bind_eq_error.mpr (.inl (first short (b :: gap) cut (List.cons_ne_nil b gap)))

/-- Arguments are checked when all bytes of the segment are there, and a segment that stands too deep
is not read at all; so the law asks nothing of the other causes of failure. -/
theorem whole_law : Law @Whole where
  take n bytes a rest ok := by
    obtain ⟨front, parts, rfl, length⟩ := take_takes n bytes a rest ok
    refine ⟨front, parts, reads_take length, fun short lost cut nonempty => ?_⟩
    have cutLength : front.length = short.length + lost.length := by
      rw [cut, List.length_append]
    have lostLength := List.length_pos_iff.mpr nonempty
    have few : (short.take n).length < n := by
      rw [List.length_take]
      omega
    exact if_pos few
  byte bytes b rest ok := by
    obtain ⟨front, parts, rfl⟩ := byte_takes bytes b rest ok
    refine ⟨[b], parts, reads_byte b, fun short lost cut nonempty => ?_⟩
    cases short with
    | nil => rfl
    | cons c short =>
      have nothing : [] = short ++ lost := (List.cons.inj cut).2
      exact absurd (List.append_eq_nil_iff.mp nothing.symm).2 nonempty
  fail _ _ _ _ ok := nomatch ok
  pure a bytes b rest ok := by
    cases ok
    exact ⟨[], rfl, reads_pure a, misses_nil _⟩
  bind hr hf bytes b rest ok := by
    obtain ⟨a, middle, first, later⟩ := bind_eq_ok.mp ok
    obtain ⟨xs, rfl, reads, misses⟩ := hr bytes a middle first
    obtain ⟨ys, rfl, reads', misses'⟩ := hf a middle b rest later
    exact ⟨xs ++ ys, (List.append_assoc _ _ _).symm, reads.bind reads', .bind reads misses misses'⟩

end Reader

namespace Segment

variable {bytes short lost : List UInt8} {s : Segment}

theorem exists_of_readModule (read : readModule bytes = .ok s) :
    ∃ body, bytes = Marker.signature ++ body ∧
      (Reader.segment (maxNesting + 1) moduleName).Reads body s ∧
      (Reader.segment (maxNesting + 1) moduleName).Misses body := by
  unfold readModule at read
  split at read
  next => cases read
  next signed =>
    replace signed := Decidable.not_not.mp signed
    split at read
    next => cases read
    next t segment =>
      cases read
      obtain ⟨front, all, reads, misses⟩ := Reader.whole_law.segment _ _ _ _ _ segment
      have parts := List.take_append_drop Marker.signature.length bytes
      rw [signed, all, List.append_nil] at parts
      exact ⟨front, parts.symm, reads, misses⟩
    next => cases read

theorem readModule_of_short (short : bytes.length < 4) :
    readModule bytes = .error (.badSignature moduleName) := by
  have unsigned : bytes.take Marker.signature.length ≠ Marker.signature := by
    intro signed
    have lengths := congrArg List.length signed
    rw [List.length_take, show Marker.signature.length = 4 from rfl] at lengths
    omega
  exact if_pos unsigned

theorem readModule_of_cut (read : readModule bytes = .ok s) (cut : bytes = short ++ lost)
    (nonempty : lost ≠ []) (signed : 4 ≤ short.length) :
    readModule short = .error (.unexpectedEnd Reader.context) := by
  obtain ⟨body, rfl, -, misses⟩ := exists_of_readModule read
  have front : Marker.signature <+: short :=
    List.prefix_of_prefix_length_le ⟨body, rfl⟩ ⟨lost, cut.symm⟩ signed
  obtain ⟨more, rfl⟩ := front
  rw [List.append_assoc] at cut
  unfold readModule
  rw [List.take_left, List.drop_left, if_neg (not_not_intro rfl),
    misses more lost (List.append_cancel_left cut) nonempty]

/-- A file that goes on is refused for the byte after it. -/
theorem readModule_append (read : readModule bytes = .ok s) (b : UInt8) (more : List UInt8) :
    readModule (bytes ++ b :: more) = .error (.unexpectedByte Reader.context b) := by
  obtain ⟨body, rfl, reads, -⟩ := exists_of_readModule read
  unfold readModule
  rw [List.append_assoc, List.take_left, List.drop_left, if_neg (not_not_intro rfl),
    reads (b :: more)]

end Segment

theorem hexValue?_hexDigit : ∀ n < 16, hexValue? (hexDigit n) = some n := by decide

theorem length_hexByte (b : UInt8) : (hexByte b).length = 2 := String.length_ofList

/-- The two digits are those of the byte. -/
theorem ofHex?_hexByte (b : UInt8) : ofHex? [] (hexByte b).toList = some [b] := by
  have bound : b.toNat < 256 := b.toNat_lt
  have high := hexValue?_hexDigit (b.toNat / 16) (by omega)
  have low := hexValue?_hexDigit (b.toNat % 16) (Nat.mod_lt _ (by decide))
  rw [hexByte, String.toList_ofList, ofHex?, high, low]
  dsimp only
  rw [Nat.div_add_mod, UInt8.ofNat_toNat]
  rfl

namespace Vm

/-- A module file that is cut or goes on is refused. -/
theorem load_whole {vm vm' : Vm} {bytes : List UInt8} {code : CodeObject}
    (loaded : vm.load bytes = .ok (code, vm')) (other : Vm) :
    (∀ short, short <+: bytes → short ≠ bytes →
      ∃ cause, other.load short = .error cause ∧ cause.error = ⟨.fatal,
        if short.length < 4 then
          "invalid file signature encountered when loading module '<module>'"
        else "unexpected end of bytecode in load_module"⟩) ∧
    ∀ b more, ∃ cause, other.load (bytes ++ b :: more) = .error cause ∧
      cause.error = ⟨.fatal, "unexpected byte in load_module: " ++ hexByte b⟩ ∧
      (hexByte b).length = 2 ∧ ofHex? [] (hexByte b).toList = some [b] := by
  obtain ⟨⟨s, read, -⟩, -⟩ := load_eq_ok loaded
  have refused {bytes : List UInt8} {cause : Fault}
      (failed : Segment.readModule bytes = .error cause) : other.load bytes = .error cause := by
    unfold load
    rw [failed]
    rfl
  refine ⟨?_, fun b more => ?_⟩
  · rintro short ⟨lost, rfl⟩ proper
    have nonempty : lost ≠ [] := by
      rintro rfl
      exact proper (List.append_nil short).symm
    by_cases few : short.length < 4
    · exact ⟨_, refused (Segment.readModule_of_short few), by rw [if_pos few]; rfl⟩
    · have cut := Segment.readModule_of_cut read rfl nonempty (Nat.not_lt.mp few)
      exact ⟨_, refused cut, by rw [if_neg few]; rfl⟩
  · exact ⟨_, refused (Segment.readModule_append read b more), rfl, length_hexByte b,
      ofHex?_hexByte b⟩

/-- A module with code among its constants, cut anywhere or followed by a zero. -/
theorem load_whole_sample : let bytes := Segment.sample.writeModule
    ∃ code vm', (new {}).load bytes = .ok (code, vm') ∧
    (∀ short, short <+: bytes → short ≠ bytes →
      ∃ cause, (new {}).load short = .error cause ∧ cause.error = ⟨.fatal,
        if short.length < 4 then
          "invalid file signature encountered when loading module '<module>'"
        else "unexpected end of bytecode in load_module"⟩) ∧
    ∀ more, ∃ cause, (new {}).load (bytes ++ 0 :: more) = .error cause ∧
      cause.error = ⟨.fatal, "unexpected byte in load_module: 00"⟩ := by
  intro bytes
  have loaded := load_written (new {}) Segment.sample_encodable
  obtain ⟨cut, further⟩ := load_whole loaded (new {})
  refine ⟨_, _, loaded, cut, fun more => ?_⟩
  obtain ⟨cause, refused, error, -⟩ := further 0 more
  exact ⟨cause, refused, error.trans rfl⟩

end Vm

end SlotVM
