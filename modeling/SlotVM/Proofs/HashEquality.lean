import SlotVM.Operation
import SlotVM.Proofs.ClassOrder
import SlotVM.Proofs.Effect
import SlotVM.Proofs.NearestDouble

namespace SlotVM

namespace Double

theorem toNat_bits (x : Double) :
    x.bits.toNat = x.magnitude + if x.isNegative = true then 2 ^ 63 else 0 := by
  have bound := x.bits.toNat_lt
  unfold magnitude isNegative
  split
  next negative =>
    have large : 2 ^ 63 ≤ x.bits.toNat := of_decide_eq_true negative
    omega
  next positive =>
    have small : ¬ 2 ^ 63 ≤ x.bits.toNat := fun le => positive (decide_eq_true le)
    omega

theorem eq_of_bits {x y : Double} (magnitude : x.magnitude = y.magnitude)
    (sign : x.isNegative = y.isNegative) : x = y := by
  have same : x.bits.toNat = y.bits.toNat := by
    rw [toNat_bits x, toNat_bits y, magnitude, sign]
  cases x
  cases y
  exact congrArg Double.mk (UInt64.toNat_inj.mp same)

theorem orderKey_eq_of_equals {x y : Double} (equal : x.equals y = true) :
    x.orderKey = y.orderKey := by
  unfold equals compare? at equal
  split at equal
  next => cases equal
  next =>
    have same : compare x.orderKey y.orderKey = .eq := by simpa using equal
    exact compare_eq_iff_eq.mp same

theorem hash_of_magnitude_zero {x : Double} (zero : x.magnitude = 0) : x.hash = 0 := by
  cases sign : x.isNegative with
  | false =>
    rw [eq_of_bits (y := .zero) zero sign]
    decide +kernel
  | true =>
    rw [eq_of_bits (y := ⟨0x8000000000000000⟩) zero sign]
    decide +kernel

/-- Equal numbers have the same bits or are both zero. -/
theorem hash_eq_of_equals {x y : Double} (equal : x.equals y = true) : x.hash = y.hash := by
  have keys := orderKey_eq_of_equals equal
  unfold orderKey at keys
  by_cases zero : x.magnitude = 0
  · have zero' : y.magnitude = 0 := by
      split at keys <;> split at keys <;> omega
    rw [hash_of_magnitude_zero zero, hash_of_magnitude_zero zero']
  · have magnitude : x.magnitude = y.magnitude := by
      split at keys <;> split at keys <;> omega
    have sign : x.isNegative = y.isNegative := by
      cases hx : x.isNegative <;> cases hy : y.isNegative <;> simp [hx, hy] at keys ⊢ <;> omega
    rw [eq_of_bits magnitude sign]

variable {n : Int64}

theorem toInt_toInt64 (b : UInt64) : b.toInt64.toInt = (b.toNat : Int).bmod (2 ^ 64) :=
  BitVec.toInt_eq_toNat_bmod b.toBitVec

theorem eq_minValue_iff : n = Int64.minValue ↔ n.toInt = -2 ^ 63 := by
  have least : Int64.minValue.toInt = -2 ^ 63 := by decide
  rw [← Int64.toInt_inj, least]

/-- Below the bound the hash of a rounded integer is what it is rounded to. -/
theorem hash_ofInt_of_lt (nonzero : n ≠ 0) (small : nearest n.toInt.natAbs < 2 ^ 63) :
    (ofInt n).hash = n ↔ nearest n.toInt.natAbs = n.toInt.natAbs := by
  have inside := (magnitude_ofInt_lt_iff nonzero).mpr small
  unfold hash
  rw [isWhole_ofInt nonzero, decide_eq_true inside, Bool.and_self, if_pos rfl,
    toInt_ofInt nonzero, ← Int64.toInt_inj]
  split
  next negative =>
    rw [toInt_clampInt (by omega) (by omega)]
    omega
  next =>
    rw [toInt_clampInt (by omega) (by omega)]
    omega

/-- Beyond the bound the hash is the bits, and no integer that is rounded so far has those. -/
theorem hash_ofInt_of_ge (nonzero : n ≠ 0) (large : 2 ^ 63 ≤ nearest n.toInt.natAbs) :
    (ofInt n).hash ≠ n := by
  have outside : ¬ (ofInt n).magnitude < intLimit.magnitude := fun lt =>
    Nat.not_lt.mpr large ((magnitude_ofInt_lt_iff nonzero).mp lt)
  have length : bitLength n.toInt.natAbs ≤ 64 :=
    bitLength_le (Nat.lt_of_le_of_lt (natAbs_toInt_le n) (by decide))
  obtain ⟨-, upper⟩ := significand_bounds (natAbs_toInt_ne_zero nonzero)
  have near : nearest n.toInt.natAbs ≤ n.toInt.natAbs + 2 ^ 11 :=
    nearest_le_add (by omega)
  have limit : intLimit.magnitude = 1086 * 2 ^ 52 := by decide
  have magnitude := magnitude_ofInt nonzero
  have bits := toNat_bits_ofInt nonzero
  -- The bits stand near `1086 * 2 ^ 52`, the integer within `2 ^ 11` of `2 ^ 63`.
  unfold hash
  rw [decide_eq_false outside, Bool.and_false, if_neg (by decide), Ne, ← Int64.toInt_inj,
    toInt_toInt64, bits, Int.bmod_def]
  intro same
  by_cases negative : n.toInt < 0
  · have sign : Format.binary64.signBits true = 2 ^ 63 := rfl
    rw [decide_eq_true negative, sign] at same
    omega
  · have sign : Format.binary64.signBits false = 0 := rfl
    rw [decide_eq_false negative, sign] at same
    omega

/-- The hash of the number that an integer is rounded to is the integer just when rounding keeps the
integer, but for the least integer, whose number has the magnitude where hashes turn to bits. -/
theorem hash_ofInt_iff : (ofInt n).hash = n ↔ IsExact n ∧ n ≠ Int64.minValue := by
  rw [isExact_iff]
  by_cases zero : n = 0
  · subst zero
    exact ⟨fun _ => by decide, fun _ => by decide +kernel⟩
  · rcases Nat.lt_or_ge (nearest n.toInt.natAbs) (2 ^ 63) with small | large
    · rw [hash_ofInt_of_lt zero small, Ne, eq_minValue_iff]
      constructor
      · intro kept
        exact ⟨kept, by omega⟩
      · exact And.left
    · constructor
      · exact fun same => absurd same (hash_ofInt_of_ge zero large)
      · rintro ⟨kept, notLeast⟩
        rw [Ne, eq_minValue_iff] at notLeast
        have lower := n.le_toInt
        have upper := n.toInt_lt
        omega

theorem hash_eq_iff_of_equals_ofInt {x : Double} (equal : (ofInt n).equals x = true) :
    x.hash = n ↔ IsExact n ∧ n ≠ Int64.minValue := by
  rw [← hash_eq_of_equals equal]
  exact hash_ofInt_iff

theorem equals_comm (x y : Double) : x.equals y = y.equals x := by
  unfold equals compare?
  rw [Bool.or_comm]
  split
  next => rfl
  next =>
    have swapped : compare x.orderKey y.orderKey = .eq ↔ compare y.orderKey x.orderKey = .eq := by
      rw [compare_eq_iff_eq, compare_eq_iff_eq, eq_comm]
    rw [Bool.eq_iff_iff]
    simpa using swapped

end Double

namespace Hierarchy

/-- The class of texts, or one below it with no equality and no hash between the two. -/
inductive InheritsText (h : Hierarchy) : ClassId → Prop
  | text : InheritsText h .text
  | sub {id base : ClassId} {c : Class} : h.get? id = some c → c.base = some base →
      c.slots .eq = none → c.slots .hash = none → InheritsText h base → InheritsText h id

variable {h : Hierarchy}

theorem InheritsText.lookup (standard : h.Standard) {id : ClassId} (inherits : h.InheritsText id) :
    h.lookup id .eq = some (.builtin .textEq) ∧ h.lookup id .hash = some (.builtin .textHash) := by
  induction inherits with
  | text =>
    exact ⟨standard.lookup_eq isBuiltin_text .eq, standard.lookup_eq isBuiltin_text .hash⟩
  | sub found hb noEq noHash _ ih =>
    rw [lookup_inherited standard.rooted found noEq hb,
      lookup_inherited standard.rooted found noHash hb]
    exact ih

theorem InheritsText.isSubclass (rooted : h.Rooted) {id : ClassId}
    (inherits : h.InheritsText id) : h.isSubclass id .text = true := by
  rw [isSubclass_iff rooted]
  induction inherits with
  | text => exact Relation.ReflTransGen.refl
  | @sub id base c found hb _ _ _ ih =>
    have step : h.parent? id = some base := by rw [parent?, found, Option.bind_some, hb]
    exact Relation.ReflTransGen.head step ih

end Hierarchy

namespace Operation

variable {h : Hierarchy} {a b v : Value}

/-- The values in question: integers, floating-point numbers, and texts of classes that leave
equality and hashes as they are. -/
inductive Hashed (h : Hierarchy) : Value → Prop
  | int (n : Int64) : Hashed h (.int n)
  | float (x : Double) : Hashed h (.float x)
  | text {o : Object} : h.InheritsText o.cls → Hashed h (.object o)

def hashOf : Value → Int64
  | .int n => n
  | .float x => x.hash
  | v => (textHash v.textOf).toUInt64.toInt64

/-- Equality of numbers and texts. -/
def equal : Value → Value → Bool
  | .int m, .int n => m == n
  | .int m, .float y => (Double.ofInt m).equals y
  | .float x, .int n => x.equals (.ofInt n)
  | .float x, .float y => x.equals y
  | .object o, .object p => (Value.object o).textOf == (Value.object p).textOf
  | _, _ => false

/-- The integer of a pair of an integer and a floating-point number, in either order. -/
def mixed? : Value → Value → Option Int64
  | .int n, .float _ => some n
  | .float _, .int n => some n
  | _, _ => none

theorem Hashed.hash_yields (standard : h.Standard) (host : Host) (hv : Hashed h v) (heap : Heap) :
    Run.Yields h (hash host v) heap (.int (hashOf v), heap) := by
  cases hv with
  | int n =>
    have slot : h.lookup .int .hash = some (.builtin .intHash) :=
      standard.lookup_eq Hierarchy.isBuiltin_int .hash
    refine Run.Yields.bind_resolve ?_
    rw [slot]
    exact fun _ sound => ⟨rfl, rfl, sound⟩
  | float x =>
    have slot : h.lookup .float .hash = some (.builtin .floatHash) :=
      standard.lookup_eq Hierarchy.isBuiltin_float .hash
    refine Run.Yields.bind_resolve ?_
    rw [slot]
    exact fun _ sound => ⟨rfl, rfl, sound⟩
  | text inherits =>
    refine Run.Yields.bind_resolve ?_
    rw [(inherits.lookup standard).2]
    exact fun _ sound => ⟨rfl, rfl, sound⟩

theorem Hashed.isA_text (standard : h.Standard) (hv : Hashed h v) :
    h.isA v .text = v.object?.isSome := by
  cases hv with
  | int n => exact standard.isSubclass_eq Hierarchy.isBuiltin_int .text
  | float x => exact standard.isSubclass_eq Hierarchy.isBuiltin_float .text
  | text inherits => exact inherits.isSubclass standard.rooted

theorem Hashed.eq_yields (standard : h.Standard) (host : Host) (ha : Hashed h a)
    (hb : Hashed h b) (heap : Heap) :
    Run.Yields h (eq host a b) heap (.ofBool (equal a b), heap) := by
  cases ha with
  | int m =>
    have slot : h.lookup .int .eq = some (.builtin .intEq) :=
      standard.lookup_eq Hierarchy.isBuiltin_int .eq
    refine Run.Yields.bind_resolve ?_
    rw [slot]
    cases hb <;> exact fun _ sound => ⟨rfl, rfl, sound⟩
  | float x =>
    have slot : h.lookup .float .eq = some (.builtin .floatEq) :=
      standard.lookup_eq Hierarchy.isBuiltin_float .eq
    refine Run.Yields.bind_resolve ?_
    rw [slot]
    cases hb <;> exact fun _ sound => ⟨rfl, rfl, sound⟩
  | text inherits =>
    refine Run.Yields.bind_resolve ?_
    rw [(inherits.lookup standard).1]
    have isText := hb.isA_text standard
    intro cache sound
    refine ⟨?_, rfl, sound⟩
    show Value.ofBool (h.isA b .text && _ == b.textOf) = _
    rw [isText]
    cases hb <;> rfl

/-- Equal values have one hash, but for an integer and a floating-point number: those have one just
when the integer is the number as it stands and not the least one. -/
theorem hashOf_eq_iff (ha : Hashed h a) (hb : Hashed h b) (same : equal a b = true) :
    hashOf a = hashOf b ↔
      ∀ n, mixed? a b = some n → Double.IsExact n ∧ n ≠ Int64.minValue := by
  have alone (eq : hashOf a = hashOf b) (none : mixed? a b = none) : hashOf a = hashOf b ↔
      ∀ n, mixed? a b = some n → Double.IsExact n ∧ n ≠ Int64.minValue := by
    rw [none]
    exact ⟨fun _ => nofun, fun _ => eq⟩
  cases ha with
  | int m =>
    cases hb with
    | int n => exact alone (eq_of_beq same) rfl
    | float y =>
      have key := Double.hash_eq_iff_of_equals_ofInt same
      simpa [hashOf, mixed?, eq_comm] using key
    | text => cases same
  | float x =>
    cases hb with
    | int n =>
      have swapped : (Double.ofInt n).equals x = true := (Double.equals_comm _ _).trans same
      have key := Double.hash_eq_iff_of_equals_ofInt swapped
      simpa [hashOf, mixed?] using key
    | float y => exact alone (Double.hash_eq_of_equals same) rfl
    | text => cases same
  | text =>
    cases hb with
    | int n => cases same
    | float y => cases same
    | text =>
      have texts := eq_of_beq same
      exact alone (congrArg (fun s => (textHash s).toUInt64.toInt64) texts) rfl

/-- Equal values have one hash, but for an integer that is rounded when it is compared. -/
theorem hash_of_eq (config : Config) (requests : List Request) (heap : Heap) (host : Host)
    {a b : Value} :
    let vm := (Vm.new config).serveAll requests
    let h := vm.hierarchy
    let s : Store := { vm.store with heap }
    Hashed h a → Hashed h b → (∀ n, mixed? a b = some n → n ≠ Int64.minValue) →
      (eq host a b h s).1 = .int 1 →
      ∃ k l, (hash host a h s).1 = .int k ∧ (hash host b h s).1 = .int l ∧
        (k = l ↔ ∀ n, mixed? a b = some n → Double.IsExact n) := by
  intro vm h s ha hb above same
  have consistent : vm.Consistent := (Vm.new_consistent config).serveAll requests
  have answer := (ha.eq_yields consistent.standard host hb heap _ consistent.sound).1
  have holds : equal a b = true := by
    cases value : equal a b with
    | true => rfl
    | false =>
      have contradictory := answer.symm.trans same
      rw [value] at contradictory
      cases contradictory
  have agree : hashOf a = hashOf b ↔ ∀ n, mixed? a b = some n → Double.IsExact n := by
    rw [hashOf_eq_iff ha hb holds]
    exact ⟨fun exact n hn => (exact n hn).1, fun exact n hn => ⟨exact n hn, above n hn⟩⟩
  exact ⟨hashOf a, hashOf b, (ha.hash_yields consistent.standard host heap _ consistent.sound).1,
    (hb.hash_yields consistent.standard host heap _ consistent.sound).1, agree⟩

/-- Three, as an integer and as a floating-point number. -/
theorem hash_of_eq_three :
    let h := (Vm.new {}).hierarchy
    let s := (Vm.new {}).store
    let three : Value := .float ⟨0x4008000000000000⟩
    (∀ n, mixed? (.int 3) three = some n → n ≠ Int64.minValue) ∧
      (eq .none (.int 3) three h s).1 = .int 1 ∧ Double.IsExact 3 ∧
      ∃ k, (hash .none (.int 3) h s).1 = .int k ∧ (hash .none three h s).1 = .int k := by
  intro h s three
  have above : ∀ n, mixed? (.int 3) three = some n → n ≠ Int64.minValue := by
    intro n hn
    cases hn
    decide
  have same : (eq .none (.int 3) three h s).1 = .int 1 :=
    ((Hashed.int 3).eq_yields Hierarchy.builtin_standard .none (.float _) .empty _
      (Resolver.empty_sound _)).1
  have short : Double.IsExact 3 := ⟨3, 0, rfl, by decide⟩
  obtain ⟨k, l, hk, hl, agree⟩ := hash_of_eq {} [] .empty .none (.int 3) (.float _) above same
  have eq : k = l := agree.mpr fun n hn => by
    cases hn
    exact short
  exact ⟨above, same, short, k, hk, eq ▸ hl⟩

/-- Two integers that compare equal to a floating-point number with another hash: one that is
rounded, and the least integer. -/
theorem hash_of_eq_exceptions :
    let h := (Vm.new {}).hierarchy
    let s := (Vm.new {}).store
    ∀ p ∈ [(9007199254740993, Double.mk 0x4340000000000000),
        (Int64.minValue, Double.mk 0xc3e0000000000000)],
      (eq .none (.int p.1) (.float p.2) h s).1 = .int 1 ∧
        ∃ k, (hash .none (.int p.1) h s).1 = .int p.1 ∧
          (hash .none (.float p.2) h s).1 = .int k ∧ p.1 ≠ k := by
  intro h s p member
  have standard : h.Standard := Hierarchy.builtin_standard
  have sound : s.resolver.Sound h := Resolver.empty_sound _
  have facts : equal (.int p.1) (.float p.2) = true ∧ p.1 ≠ p.2.hash := by
    simp only [List.mem_cons, List.not_mem_nil, or_false] at member
    rcases member with rfl | rfl <;> decide +kernel
  have same := ((Hashed.int p.1).eq_yields standard .none (.float p.2) .empty _ sound).1
  rw [facts.1] at same
  exact ⟨same, p.2.hash, ((Hashed.int p.1).hash_yields standard .none .empty _ sound).1,
    ((Hashed.float p.2).hash_yields standard .none .empty _ sound).1, facts.2⟩

end Operation

end SlotVM
