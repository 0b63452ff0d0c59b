import SlotVM.Proofs.MessageLimit
import SlotVM.Proofs.TypedFields

namespace SlotVM

theorem toNat_ofNat_byte {n : Nat} (small : n < 128) : (UInt8.ofNat n).toNat = n :=
  UInt8.toNat_ofNat_of_lt' (Nat.lt_trans small (by decide))

/-- An object of the class of texts with this text. -/
def Value.IsText (v : Value) (t : String) : Prop := v.cls? = some .text ∧ v.text? = some t

/-- The values that a member takes in place of what its field holds. -/
def Member.Fits (m : Member) (current : Field) (w : Value) : Prop :=
  match m.kind with
  | .byte | .short | .int | .long | .ubyte | .ushort | .uint | .ulong | .size | .bool =>
    ∃ n, w = .int n
  | .float | .double => (∃ n, w = .int n) ∨ ∃ x, w = .float x
  | .char => ∃ t, w.IsText t ∧ t.utf8ByteSize = 1
  | .str => w.cls? = some .text
  | .object => ∃ o, w = .object o ∧
      (m.typeStrict = true → ∀ old, current = .object (some old) → old.cls = o.cls)

/-- The second value is the first one in this number of bits, the highest one for the sign. -/
def Value.Signed (bits : Nat) (w v : Value) : Prop :=
  ∃ n r : Int64, w = .int n ∧ v = .int r ∧ r.toInt = n.toInt.bmod (2 ^ bits)

/-- The second value is the first one in this number of bits without a sign. -/
def Value.Unsigned (bits : Nat) (w v : Value) : Prop :=
  ∃ n r : Int64, w = .int n ∧ v = .int r ∧ r.toInt = n.toInt % 2 ^ bits

/-- The second value is what a member of the kind keeps of the first one. -/
def MemberKind.Keeps (k : MemberKind) (w v : Value) : Prop :=
  match k with
  | .byte => w.Signed 8 v
  | .short => w.Signed 16 v
  | .int => w.Signed 32 v
  | .ubyte => w.Unsigned 8 v
  | .ushort => w.Unsigned 16 v
  | .uint => w.Unsigned 32 v
  | .long | .ulong | .size | .object => v = w
  | .bool => ∃ n, w = .int n ∧ v = .int (if n = 0 then 0 else 1)
  | .float => (∃ n, w = .int n ∧ v = .float (Single.ofInt n).toDouble) ∨
      ∃ x, w = .float x ∧ v = .float x.toSingle.toDouble
  | .double => (∃ n, w = .int n ∧ v = .float (Double.ofInt n)) ∨ ∃ x, w = .float x ∧ v = w
  | .char | .str => ∃ t, w.IsText t ∧ v.IsText t

namespace Field

/-- A character is one of the first 128. -/
def Ascii : Field → Prop
  | char c => c.toNat < 128
  | _ => True

end Field

namespace Member

variable {m : Member} {current f : Field} {v w : Value}

theorem exactText?_eq_some_iff {t : Option String} :
    exactText? w = some t ↔ w.cls? = some .text ∧ w.text? = t := by
  unfold exactText?
  split
  next text => simp [text]
  next other => simp [other]

theorem convert?_char_iff (kind : m.kind = .char) : m.convert? current w = some f ↔
    ∃ t c, w.IsText t ∧ t.toList = [c] ∧ c.toNat < 128 ∧ f = .char (UInt8.ofNat c.toNat) := by
  unfold convert?
  rw [kind]
  dsimp only
  constructor
  · intro fits
    split at fits
    next t text =>
      split at fits
      next c chars =>
        split at fits
        next small =>
          cases fits
          exact ⟨t, c, exactText?_eq_some_iff.mp text, chars, small, rfl⟩
        next => cases fits
      next => cases fits
    next => cases fits
  · rintro ⟨t, c, text, chars, small, rfl⟩
    rw [exactText?_eq_some_iff.mpr text]
    dsimp only
    rw [chars]
    exact if_pos small

/-- A character that a member takes is one of the first 128. -/
theorem ascii_of_convert? (fits : m.convert? current w = some f) : f.Ascii := by
  have kind := kind_of_convert? fits
  cases f with
  | char c =>
    obtain ⟨t, d, -, -, small, same⟩ := (convert?_char_iff kind.symm).mp fits
    cases same
    rw [Field.Ascii, toNat_ofNat_byte small]
    exact small
  | _ => trivial

end Member

namespace ClassSpec

/-- The fields as assignments leave them: of the kinds of their members, and without a character that
is no text of one byte. -/
structure Assigned (c : ClassSpec) (fs : Array Field) : Prop where
  typed : c.Typed fs
  ascii : ∀ f ∈ fs, f.Ascii

variable {c : ClassSpec} {m : Member} {fs : Array Field} {current f : Field} {v : Value}

theorem Assigned.setIfInBounds (assigned : c.Assigned fs) (separate : c.Separate)
    (hm : m ∈ c.members) (writable : m.readonly = false) (present : fs[m.index]? = some current)
    (fits : m.convert? current v = some f) : c.Assigned (fs.setIfInBounds m.index f) := by
  have later := c.later_setIfInBounds separate hm writable present fits
  refine ⟨fun m' hm' => later.typed m' hm' (assigned.typed m' hm'), fun g found => ?_⟩
  rcases Array.mem_or_eq_of_mem_setIfInBounds found with old | rfl
  · exact assigned.ascii g old
  · exact Member.ascii_of_convert? fits

end ClassSpec

namespace Attribute

section uses

variable {h : Hierarchy} {c : Class} {o : Object} {s : Store} {fs : Array Field} {m : Member}
  {current f : Field} (found : h.get? o.cls = some c)
  (entered : c.toClassSpec.attrDict = .ok c.attrs) (stands : s.heap.fields? o = some fs)
  (hm : m ∈ c.members) (holds : fs[m.index]? = some current)

include found entered stands hm holds

end uses

end Attribute

end SlotVM
