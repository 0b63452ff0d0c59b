import Mathlib.Data.String.Basic
import SlotVM.Proofs.TextBytes

namespace SlotVM

/-- The digits of a number to base 64, so many after the first one, which is added to a byte of its
own. -/
def codeBytes (lead : Nat) : Nat → Nat → List UInt8
  | 0, n => [UInt8.ofNat (lead + n)]
  | k + 1, n => codeBytes lead k (n / 64) ++ [UInt8.ofNat (n % 64 + 128)]

/-- The number of bytes after the first one of a character. -/
def following (n : Nat) : Nat :=
  if n < 128 then 0 else if n < 2048 then 1 else if n < 65536 then 2 else 3

/-- What the first byte of a character begins with. -/
def leading : Nat → Nat
  | 0 => 0
  | 1 => 192
  | 2 => 224
  | _ => 240

theorem utf8EncodeChar_eq_codeBytes (c : Char) : String.utf8EncodeChar c =
    codeBytes (leading (following c.toNat)) (following c.toNat) c.toNat := by
  have bound : c.toNat < 1114112 := by
    rcases c.valid with low | high <;> simp only [Char.toNat] <;> omega
  have code : c.val.toNat = c.toNat := rfl
  unfold String.utf8EncodeChar following
  simp only [code, ← Nat.lt_succ_iff, Nat.succ_eq_add_one, Nat.reduceAdd]
  split
  next => simp [codeBytes, leading]
  next =>
    split
    next two =>
      have first : c.toNat / 64 % 32 + 192 = 192 + c.toNat / 64 := by omega
      simp [codeBytes, leading, first]
    next =>
      split
      next three =>
        have first : c.toNat / 4096 % 16 + 224 = 224 + c.toNat / 64 / 64 := by omega
        simp [codeBytes, leading, first]
      next four =>
        have first : c.toNat / 262144 % 8 + 240 = 240 + c.toNat / 64 / 64 / 64 := by omega
        have second : c.toNat / 4096 % 64 = c.toNat / 64 / 64 % 64 := by omega
        simp [codeBytes, leading, first, second]

theorem codeBytes_eq_cons (lead k n : Nat) :
    ∃ rest, codeBytes lead k n = UInt8.ofNat (lead + n / 64 ^ k) :: rest := by
  induction k generalizing n with
  | zero => exact ⟨[], by simp [codeBytes]⟩
  | succ k ih =>
    obtain ⟨rest, eq⟩ := ih (n / 64)
    refine ⟨rest ++ [UInt8.ofNat (n % 64 + 128)], ?_⟩
    rw [codeBytes, eq, Nat.div_div_eq_div_mul, Nat.pow_succ', List.cons_append]

theorem ofNat_lt_ofNat {m n : Nat} (lt : m < n) (byte : n < 256) :
    UInt8.ofNat m < UInt8.ofNat n := by
  rw [UInt8.lt_iff_toNat_lt, UInt8.toNat_ofNat', UInt8.toNat_ofNat']
  omega

/-- Digits of one width are in the order of the numbers, whatever follows them. -/
theorem codeBytes_lt {lead k m n : Nat} (lt : m < n) (byte : lead + n / 64 ^ k < 256)
    (us vs : List UInt8) : codeBytes lead k m ++ us < codeBytes lead k n ++ vs := by
  induction k generalizing m n us vs with
  | zero =>
    refine List.Lex.rel (ofNat_lt_ofNat (by omega) ?_)
    rwa [Nat.pow_zero, Nat.div_one] at byte
  | succ k ih =>
    rw [codeBytes, codeBytes, List.append_assoc, List.append_assoc]
    rcases Nat.lt_or_ge (m / 64) (n / 64) with high | high
    · refine ih high ?_ _ _
      rwa [Nat.div_div_eq_div_mul, ← Nat.pow_succ']
    · have same : m / 64 = n / 64 := by omega
      rw [same]
      exact List.append_left_lt (List.Lex.rel (ofNat_lt_ofNat (by omega) (by omega)))

/-- A greater code point of another width begins with a greater byte. -/
theorem leading_lt {m n : Nat} (lt : m < n) (width : following m ≠ following n) :
    leading (following m) + m / 64 ^ following m < leading (following n) + n / 64 ^ following n := by
  unfold following at *
  split_ifs at * <;> simp [leading] at * <;> omega

theorem leading_byte {n : Nat} (bound : n < 1114112) :
    leading (following n) + n / 64 ^ following n < 256 := by
  unfold following
  split_ifs <;> simp [leading] <;> omega

theorem utf8EncodeChar_lt {c d : Char} (lt : c.toNat < d.toNat) (us vs : List UInt8) :
    String.utf8EncodeChar c ++ us < String.utf8EncodeChar d ++ vs := by
  have byte : leading (following d.toNat) + d.toNat / 64 ^ following d.toNat < 256 := by
    refine leading_byte ?_
    rcases d.valid with low | high <;> simp only [Char.toNat] <;> omega
  rw [utf8EncodeChar_eq_codeBytes, utf8EncodeChar_eq_codeBytes]
  by_cases width : following c.toNat = following d.toNat
  · rw [width]
    exact codeBytes_lt lt byte us vs
  · obtain ⟨rest, first⟩ := codeBytes_eq_cons _ (following c.toNat) c.toNat
    obtain ⟨rest', first'⟩ := codeBytes_eq_cons _ (following d.toNat) d.toNat
    rw [first, first']
    exact List.Lex.rel (ofNat_lt_ofNat (leading_lt lt width) byte)

theorem flatMap_lt {cs ds : List Char} (lt : cs < ds) :
    cs.flatMap String.utf8EncodeChar < ds.flatMap String.utf8EncodeChar := by
  induction lt with
  | @nil d ds =>
    obtain ⟨b, others, encoded, -, -⟩ := utf8EncodeChar_eq_cons d
    rw [List.flatMap_cons, encoded]
    exact List.Lex.nil
  | @rel c cs d ds lt => exact utf8EncodeChar_lt lt _ _
  | @cons c cs ds _ ih => exact List.append_left_lt ih

/-- Texts are in the order of their bytes. -/
theorem encodeText_lt_iff {s t : String} : encodeText s < encodeText t ↔ s < t := by
  constructor
  · intro bytes
    rcases lt_trichotomy s t with lt | rfl | gt
    · exact lt
    · exact absurd bytes (List.lt_irrefl _)
    · exact absurd bytes (List.lt_asymm (flatMap_lt gt))
  · exact flatMap_lt

end SlotVM
