import Mathlib.Data.List.Infix
import SlotVM.Proofs.TextBytes

namespace SlotVM

theorem eq_append_of_isPrefix {s t : String} (front : t.toList <+: s.toList) :
    ∃ rest, s.toList = t.toList ++ rest ∧ s.utf8ByteSize = t.utf8ByteSize +
      (String.ofList rest).utf8ByteSize := by
  obtain ⟨rest, parts⟩ := front
  have whole : s = t ++ String.ofList rest := by
    apply String.toList_injective
    rw [String.toList_append, String.toList_ofList, parts]
  refine ⟨rest, parts.symm, ?_⟩
  rw [← String.utf8ByteSize_append, ← whole]

theorem utf8ByteSize_le_of_isPrefix {s t : String} (front : t.toList <+: s.toList) :
    t.utf8ByteSize ≤ s.utf8ByteSize := by
  obtain ⟨rest, -, size⟩ := eq_append_of_isPrefix front
  omega

theorem eq_of_isPrefix {s t : String} (front : t.toList <+: s.toList)
    (long : s.utf8ByteSize ≤ t.utf8ByteSize) : t = s := by
  obtain ⟨rest, parts, size⟩ := eq_append_of_isPrefix front
  have bytes := length_le_utf8ByteSize (String.ofList rest)
  have nothing : rest = [] := by
    rw [String.length_ofList] at bytes
    exact List.eq_nil_of_length_eq_zero (by omega)
  apply String.toList_injective
  rw [parts, nothing, List.append_nil]

/-- The boundaries between characters are the ends of prefixes. -/
theorem isValid_iff_exists_isPrefix {s : String} {n : Nat} : String.Pos.Raw.IsValid s ⟨n⟩ ↔
    ∃ t : String, t.toList <+: s.toList ∧ t.utf8ByteSize = n := by
  rw [String.Pos.Raw.isValid_iff_exists_take_toList]
  constructor
  · rintro ⟨i, size⟩
    refine ⟨String.ofList (s.toList.take i), ?_, size.symm⟩
    rw [String.toList_ofList]
    exact List.take_prefix i s.toList
  · rintro ⟨t, front, size⟩
    refine ⟨t.toList.length, ?_⟩
    rw [← List.prefix_iff_eq_take.mp front, String.ofList_toList]
    exact size.symm

/-- The longest prefix of at most `limit` bytes that ends between two characters. -/
structure LongestPrefix (text : String) (limit : Nat) (kept : String) : Prop where
  front : kept.toList <+: text.toList
  fits : kept.utf8ByteSize ≤ limit
  longest : ∀ n ≤ limit, String.Pos.Raw.IsValid text ⟨n⟩ → n ≤ kept.utf8ByteSize

namespace LongestPrefix

variable {text kept other : String} {limit : Nat}

theorem isValid (h : LongestPrefix text limit kept) :
    String.Pos.Raw.IsValid text ⟨kept.utf8ByteSize⟩ :=
  isValid_iff_exists_isPrefix.mpr ⟨kept, h.front, rfl⟩

theorem of_le (fits : text.utf8ByteSize ≤ limit) : LongestPrefix text limit text := by
  refine ⟨List.prefix_rfl, fits, fun n _ valid => ?_⟩
  obtain ⟨t, front, rfl⟩ := isValid_iff_exists_isPrefix.mp valid
  exact utf8ByteSize_le_of_isPrefix front

theorem isPrefix (h : LongestPrefix text limit kept) (start : other.toList <+: text.toList)
    (small : other.utf8ByteSize ≤ limit) : other.toList <+: kept.toList := by
  have inside := h.longest _ small (isValid_iff_exists_isPrefix.mpr ⟨other, start, rfl⟩)
  rcases List.prefix_or_prefix_of_prefix start h.front with within | beyond
  · exact within
  · exact eq_of_isPrefix beyond inside ▸ List.prefix_rfl

theorem eq (h : LongestPrefix text limit kept) (h' : LongestPrefix text limit other) :
    kept = other :=
  eq_of_isPrefix (h'.isPrefix h.front h.fits) (h.longest _ h'.fits h'.isValid)

theorem trans {m : Nat} (h : LongestPrefix text limit kept) (h' : LongestPrefix kept m other) :
    LongestPrefix text (min m limit) other := by
  have shorter := utf8ByteSize_le_of_isPrefix h'.front
  have room := h.fits
  have room' := h'.fits
  refine ⟨h'.front.trans h.front, by omega, fun n small valid => ?_⟩
  obtain ⟨t, front, rfl⟩ := isValid_iff_exists_isPrefix.mp valid
  have within : t.toList <+: kept.toList := h.isPrefix front (by omega)
  exact h'.longest _ (by omega) (isValid_iff_exists_isPrefix.mpr ⟨t, within, rfl⟩)

/-- What is cut off begins with a character that has no room, so fewer than four bytes are left. -/
theorem next (h : LongestPrefix text limit kept) (long : limit < text.utf8ByteSize) :
    ∃ c rest, text.toList = kept.toList ++ c :: rest ∧ limit < kept.utf8ByteSize + c.utf8Size ∧
      limit ≤ kept.utf8ByteSize + 3 := by
  obtain ⟨rest, parts, size⟩ := eq_append_of_isPrefix h.front
  have room := h.fits
  cases rest with
  | nil =>
    have none : (String.ofList []).utf8ByteSize = 0 := rfl
    omega
  | cons c rest =>
    have longer : (kept.push c).toList <+: text.toList := by
      rw [parts, String.toList_push]
      exact ⟨rest, List.append_assoc _ _ _⟩
    have pushed : (kept.push c).utf8ByteSize = kept.utf8ByteSize + c.utf8Size :=
      String.utf8ByteSize_push
    have beyond : limit < kept.utf8ByteSize + c.utf8Size := by
      refine Nat.lt_of_not_le fun enough => ?_
      have valid := isValid_iff_exists_isPrefix.mpr ⟨kept.push c, longer, pushed⟩
      have most := h.longest _ enough valid
      have one := c.utf8Size_pos
      omega
    have four := c.utf8Size_le_four
    exact ⟨c, rest, parts, beyond, by omega⟩

end LongestPrefix

theorem longestPrefix_clamp (text : String) (limit : Nat) :
    LongestPrefix text limit (clamp text limit) := by
  have chars : (clamp text limit).toList = clampChars text.toList limit := String.toList_ofList
  refine ⟨chars ▸ clampChars_isPrefix text.toList limit, utf8ByteSize_clamp_le text limit, ?_⟩
  intro n small valid
  obtain ⟨t, front, rfl⟩ := isValid_iff_exists_isPrefix.mp valid
  apply utf8ByteSize_le_of_isPrefix
  rw [chars]
  refine isPrefix_clampChars front ?_
  rw [← utf8ByteSize_ofList, String.ofList_toList]
  exact small

/-- The last boundary between characters up to a position, looked for from there backwards, byte by
byte; nothing if the search leaves the text. -/
def boundaryUpTo? (text : String) : Nat → Option Nat
  | 0 => if String.Pos.Raw.isValid text ⟨0⟩ then some 0 else none
  | n + 1 => if String.Pos.Raw.isValid text ⟨n + 1⟩ then some (n + 1) else boundaryUpTo? text n

def clampEnd? (text : String) (limit : Nat) : Option Nat :=
  if text.utf8ByteSize ≤ limit then some text.utf8ByteSize else boundaryUpTo? text limit

/-- The search ends, at the start of the text at the latest. By the position it begins at. -/
theorem exists_boundaryUpTo? (text : String) (limit : Nat) :
    ∃ n ≤ limit, boundaryUpTo? text limit = some n ∧ String.Pos.Raw.IsValid text ⟨n⟩ ∧
      ∀ m ≤ limit, String.Pos.Raw.IsValid text ⟨m⟩ → m ≤ n := by
  induction limit with
  | zero =>
    have start : String.Pos.Raw.IsValid text ⟨0⟩ := String.Pos.Raw.isValid_zero
    refine ⟨0, Nat.le_refl 0, ?_, start, fun m small _ => small⟩
    rw [boundaryUpTo?, if_pos (String.Pos.Raw.isValid_eq_true_iff.mpr start)]
  | succ limit ih =>
    rw [boundaryUpTo?]
    split
    next here =>
      exact ⟨_, Nat.le_refl _, rfl, String.Pos.Raw.isValid_eq_true_iff.mp here,
        fun m small _ => small⟩
    next inside =>
      obtain ⟨n, small, found, valid, last⟩ := ih
      refine ⟨n, Nat.le_succ_of_le small, found, valid, fun m below here => ?_⟩
      have other : m ≠ limit + 1 := by
        rintro rfl
        exact inside (String.Pos.Raw.isValid_eq_true_iff.mpr here)
      exact last m (by omega) here

theorem LongestPrefix.clampEnd?_eq {text kept : String} {limit : Nat}
    (h : LongestPrefix text limit kept) : clampEnd? text limit = some kept.utf8ByteSize := by
  unfold clampEnd?
  split
  next fits => rw [h.eq (.of_le fits)]
  next =>
    obtain ⟨n, small, found, valid, last⟩ := exists_boundaryUpTo? text limit
    have le := h.longest n small valid
    have ge := last _ h.fits h.isValid
    rw [found, Nat.le_antisymm le ge]

/-- The bytes of a prefix are read back as the prefix. -/
theorem decodeText_take {text kept : String} (front : kept.toList <+: text.toList) :
    decodeText ((encodeText text).take kept.utf8ByteSize) = .ok kept := by
  have start : encodeText kept <+: encodeText text := front.flatMap _
  rw [← length_encodeText, ← List.prefix_iff_eq_take.mp start, decodeText_encodeText]

/-- Cutting a text keeps its longest prefix of whole characters within the limit. -/
theorem clamp_longest (text : String) (limit : Nat) :
    LongestPrefix text limit (clamp text limit) ∧
    (∃ stop, clampEnd? text limit = some stop ∧
      decodeText ((encodeText text).take stop) = .ok (clamp text limit)) ∧
    (text.utf8ByteSize ≤ limit → clamp text limit = text) ∧
    (limit < text.utf8ByteSize → ∃ c rest, text.toList = (clamp text limit).toList ++ c :: rest ∧
      limit < (clamp text limit).utf8ByteSize + c.utf8Size ∧
      limit ≤ (clamp text limit).utf8ByteSize + 3) ∧
    clamp (clamp text limit) limit = clamp text limit ∧
    ∀ m, clamp (clamp text limit) m = clamp text (min m limit) := by
  have kept := longestPrefix_clamp text limit
  have again (m : Nat) : clamp (clamp text limit) m = clamp text (min m limit) :=
    (kept.trans (longestPrefix_clamp _ m)).eq (longestPrefix_clamp text (min m limit))
  refine ⟨kept, ⟨_, kept.clampEnd?_eq, decodeText_take kept.front⟩,
    fun fits => kept.eq (.of_le fits), kept.next, ?_, again⟩
  rw [again limit, Nat.min_self]

/-- Two characters of three bytes each, where the limit stands inside the second one. -/
theorem clamp_longest_inside :
    4 < "한글".utf8ByteSize ∧ ∃ c rest, "한글".toList = (clamp "한글" 4).toList ++ c :: rest ∧
      4 < (clamp "한글" 4).utf8ByteSize + c.utf8Size ∧ 4 ≤ (clamp "한글" 4).utf8ByteSize + 3 := by
  obtain ⟨-, -, -, cut, -⟩ := clamp_longest "한글" 4
  exact ⟨by decide, cut (by decide)⟩

example : clamp "한글" 4 = "한" ∧ clampEnd? "한글" 4 = some 3 ∧ clampEnd? "한글" 2 = some 0 := by decide

end SlotVM
