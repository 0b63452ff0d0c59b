import Mathlib.Data.List.Sort
import SlotVM.Proofs.ListingFormat

namespace SlotVM

namespace CodeObject

/-- The unit of code that a path of places of constants leads to, from one unit to the next. -/
def at? : CodeObject → List Nat → Option CodeObject
  | c, [] => some c
  | c, i :: path => (c.consts[i]?.bind Value.code?).bind fun d => d.at? path

def inside? (values : List Value) : List Nat → Option CodeObject
  | [] => none
  | i :: path => (values[i]?.bind Value.code?).bind fun d => d.at? path

/-- The path from a list with one more value in front. -/
def laterPath : List Nat → List Nat
  | [] => []
  | i :: path => (i + 1) :: path

/-- The units are those that paths lead to, each with its depth, in the lexicographic order of the
paths, in which a path comes before all that go on from it. -/
structure Enumerates (depth : Nat) (find : List Nat → Option CodeObject) (paths : List (List Nat))
    (units : List (Nat × CodeObject)) : Prop where
  ordered : paths.Pairwise (· < ·)
  complete : ∀ p u, find p = some u → p ∈ paths
  shown : paths.map (fun p => (find p).map (depth + p.length, ·)) = units.map some

variable {c d u : CodeObject} {v : Value} {rest : List Value} {depth : Nat}
  {find : List Nat → Option CodeObject} {paths ps qs : List (List Nat)}
  {units others : List (Nat × CodeObject)}

theorem at?_cons (c : CodeObject) (i : Nat) (path : List Nat) :
    c.at? (i :: path) = inside? c.consts (i :: path) := rfl

theorem inside?_laterPath (v : Value) (rest : List Value) (p : List Nat) :
    inside? (v :: rest) (laterPath p) = inside? rest p := by
  cases p <;> rfl

theorem length_laterPath (p : List Nat) : (laterPath p).length = p.length := by
  cases p <;> rfl

theorem laterPath_lt {p q : List Nat} (lt : p < q) : laterPath p < laterPath q := by
  cases q with
  | nil => exact absurd lt (List.not_lt_nil p)
  | cons j q =>
    cases p with
    | nil => exact List.nil_lt_cons _ _
    | cons i p =>
      rcases List.cons_lt_cons_iff.mp lt with less | ⟨rfl, less⟩
      · exact List.cons_lt_cons_iff.mpr (.inl (Nat.succ_lt_succ less))
      · exact List.cons_lt_cons_iff.mpr (.inr ⟨rfl, less⟩)

namespace Enumerates

theorem exists_of_mem (enum : Enumerates depth find paths units) {p : List Nat}
    (member : p ∈ paths) : ∃ u, find p = some u := by
  have image : (find p).map (depth + p.length, ·) ∈ units.map some :=
    enum.shown ▸ List.mem_map_of_mem member
  obtain ⟨unit, -, same⟩ := List.mem_map.mp image
  cases found : find p with
  | none =>
    rw [found] at same
    cases same
  | some u => exact ⟨u, rfl⟩

theorem mem_iff (enum : Enumerates depth find paths units) (p : List Nat) :
    p ∈ paths ↔ ∃ u, find p = some u :=
  ⟨enum.exists_of_mem, fun ⟨u, found⟩ => enum.complete p u found⟩

theorem empty (depth : Nat) (missing : ∀ p, find p = none) : Enumerates depth find [] [] :=
  ⟨.nil, fun p _ found => (nomatch (missing p).symm.trans found), rfl⟩

/-- What the first value leads to comes before what the others lead to. -/
theorem cons (first : Enumerates (depth + 1) (fun p => v.code?.bind fun d => d.at? p) ps units)
    (later : Enumerates depth (inside? rest) qs others) :
    Enumerates depth (inside? (v :: rest)) (ps.map (0 :: ·) ++ qs.map laterPath)
      (units ++ others) := by
  refine ⟨?_, fun p u found => ?_, ?_⟩
  · have left : (ps.map (0 :: ·)).Pairwise (· < ·) :=
      first.ordered.map _ fun p q lt => List.cons_lt_cons_iff.mpr (.inr ⟨rfl, lt⟩)
    have right : (qs.map laterPath).Pairwise (· < ·) :=
      later.ordered.map _ fun p q lt => laterPath_lt lt
    refine List.pairwise_append.mpr ⟨left, right, fun p hp q hq => ?_⟩
    -- The paths from the first value begin with zero, the others do not.
    obtain ⟨p, -, rfl⟩ := List.mem_map.mp hp
    obtain ⟨q, member, rfl⟩ := List.mem_map.mp hq
    obtain ⟨u, found⟩ := later.exists_of_mem member
    cases q with
    | nil => cases found
    | cons j q => exact List.cons_lt_cons_iff.mpr (.inl (Nat.succ_pos j))
  · cases p with
    | nil => cases found
    | cons i p =>
      rw [List.mem_append]
      cases i with
      | zero => exact .inl (List.mem_map_of_mem (first.complete p u found))
      | succ i => exact .inr (List.mem_map_of_mem (later.complete (i :: p) u found))
  · rw [List.map_append, List.map_append, ← first.shown, ← later.shown, List.map_map, List.map_map]
    congr 1
    · refine List.map_congr_left fun p _ => ?_
      have length : depth + (0 :: p).length = depth + 1 + p.length := by
        rw [List.length_cons]
        omega
      rw [Function.comp_apply, length]
      rfl
    · refine List.map_congr_left fun q _ => ?_
      rw [Function.comp_apply, inside?_laterPath, length_laterPath]

theorem unit (within : Enumerates depth (inside? c.consts) paths units) :
    Enumerates depth c.at? ([] :: paths) ((depth, c) :: units) := by
  have proper : ∀ p ∈ paths, p ≠ [] ∧ c.at? p = inside? c.consts p := by
    intro p member
    obtain ⟨u, found⟩ := within.exists_of_mem member
    cases p with
    | nil => cases found
    | cons i p => exact ⟨nofun, c.at?_cons i p⟩
  refine ⟨List.pairwise_cons.mpr ⟨fun p member => ?_, within.ordered⟩, fun p u found => ?_, ?_⟩
  · cases p with
    | nil => exact absurd rfl (proper [] member).1
    | cons i p => exact List.nil_lt_cons i p
  · cases p with
    | nil => exact List.mem_cons_self
    | cons i p => exact List.mem_cons_of_mem _ (within.complete (i :: p) u found)
  · rw [List.map_cons, List.map_cons, ← within.shown]
    refine congrArg _ (List.map_congr_left fun p member => ?_)
    rw [(proper p member).2]

end Enumerates

end CodeObject

namespace NestedUnit

/-- A function that returns a number. -/
def function : CodeObject := ⟨"f", 0, [], ["a"], [], (Instruction.loadInt 7).encode.toArray⟩

/-- Code that stores the function over and over, with a number before it among the constants. -/
def module : CodeObject :=
  ⟨"m", 0, ["x"], [], [.int 1, .object ⟨0, .code, .code function⟩],
    ([Instruction.loadConst 1, .store 0, .jump .backward .always 9].flatMap
      Instruction.encode).toArray⟩

end NestedUnit

end SlotVM
