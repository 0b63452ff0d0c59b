import SlotVM.Double.Basic

namespace SlotVM

mutual

/-- An entry of a table of constants. -/
inductive Const where
  | int (n : Int64)
  | float (x : Double)
  | str (s : String)
  | code (s : Segment)

/-- A unit of code as a module file holds it. -/
structure Segment where
  name : String
  argcount : UInt8
  names : List String
  attrs : List String
  consts : List Const
  code : Array UInt8

end

instance : Inhabited Const := ⟨.int 0⟩

namespace Segment

/-- The name of the outermost segment of a module. -/
def moduleName : String := "<module>"

/-- The deepest that segments can stand within the outermost one. -/
def maxNesting : Nat := 64

end Segment

end SlotVM
