import Mathlib.Data.List.Forall2
import SlotVM.Proofs.ListedCode

namespace SlotVM

namespace Listing

section

variable {heap : Heap} {u : CodeObject} {v : Value} {pos : Nat} {i : Instruction} {t : String}
  {lines : List String}

end

end Listing

end SlotVM
