import Mathlib.Data.List.Infix
import SlotVM.Proofs.TextBytes
import SlotVM.Proofs.TextClasses

namespace SlotVM

namespace Operation

variable (host : Host) {h : Hierarchy} {a b : Value} {s t : String}

end Operation

end SlotVM
