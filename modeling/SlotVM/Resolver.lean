import SlotVM.Hierarchy

namespace SlotVM

structure Resolver where
  /-- What was found before. -/
  cached : ClassId → (s : Slot) → Option (Native s.signature)
  /-- The number of searches so far. -/
  walks : Nat

namespace Resolver

def empty : Resolver := ⟨fun _ _ => none, 0⟩

instance : Inhabited Resolver := ⟨empty⟩

def isCached (r : Resolver) (id : ClassId) (slot : Slot) : Bool := (r.cached id slot).isSome

/-- The cache with one more entry. -/
def remember (r : Resolver) (id : ClassId) (slot : Slot) (f : Native slot.signature) : Resolver :=
  { r with cached := fun k s =>
      if h : id = k ∧ slot = s then some (h.2 ▸ f) else r.cached k s }

/-- The function of a class for a slot, from the cache or by a search. -/
def resolve (r : Resolver) (h : Hierarchy) (id : ClassId) (slot : Slot) :
    Option (Native slot.signature) × Resolver :=
  match r.cached id slot with
  | some f => (some f, r)
  | none =>
    let r := { r with walks := r.walks + 1 }
    match h.lookup id slot with
    | some f => (some f, r.remember id slot f)
    | none => (none, r)

end Resolver

end SlotVM
