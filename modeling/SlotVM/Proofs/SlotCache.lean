import SlotVM.Proofs.ClassChain
import SlotVM.Vm

namespace SlotVM

namespace Resolver

/-- The cache holds nothing but what a search of the table finds. -/
def Sound (r : Resolver) (h : Hierarchy) : Prop :=
  ∀ id slot f, r.cached id slot = some f → h.lookup id slot = some f

theorem empty_sound (h : Hierarchy) : empty.Sound h := by
  intro id slot f cached
  cases cached

theorem Sound.mono {r : Resolver} {g h : Hierarchy} (sound : r.Sound h) (rooted : h.Rooted)
    (rooted' : g.Rooted) (ext : g.Extends h) : r.Sound g :=
  fun id slot f cached => Hierarchy.lookup_mono rooted rooted' ext (sound id slot f cached)

theorem cached_remember (r : Resolver) (id k : ClassId) (slot s : Slot)
    (f : Native slot.signature) :
    (r.remember id slot f).cached k s =
      if h : id = k ∧ slot = s then some (h.2 ▸ f) else r.cached k s := rfl

theorem isCached_remember (r : Resolver) (id k : ClassId) (slot s : Slot)
    (f : Native slot.signature) :
    (r.remember id slot f).isCached k s = true ↔
      r.isCached k s = true ∨ (k = id ∧ s = slot) := by
  unfold isCached
  rw [cached_remember]
  split
  next same => simp [same.1, same.2]
  next differ =>
    constructor
    · exact Or.inl
    · rintro (cached | ⟨rfl, rfl⟩)
      · exact cached
      · exact absurd ⟨rfl, rfl⟩ differ

/-- With a sound cache the answer is that of a search. -/
theorem resolve_fst {r : Resolver} {h : Hierarchy} (sound : r.Sound h) (id : ClassId)
    (slot : Slot) : (r.resolve h id slot).1 = h.lookup id slot := by
  unfold resolve
  cases cached : r.cached id slot with
  | some f => exact (sound id slot f cached).symm
  | none => cases h.lookup id slot <;> rfl

theorem Sound.resolve {r : Resolver} {h : Hierarchy} (sound : r.Sound h) (id : ClassId)
    (slot : Slot) : (r.resolve h id slot).2.Sound h := by
  unfold Resolver.resolve
  cases cached : r.cached id slot with
  | some f => exact sound
  | none =>
    cases found : h.lookup id slot with
    | none => exact sound
    | some f =>
      intro k s g hg
      simp only [cached_remember] at hg
      split at hg
      next same =>
        obtain ⟨rfl, rfl⟩ := same
        exact found.trans hg
      next => exact sound k s g hg

/-- Answering caches the key that was asked for, if something was found, and no other. -/
theorem isCached_resolve (r : Resolver) (h : Hierarchy) (id k : ClassId) (slot s : Slot) :
    (r.resolve h id slot).2.isCached k s = true ↔
      r.isCached k s = true ∨ (k = id ∧ s = slot ∧ (h.lookup id slot).isSome = true) := by
  unfold resolve
  cases cached : r.cached id slot with
  | some f =>
    constructor
    · exact Or.inl
    · rintro (old | ⟨rfl, rfl, -⟩)
      · exact old
      · simp [isCached, cached]
  | none =>
    cases found : h.lookup id slot with
    | none => simp [isCached]
    | some f =>
      have kept := isCached_remember { r with walks := r.walks + 1 } id k slot s f
      simpa [isCached] using kept

theorem walks_resolve (r : Resolver) (h : Hierarchy) (id : ClassId) (slot : Slot) :
    (r.resolve h id slot).2.walks = r.walks + if r.isCached id slot = true then 0 else 1 := by
  unfold resolve
  cases cached : r.cached id slot with
  | some f => simp [isCached, cached]
  | none => cases found : h.lookup id slot <;> simp [isCached, cached, remember]

end Resolver

/-- What a table of classes is asked to do. -/
inductive Request where
  | register (spec : ClassSpec)
  | resolve (cls : ClassId) (slot : Slot)

namespace Vm

def answer (vm : Vm) (cls : ClassId) (slot : Slot) : Option (Native slot.signature) :=
  (vm.eval (Run.resolve cls slot)).1

/-- The machine after a request; a class that cannot be registered leaves it as it was. -/
def serve (vm : Vm) : Request → Vm
  | .register spec => (vm.register spec).2
  | .resolve cls slot => (vm.eval (Run.resolve cls slot)).2

def serveAll (vm : Vm) (requests : List Request) : Vm := requests.foldl serve vm

def isCached (vm : Vm) (cls : ClassId) (slot : Slot) : Bool := vm.store.resolver.isCached cls slot

def walks (vm : Vm) : Nat := vm.store.resolver.walks

/-- The request makes the machine search the chain of a class for a slot, with success. -/
def searchesFor (vm : Vm) (cls : ClassId) (slot : Slot) : Request → Bool
  | .register _ => false
  | .resolve k s => k = cls && s = slot && vm.walks < (vm.serve (.resolve k s)).walks &&
      (vm.answer k s).isSome

/-- How many of the requests make the machine search for a slot of a class with success. -/
def searchCount (vm : Vm) (cls : ClassId) (slot : Slot) : List Request → Nat
  | [] => 0
  | r :: rest =>
    (if vm.searchesFor cls slot r then 1 else 0) + (vm.serve r).searchCount cls slot rest

/-- The table is one that registration builds up, and the cache fits it. -/
structure Consistent (vm : Vm) : Prop where
  standard : vm.hierarchy.Standard
  sound : vm.store.resolver.Sound vm.hierarchy

theorem new_consistent (config : Config) : (new config).Consistent :=
  ⟨Hierarchy.builtin_standard, Resolver.empty_sound _⟩

theorem register_error_or_ok (vm : Vm) (spec : ClassSpec) :
    (vm.register spec).2 = vm ∨ ∃ id g, vm.hierarchy.register spec = .ok (id, g) ∧
      (vm.register spec).2 = { vm with hierarchy := g } := by
  unfold register
  cases registered : vm.hierarchy.register spec with
  | error fault => exact .inl rfl
  | ok result => exact .inr ⟨result.1, result.2, rfl, rfl⟩

theorem serveAll_keeps {P : Hierarchy → Prop}
    (kept : ∀ {h g : Hierarchy}, P h → ∀ {spec : ClassSpec} {id : ClassId},
      h.register spec = .ok (id, g) → P g)
    (vm : Vm) (holds : P vm.hierarchy) (requests : List Request) :
    P (vm.serveAll requests).hierarchy := by
  induction requests generalizing vm with
  | nil => exact holds
  | cons r rest ih =>
    refine ih (vm.serve r) ?_
    cases r with
    | resolve cls slot => exact holds
    | register spec =>
      rcases vm.register_error_or_ok spec with eq | ⟨id, g, registered, eq⟩
      · simpa only [serve, eq] using holds
      · simpa only [serve, eq] using kept holds registered

theorem store_register (vm : Vm) (spec : ClassSpec) : (vm.register spec).2.store = vm.store := by
  rcases vm.register_error_or_ok spec with eq | ⟨id, g, -, eq⟩ <;> rw [eq]

theorem Consistent.serve {vm : Vm} (consistent : vm.Consistent) (r : Request) :
    (vm.serve r).Consistent := by
  cases r with
  | register spec =>
    rcases vm.register_error_or_ok spec with eq | ⟨id, g, registered, eq⟩
    · simpa only [Vm.serve, eq] using consistent
    · have standard := consistent.standard.register registered
      have ext := Hierarchy.extends_of_register registered
      simp only [Vm.serve, eq]
      exact ⟨standard, consistent.sound.mono consistent.standard.rooted standard.rooted ext⟩
  | resolve cls slot =>
    exact ⟨consistent.standard, consistent.sound.resolve cls slot⟩

theorem Consistent.serveAll {vm : Vm} (consistent : vm.Consistent) (requests : List Request) :
    (vm.serveAll requests).Consistent := by
  induction requests generalizing vm with
  | nil => exact consistent
  | cons r rest ih => exact ih (consistent.serve r)

theorem Consistent.answer_eq {vm : Vm} (consistent : vm.Consistent) (cls : ClassId) (slot : Slot) :
    vm.answer cls slot = vm.hierarchy.lookup cls slot :=
  Resolver.resolve_fst consistent.sound cls slot

theorem Consistent.isCached_serve {vm : Vm} (consistent : vm.Consistent) (r : Request)
    (cls : ClassId) (slot : Slot) : (vm.serve r).isCached cls slot = true ↔
      vm.isCached cls slot = true ∨
        (r = .resolve cls slot ∧ (vm.answer cls slot).isSome = true) := by
  cases r with
  | register spec =>
    have same : (vm.serve (.register spec)).isCached cls slot = vm.isCached cls slot := by
      simp only [isCached, Vm.serve, store_register]
    simp [same]
  | resolve k s =>
    have answered := Resolver.isCached_resolve vm.store.resolver vm.hierarchy k cls s slot
    rw [← consistent.answer_eq] at answered
    refine answered.trans (or_congr_right ?_)
    constructor
    · rintro ⟨rfl, rfl, found⟩
      exact ⟨rfl, found⟩
    · rintro ⟨eq, found⟩
      cases eq
      exact ⟨rfl, rfl, found⟩

/-- A key is cached once it was asked for and something was found. -/
theorem Consistent.isCached_serveAll {vm : Vm} (consistent : vm.Consistent)
    (requests : List Request) (cls : ClassId) (slot : Slot) :
    (vm.serveAll requests).isCached cls slot = true ↔
      vm.isCached cls slot = true ∨ ∃ before rest, requests = before ++ .resolve cls slot :: rest ∧
        ((vm.serveAll before).answer cls slot).isSome = true := by
  induction requests generalizing vm with
  | nil =>
    constructor
    · exact Or.inl
    · rintro (cached | ⟨before, rest, eq, -⟩)
      · exact cached
      · simp at eq
  | cons r rest ih =>
    have served := consistent.isCached_serve r cls slot
    have later := ih (consistent.serve r)
    change ((vm.serve r).serveAll rest).isCached cls slot = true ↔ _
    rw [later, served, or_assoc]
    refine or_congr_right ?_
    constructor
    · rintro (⟨rfl, found⟩ | ⟨before, after, rfl, found⟩)
      · exact ⟨[], rest, rfl, found⟩
      · exact ⟨r :: before, after, rfl, found⟩
    · rintro ⟨before, after, eq, found⟩
      cases before with
      | nil =>
        cases eq
        exact .inl ⟨rfl, found⟩
      | cons first before =>
        cases eq
        exact .inr ⟨before, after, rfl, found⟩

theorem walks_serve_resolve (vm : Vm) (cls : ClassId) (slot : Slot) :
    (vm.serve (.resolve cls slot)).walks =
      vm.walks + if vm.isCached cls slot = true then 0 else 1 :=
  Resolver.walks_resolve vm.store.resolver vm.hierarchy cls slot

theorem searchesFor_eq_true {vm : Vm} {cls : ClassId} {slot : Slot} {r : Request} :
    vm.searchesFor cls slot r = true ↔
      r = .resolve cls slot ∧ vm.isCached cls slot = false ∧
        (vm.answer cls slot).isSome = true := by
  cases r with
  | register spec => simp [searchesFor]
  | resolve k s =>
    simp only [searchesFor, Bool.and_eq_true, decide_eq_true_eq, walks_serve_resolve]
    constructor
    · rintro ⟨⟨⟨rfl, rfl⟩, more⟩, found⟩
      cases cached : vm.isCached k s with
      | false => exact ⟨rfl, rfl, found⟩
      | true => simp [cached] at more
    · rintro ⟨eq, missed, found⟩
      cases eq
      simp [missed, found]

/-- Once a key is cached, nobody searches for it again. -/
theorem Consistent.searchCount_of_isCached {vm : Vm} (consistent : vm.Consistent) {cls : ClassId}
    {slot : Slot} (cached : vm.isCached cls slot = true) (requests : List Request) :
    vm.searchCount cls slot requests = 0 := by
  induction requests generalizing vm with
  | nil => rfl
  | cons r rest ih =>
    have stays := (consistent.isCached_serve r cls slot).mpr (.inl cached)
    have quiet : vm.searchesFor cls slot r = false := by
      cases searches : vm.searchesFor cls slot r with
      | false => rfl
      | true =>
        have missed := (searchesFor_eq_true.mp searches).2.1
        rw [cached] at missed
        cases missed
    simp [searchCount, quiet, ih (consistent.serve r) stays]

theorem Consistent.searchCount_le_one {vm : Vm} (consistent : vm.Consistent) (cls : ClassId)
    (slot : Slot) (requests : List Request) : vm.searchCount cls slot requests ≤ 1 := by
  induction requests generalizing vm with
  | nil => simp [searchCount]
  | cons r rest ih =>
    by_cases searches : vm.searchesFor cls slot r = true
    · obtain ⟨asked, -, found⟩ := searchesFor_eq_true.mp searches
      have cached := (consistent.isCached_serve r cls slot).mpr (.inr ⟨asked, found⟩)
      simp [searchCount, searches, (consistent.serve r).searchCount_of_isCached cached]
    · simpa [searchCount, searches] using ih (consistent.serve r)

/-- The answer for a slot is always what the first class with the slot provides, and no key is
searched for with success twice. -/
theorem answer_after_requests (config : Config) (requests : List Request) (cls : ClassId)
    (slot : Slot) :
    let vm := (new config).serveAll requests
    (∀ f, vm.answer cls slot = some f ↔ vm.hierarchy.Provides slot f cls) ∧
    (vm.answer cls slot = none ↔ ∀ f, ¬ vm.hierarchy.Provides slot f cls) ∧
    (vm.hierarchy.get? cls = none → vm.answer cls slot = none) ∧
    (vm.isCached cls slot = true ↔
      ∃ before rest, requests = before ++ .resolve cls slot :: rest ∧
        (((new config).serveAll before).answer cls slot).isSome = true) ∧
    (∀ r k s, (vm.serve r).isCached k s = true ↔
      vm.isCached k s = true ∨ (r = .resolve k s ∧ (vm.answer k s).isSome = true)) ∧
    ((vm.serve (.resolve cls slot)).walks =
      vm.walks + if vm.isCached cls slot = true then 0 else 1) ∧
    (∀ spec, (vm.serve (.register spec)).walks = vm.walks) ∧
    (new config).searchCount cls slot requests ≤ 1 := by
  intro vm
  have consistent : vm.Consistent := (new_consistent config).serveAll requests
  have provides : ∀ f, vm.answer cls slot = some f ↔ vm.hierarchy.Provides slot f cls := by
    intro f
    rw [consistent.answer_eq]
    exact Hierarchy.lookup_eq_some_iff consistent.standard.rooted
  refine ⟨provides, ?_, ?_, ?_, consistent.isCached_serve, vm.walks_serve_resolve cls slot, ?_,
    (new_consistent config).searchCount_le_one cls slot requests⟩
  · rw [Option.eq_none_iff_forall_ne_some]
    exact forall_congr' fun f => not_congr (provides f)
  · intro missing
    rw [consistent.answer_eq]
    exact Hierarchy.lookup_unregistered consistent.standard.rooted slot missing
  · have cached := (new_consistent config).isCached_serveAll requests cls slot
    have fresh : (new config).isCached cls slot = false := rfl
    rw [fresh] at cached
    simpa using cached
  · intro spec
    simp only [walks, serve, store_register]

end Vm

end SlotVM
