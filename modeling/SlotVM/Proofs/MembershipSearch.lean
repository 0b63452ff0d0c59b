import SlotVM.Proofs.HashEquality
import SlotVM.Proofs.HeapGrowth

namespace SlotVM

namespace Operation

section search

variable (host : Host) (h : Hierarchy) (next : Native .unary) (iterator element : Value)

/-- The iterator gives a value that can be compared, from one store to another. -/
structure Given (s : Store) (e : Value) (t : Store) : Prop where
  result : next.fn host iterator h s = (e, t)
  ordinary : e.isSentinel = false
  sound : t.heap.isFailure e = false

/-- The iterator gives these values in turn, and none of them equals the element. -/
inductive Passes : Store → List Value → Store → Prop
  | done {s : Store} : Passes s [] s
  | more {s s₁ s₂ t : Store} {e : Value} {es : List Value}
      (given : Given host h next iterator s e s₁) (differs : eq host e element h s₁ = (.int 0, s₂))
      (later : Passes s₂ es t) : Passes s (e :: es) t

/-- What the iterator gives next decides the search, with this answer. -/
inductive Decides (s : Store) : Value → Value → Store → Prop
  | found {e : Value} {s₁ t : Store} (given : Given host h next iterator s e s₁)
      (equal : eq host e element h s₁ = (.int 1, t)) : Decides s e (.int 1) t
  | stopped {t : Store} (result : next.fn host iterator h s = (.iterStop, t)) :
      Decides s .iterStop (.int 0) t
  | failed {e : Value} {t : Store} (result : next.fn host iterator h s = (e, t))
      (failure : t.heap.isFailure e = true) : Decides s e e t
  | signal {e : Value} {t : Store} (result : next.fn host iterator h s = (e, t))
      (signal : e = .unsupported ∨ e = .divByZero) :
      Decides s e (.error (Fault.internal "operand has no class").error) t

/-- The class of the collection has no function for membership but one for an iterator, which gave one
without a failure, and the class of that one has a function for the next element. -/
inductive Opened (s : Store) (collection : Value) : Native .unary → Value → Store → Prop
  | intro {cls k : ClassId} {give next : Native .unary} {iterator : Value} {s₁ s₂ s₃ t : Store}
      (classed : collection.cls? = some cls)
      (lacks : Run.resolve cls .contains h s = (none, s₁))
      (iterable : Run.resolve cls .iter h s₁ = (some give, s₂))
      (made : give.fn host collection h s₂ = (iterator, s₃))
      (sound : s₃.heap.isFailure iterator = false)
      (advanced : iterator.cls? = some k)
      (advances : Run.resolve k .iterNext h s₃ = (some next, t)) :
      Opened s collection next iterator t

end search

variable {host : Host} {h : Hierarchy} {next : Native .unary} {iterator element : Value}
  {e v : Value} {es : List Value} {s s₁ t : Store}

theorem isFailure_eq {failing : Bool} (known : s.heap.isFailure v = failing) :
    Run.isFailure v h s = (failing, s) := Prod.ext known rfl

/-- Values that have a class are equal or not. -/
theorem eq_zero_or_one (host : Host) (h : Hierarchy) (ordinary : e.isSentinel = false) (b : Value)
    (s : Store) : (eq host e b h s).1 = .int 0 ∨ (eq host e b h s).1 = .int 1 := by
  have truth (b : Bool) : Value.ofBool b = .int 0 ∨ Value.ofBool b = .int 1 := by
    cases b <;> simp [Value.ofBool]
  obtain ⟨cls, classed⟩ : ∃ cls, e.cls? = some cls := by
    cases e with
    | int | float | object => exact ⟨_, rfl⟩
    | _ => cases ordinary
  unfold eq withClass
  rw [classed]
  dsimp only
  rw [Run.bind_eq (x := (Run.resolve cls .eq h s).1) (t := (Run.resolve cls .eq h s).2) rfl]
  cases (Run.resolve cls .eq h s).1 with
  | none => exact truth false
  | some f => exact truth _

theorem searchNext_of_given (given : Given host h next iterator s e s₁)
    (compared : eq host e element h s₁ = (v, t)) :
    searchNext host next iterator element h s =
      (match v with
      | .int n => if n == 0 then none else some (.int 1)
      | failure => some failure, t) := by
  obtain ⟨result, ordinary, sound⟩ := given
  have running : ¬ e.isIterStop = true := by
    intro stop
    cases e <;> cases stop
    cases ordinary
  unfold searchNext
  rw [Run.bind_eq result, if_neg running, Run.bind_eq (isFailure_eq sound), if_neg Bool.false_ne_true,
    Run.bind_eq compared]
  cases v <;> rfl

theorem searchNext_of_decides (decides : Decides host h next iterator element s e v t) :
    searchNext host next iterator element h s = (some v, t) := by
  cases decides with
  | found given equal => exact searchNext_of_given given equal
  | stopped result =>
    unfold searchNext
    rw [Run.bind_eq result]
    rfl
  | failed result failure =>
    have running : ¬ e.isIterStop = true := by
      intro stop
      cases e <;> cases stop
      cases failure
    unfold searchNext
    rw [Run.bind_eq result, if_neg running, Run.bind_eq (isFailure_eq failure), if_pos rfl]
    rfl
  | signal result signal =>
    unfold searchNext
    rw [Run.bind_eq result]
    rcases signal with rfl | rfl <;> rfl

theorem searchNext_cases (host : Host) (h : Hierarchy) (next : Native .unary)
    (iterator element : Value) (s : Store) :
    (∃ e s₁ t, Given host h next iterator s e s₁ ∧ eq host e element h s₁ = (.int 0, t)) ∨
      ∃ e v t, Decides host h next iterator element s e v t := by
  obtain ⟨e, s₁, result⟩ : ∃ e s₁, next.fn host iterator h s = (e, s₁) := ⟨_, _, rfl⟩
  by_cases failure : s₁.heap.isFailure e = true
  · exact .inr ⟨_, _, _, .failed result failure⟩
  cases ordinary : e.isSentinel with
  | true =>
    cases e with
    | iterStop => exact .inr ⟨_, _, _, .stopped result⟩
    | unsupported => exact .inr ⟨_, _, _, .signal result (.inl rfl)⟩
    | divByZero => exact .inr ⟨_, _, _, .signal result (.inr rfl)⟩
    | error => exact absurd rfl failure
    | _ => cases ordinary
  | false =>
    have given : Given host h next iterator s e s₁ := ⟨result, ordinary, by simpa using failure⟩
    obtain ⟨n, t, compared⟩ : ∃ n t, eq host e element h s₁ = (n, t) := ⟨_, _, rfl⟩
    have decided : n = .int 0 ∨ n = .int 1 := by
      have either := eq_zero_or_one host h ordinary element s₁
      rw [compared] at either
      exact either
    rcases decided with rfl | rfl
    · exact .inl ⟨e, s₁, t, given, compared⟩
    · exact .inr ⟨_, _, _, .found given compared⟩

theorem searchWithin_of_passes (passes : Passes host h next iterator element s es t)
    (limit : Nat) : searchWithin host next iterator element (es.length + limit) h s =
      searchWithin host next iterator element limit h t := by
  induction passes with
  | done => rw [List.length_nil, Nat.zero_add]
  | more given differs _ ih =>
    rw [List.length_cons, Nat.add_right_comm, searchWithin,
      Run.bind_eq (searchNext_of_given given differs)]
    exact ih

theorem searchWithin_of_decides (decides : Decides host h next iterator element s e v t)
    (limit : Nat) : searchWithin host next iterator element (limit + 1) h s = (some v, t) := by
  rw [searchWithin, Run.bind_eq (searchNext_of_decides decides)]
  rfl

theorem exists_passes (host : Host) (h : Hierarchy) (next : Native .unary)
    (iterator element : Value) (limit : Nat) (s : Store) :
    (∃ es t, es.length = limit ∧ Passes host h next iterator element s es t) ∨
      ∃ es e v s₁ t, es.length < limit ∧ Passes host h next iterator element s es s₁ ∧
        Decides host h next iterator element s₁ e v t := by
  -- A first element that differs leaves a store from which the rest of the limit is searched.
  induction limit generalizing s with
  | zero => exact .inl ⟨[], s, rfl, .done⟩
  | succ limit ih =>
    rcases searchNext_cases host h next iterator element s with
      ⟨e, s₁, t, given, differs⟩ | ⟨e, v, t, decides⟩
    · rcases ih t with ⟨es, t', length, passes⟩ | ⟨es, e', v, s', t', short, passes, decides⟩
      · exact .inl ⟨e :: es, t', congrArg Nat.succ length, .more given differs passes⟩
      · exact .inr ⟨e :: es, e', v, s', t', Nat.succ_lt_succ short, .more given differs passes,
          decides⟩
    · exact .inr ⟨[], e, v, s, t, Nat.succ_pos limit, .done, decides⟩

theorem searchWithin_eq_of_decides {limit : Nat} (short : es.length < limit)
    (passes : Passes host h next iterator element s es s₁)
    (decides : Decides host h next iterator element s₁ e v t) :
    searchWithin host next iterator element limit h s = (some v, t) := by
  obtain ⟨more, rfl⟩ := Nat.exists_eq_add_of_lt short
  rw [Nat.add_assoc, searchWithin_of_passes passes, searchWithin_of_decides decides]

theorem searchWithin_eq_some_iff {limit : Nat} :
    searchWithin host next iterator element limit h s = (some v, t) ↔
      ∃ es e s₁, es.length < limit ∧ Passes host h next iterator element s es s₁ ∧
        Decides host h next iterator element s₁ e v t := by
  constructor
  · intro answered
    rcases exists_passes host h next iterator element limit s with
      ⟨es, t', rfl, passes⟩ | ⟨es, e, v', s₁, t', short, passes, decides⟩
    · have passed := searchWithin_of_passes passes 0
      rw [Nat.add_zero, answered] at passed
      cases passed
    · cases answered.symm.trans (searchWithin_eq_of_decides short passes decides)
      exact ⟨es, e, s₁, short, passes, decides⟩
  · rintro ⟨es, e, s₁, short, passes, decides⟩
    exact searchWithin_eq_of_decides short passes decides

theorem searchWithin_eq_none_iff {limit : Nat} :
    searchWithin host next iterator element limit h s = (none, t) ↔
      ∃ es, es.length = limit ∧ Passes host h next iterator element s es t := by
  constructor
  · intro unanswered
    rcases exists_passes host h next iterator element limit s with
      ⟨es, t', rfl, passes⟩ | ⟨es, e, v, s₁, t', short, passes, decides⟩
    · have passed := searchWithin_of_passes passes 0
      rw [Nat.add_zero, unanswered] at passed
      cases passed
      exact ⟨es, rfl, passes⟩
    · cases unanswered.symm.trans (searchWithin_eq_of_decides short passes decides)
  · rintro ⟨es, rfl, passes⟩
    exact searchWithin_of_passes passes 0

theorem contains_of_opened {collection : Value} (opened : Opened host h s collection next iterator t)
    (limit : Nat) : contains host limit element collection h s =
      searchWithin host next iterator element limit h t := by
  obtain ⟨classed, lacks, iterable, made, sound, advanced, advances⟩ := opened
  have begun : beginSearch host element collection h s = (.ongoing next iterator, t) := by
    unfold beginSearch
    dsimp only
    rw [classed]
    dsimp only
    rw [Run.bind_eq lacks]
    dsimp only
    rw [Run.bind_eq iterable]
    dsimp only
    rw [Run.bind_eq made, Run.bind_eq (isFailure_eq sound), if_neg Bool.false_ne_true, advanced]
    dsimp only
    rw [Run.bind_eq advances]
    rfl
  rw [contains, Run.bind_eq begun]

theorem exists_resolve (sound : s.resolver.Sound h) (cls : ClassId) (slot : Slot) :
    ∃ t, Run.resolve cls slot h s = (h.lookup cls slot, t) ∧ t.heap = s.heap ∧
      t.resolver.Sound h :=
  ⟨_, Prod.ext (Resolver.resolve_fst sound cls slot) rfl, rfl, sound.resolve cls slot⟩

/-- A search gives the answer for the first value of the iterator that decides it, and asks the
iterator for no value after that one. -/
theorem membership_by_iteration (config : Config) (requests : List Request) (heap : Heap)
    (host : Host) (element collection : Value) :
    let vm := (Vm.new config).serveAll requests
    let h := vm.hierarchy
    let s : Store := { vm.store with heap }
    (∀ next iterator start, Opened host h s collection next iterator start →
      (∀ limit v t, contains host limit element collection h s = (some v, t) ↔
        ∃ es e s₁, es.length < limit ∧ Passes host h next iterator element start es s₁ ∧
          Decides host h next iterator element s₁ e v t) ∧
      ∀ limit t, contains host limit element collection h s = (none, t) ↔
        ∃ es, es.length = limit ∧ Passes host h next iterator element start es t) ∧
    ∀ cls give, collection.cls? = some cls → h.lookup cls .contains = none →
      h.lookup cls .iter = some give →
      ∃ asked : Store, asked.heap = heap ∧ asked.resolver.Sound h ∧
        let made := give.fn host collection h asked
        made.2.resolver.Sound h → made.2.heap.isFailure made.1 = false →
        ∀ k next, made.1.cls? = some k → h.lookup k .iterNext = some next →
          ∃ start, start.heap = made.2.heap ∧ start.resolver.Sound h ∧
            Opened host h s collection next made.1 start := by
  intro vm h s
  refine ⟨fun next iterator start opened => ⟨fun limit v t => ?_, fun limit t => ?_⟩,
    fun cls give classed lacks iterable => ?_⟩
  · rw [contains_of_opened opened]
    exact searchWithin_eq_some_iff
  · rw [contains_of_opened opened]
    exact searchWithin_eq_none_iff
  · have sound : s.resolver.Sound h := ((Vm.new_consistent config).serveAll requests).sound
    obtain ⟨s₁, resolved, same, sound⟩ := exists_resolve sound cls .contains
    obtain ⟨s₂, resolved', same', sound⟩ := exists_resolve sound cls .iter
    rw [lacks] at resolved
    rw [iterable] at resolved'
    refine ⟨s₂, same'.trans same, sound, fun sound fine k next advanced advances => ?_⟩
    obtain ⟨start, resolved'', same'', sound⟩ := exists_resolve sound k .iterNext
    rw [advances] at resolved''
    exact ⟨start, same'', sound, .intro classed resolved resolved' rfl fine advanced resolved''⟩

end Operation

namespace Counter

/-- The next number below three, which the field of the counter holds. -/
def count (counter : Value) : Run Value := do
  match counter with
  | .object o =>
    match (← Run.heap).fields? o with
    | some #[.long n] =>
      if n < 3 then
        Run.modifyHeap fun heap => heap.setFields o #[.long (n + 1)]
        return .int n
      else return .iterStop
    | _ => return .iterStop
  | _ => return .iterStop

/-- A counter is its own iterator. -/
def host : Host
  | .unary, 0 => fun counter => return counter
  | .unary, 1 => count
  | sig, i => Host.none sig i

def spec : ClassSpec :=
  { name := "Counter", layout := .fields : ClassSpec }
    |>.withSlot .iter (.host 0)
    |>.withSlot .iterNext (.host 1)

open Operation

variable {h : Hierarchy} {s : Store} {o : Object}

theorem count_eq {n : Int64} (stands : s.heap.fields? o = some #[.long n]) (below : n < 3) :
    count (.object o) h s = (.int n, { s with heap := s.heap.setFields o #[.long (n + 1)] }) := by
  unfold count
  dsimp only
  rw [Run.bind_eq (x := s.heap) (t := s) rfl, stands]
  show (ite (n < 3) _ _ : Run Value) h s = _
  rw [if_pos below]
  rfl

theorem compare_eq (standard : h.Standard) (sound : s.resolver.Sound h) (m n : Int64) :
    ∃ t, eq host (.int m) (.int n) h s = (.ofBool (m == n), t) ∧ t.heap = s.heap ∧
      t.resolver.Sound h := by
  obtain ⟨value, same, sound⟩ :=
    (Hashed.int m).eq_yields standard host (.int n) s.heap s.resolver sound
  exact ⟨_, Prod.ext value rfl, same, sound⟩

/-- The second number of the counter is found with a limit of two, and with no smaller one. -/
theorem membership_by_iteration_counter :
    let vm := (Vm.new {}).serveAll [.register spec]
    let h := vm.hierarchy
    let counter : Value := .object ⟨0, 12, .fields⟩
    let s : Store := { vm.store with heap := ⟨#[.fields #[.long 0]]⟩ }
    h.lookup 12 .contains = none ∧ h.lookup 12 .iter = some (.host 0) ∧
      h.lookup 12 .iterNext = some (.host 1) ∧
      (∃ start, Opened host h s counter (.host 1) counter start) ∧
      ∃ t t', contains host 2 (.int 1) counter h s = (some (.int 1), t) ∧
        contains host 1 (.int 1) counter h s = (none, t') := by
  intro vm h counter s
  have standard : h.Standard := ((Vm.new_consistent {}).serveAll [.register spec]).standard
  have slots (slot : Slot) :
      h.lookup 12 slot = (spec.slots slot).or (ClassSpec.object.slots slot) := by
    obtain ⟨c, found, base, own⟩ : ∃ c, h.get? 12 = some c ∧ c.base = some .object ∧
        c.slots = spec.slots := ⟨_, rfl, rfl, rfl⟩
    obtain ⟨root, top, rootSlots⟩ : ∃ root, h.get? .object = some root ∧
        root.slots = ClassSpec.object.slots := ⟨_, rfl, rfl⟩
    rw [← own, ← rootSlots]
    exact Hierarchy.lookup_below_root standard.rooted found base top slot
  have lacks : h.lookup 12 .contains = none := slots .contains
  have iterable : h.lookup 12 .iter = some (.host 0) := slots .iter
  have advances : h.lookup 12 .iterNext = some (.host 1) := slots .iterNext
  obtain ⟨search, opening⟩ :=
    membership_by_iteration {} [.register spec] s.heap host (.int 1) counter
  obtain ⟨asked, same, sound, begins⟩ := opening 12 (.host 0) rfl lacks iterable
  obtain ⟨start, same', sound, opened⟩ := begins sound rfl 12 (.host 1) rfl advances
  obtain ⟨answered, unanswered⟩ := search _ _ _ opened
  have zero : start.heap.fields? ⟨0, 12, .fields⟩ = some #[.long 0] := by
    rw [same']
    exact same ▸ rfl
  obtain ⟨middle, differs, same, sound⟩ := compare_eq standard
    (s := { start with heap := start.heap.setFields ⟨0, 12, .fields⟩ #[.long 1] }) sound 0 1
  have one : middle.heap.fields? ⟨0, 12, .fields⟩ = some #[.long 1] := by
    rw [same]
    exact Heap.fields?_setFields_self zero (Heap.lt_size_of_fields? zero (i := 0) rfl) _
  obtain ⟨last, equal, -, -⟩ := compare_eq standard
    (s := { middle with heap := middle.heap.setFields ⟨0, 12, .fields⟩ #[.long 2] }) sound 1 1
  have passes : Passes host h (.host 1) counter (.int 1) start [.int 0] middle :=
    .more ⟨count_eq zero (by decide), rfl, rfl⟩ differs .done
  exact ⟨lacks, iterable, advances, ⟨start, opened⟩, last, middle,
    (answered 2 _ _).mpr ⟨[.int 0], _, _, Nat.lt_succ_self 1, passes,
      .found ⟨count_eq one (by decide), rfl, rfl⟩ equal⟩,
    (unanswered 1 _).mpr ⟨_, rfl, passes⟩⟩

end Counter

end SlotVM
