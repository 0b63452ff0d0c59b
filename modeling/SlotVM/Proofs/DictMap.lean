import Mathlib.Data.List.Dedup
import Mathlib.Data.List.Forall2
import SlotVM.Dict

namespace SlotVM

namespace Dict

variable {V : Type}

/-- Every entry carries the hash of its key and stands in the chain where the hash leads. -/
structure Placed (table : Array (List (Entry V))) : Prop where
  pos : 0 < table.size
  place : ∀ i, ∀ e ∈ table.getD i [], e.hash = keyHash e.key ∧ bucketOf e.hash table.size = i

structure Valid (d : Dict V) : Prop where
  placed : Placed d.table
  nodup : (d.entries.map (·.key)).Nodup
  count_eq : d.count = d.entries.length

theorem bucketOf_lt {capacity : Nat} (pos : 0 < capacity) (hash : UInt32) :
    bucketOf hash capacity < capacity := by
  have le : bucketOf hash capacity ≤ capacity - 1 := Nat.and_le_right
  omega

theorem mem_flatten_iff {table : Array (List (Entry V))} {e : Entry V} :
    e ∈ table.toList.flatten ↔ ∃ i, e ∈ table.getD i [] := by
  simp only [List.mem_flatten, Array.getD_eq_getD_getElem?]
  constructor
  · rintro ⟨chain, hc, he⟩
    obtain ⟨i, hi, rfl⟩ := List.getElem_of_mem hc
    refine ⟨i, ?_⟩
    have inside : i < table.size := by simpa using hi
    simpa [inside] using he
  · rintro ⟨i, he⟩
    by_cases inside : i < table.size
    · rw [Array.getElem?_eq_getElem inside] at he
      exact ⟨table[i], Array.mem_toList_iff.mpr (Array.getElem_mem inside), he⟩
    · rw [Array.getElem?_eq_none (Nat.le_of_not_lt inside)] at he
      cases he

theorem isFor_iff {e : Entry V} {key : String} (hashed : e.hash = keyHash e.key) :
    e.isFor key = true ↔ e.key = key := by
  simp only [Entry.isFor, Bool.and_eq_true, beq_iff_eq]
  exact ⟨fun both => both.2, fun eq => ⟨eq ▸ hashed, eq⟩⟩

theorem Placed.hashed {table : Array (List (Entry V))} (placed : Placed table) {e : Entry V}
    (he : e ∈ table.toList.flatten) : e.hash = keyHash e.key := by
  obtain ⟨i, hi⟩ := mem_flatten_iff.mp he
  exact (placed.place i e hi).1

theorem Placed.mem_chain_iff {d : Dict V} (placed : Placed d.table) {e : Entry V} :
    e ∈ d.chain e.key ↔ e ∈ d.entries := by
  constructor
  · intro he
    exact mem_flatten_iff.mpr ⟨_, he⟩
  · intro he
    obtain ⟨i, hi⟩ := mem_flatten_iff.mp he
    obtain ⟨hashed, rfl⟩ := placed.place i e hi
    rw [hashed] at hi
    exact hi

theorem mem_toList_iff {d : Dict V} {key : String} {value : V} :
    (key, value) ∈ d.toList ↔ ∃ e ∈ d.entries, e.key = key ∧ e.value = value := by
  simp only [toList, List.mem_map, Prod.mk.injEq]

/-- A look-up finds the one entry of the key. -/
theorem Valid.get?_eq_some_iff {d : Dict V} (valid : d.Valid) {key : String} {value : V} :
    d.get? key = some value ↔ (key, value) ∈ d.toList := by
  have hashed {e : Entry V} (he : e ∈ d.entries) : e.hash = keyHash e.key := valid.placed.hashed he
  have inside {e : Entry V} (he : e ∈ d.chain key) : e ∈ d.entries := mem_flatten_iff.mpr ⟨_, he⟩
  rw [mem_toList_iff]
  simp only [get?, Option.map_eq_some_iff]
  constructor
  · rintro ⟨e, found, rfl⟩
    have he : e ∈ d.entries := inside (List.mem_of_find?_eq_some found)
    have forKey : e.isFor key = true :=
      List.find?_some (p := fun e : Entry V => e.isFor key) found
    exact ⟨e, he, (isFor_iff (hashed he)).mp forKey, rfl⟩
  · rintro ⟨e, he, rfl, rfl⟩
    have present : ((d.chain e.key).find? (·.isFor e.key)).isSome = true :=
      List.find?_isSome.mpr
        ⟨e, valid.placed.mem_chain_iff.mpr he, (isFor_iff (hashed he)).mpr rfl⟩
    obtain ⟨e', found⟩ := Option.isSome_iff_exists.mp present
    have he' : e' ∈ d.entries := mem_flatten_iff.mpr ⟨_, List.mem_of_find?_eq_some found⟩
    have forKey : e'.isFor e.key = true :=
      List.find?_some (p := fun e' : Entry V => e'.isFor e.key) found
    have same : e'.key = e.key := (isFor_iff (hashed he')).mp forKey
    have eq : e' = e := List.inj_on_of_nodup_map valid.nodup he' he same
    exact ⟨e', found, by rw [eq]⟩

/-- One chain is changed and all other entries stay. -/
theorem modify_perm (table : Array (List (Entry V))) {i : Nat} (inside : i < table.size) :
    ∃ rest, table.toList.flatten.Perm (table.getD i [] ++ rest) ∧
      ∀ f, (table.modify i f).toList.flatten.Perm (f (table.getD i []) ++ rest) := by
  have hi : i < table.toList.length := by simpa using inside
  have chain : table.getD i [] = table.toList[i] := by simp [inside]
  refine ⟨(table.toList.take i ++ table.toList.drop (i + 1)).flatten, ?_, fun f => ?_⟩
  · have cut : table.toList = table.toList.take i ++ table.toList[i] :: table.toList.drop (i + 1) := by
      rw [List.getElem_cons_drop, List.take_append_drop]
    rw [chain]
    conv_lhs => rw [cut]
    exact List.perm_middle.flatten
  · rw [chain, Array.toList_modify, List.modify_eq_take_cons_drop hi]
    exact List.perm_middle.flatten

theorem Placed.modify {table : Array (List (Entry V))} (placed : Placed table) (i : Nat)
    (f : List (Entry V) → List (Entry V))
    (hf : ∀ e ∈ f (table.getD i []), e.hash = keyHash e.key ∧ bucketOf e.hash table.size = i) :
    Placed (table.modify i f) := by
  refine ⟨by rw [Array.size_modify]; exact placed.pos, fun j e he => ?_⟩
  rw [Array.getD_eq_getD_getElem?, Array.getElem?_modify] at he
  rw [Array.size_modify]
  split at he
  next same =>
    subst same
    cases inside : table[i]? with
    | none => rw [inside] at he; cases he
    | some chain =>
      rw [inside] at he
      refine hf e ?_
      rw [Array.getD_eq_getD_getElem?, inside]
      exact he
  next => exact placed.place j e (by rwa [Array.getD_eq_getD_getElem?])

theorem placed_replicate {capacity : Nat} (pos : 0 < capacity) :
    Placed (Array.replicate capacity ([] : List (Entry V))) := by
  refine ⟨by rwa [Array.size_replicate], fun i e he => ?_⟩
  rw [Array.getD_eq_getD_getElem?, Array.getElem?_replicate] at he
  split at he <;> cases he

theorem flatten_replicate (capacity : Nat) :
    (Array.replicate capacity ([] : List (Entry V))).toList.flatten = [] := by
  rw [Array.toList_replicate, List.flatten_replicate_nil]

theorem Placed.link {table : Array (List (Entry V))} (placed : Placed table) {e : Entry V}
    (hashed : e.hash = keyHash e.key) : Placed (link table e) := by
  refine placed.modify _ _ fun e' he' => ?_
  rcases List.mem_cons.mp he' with rfl | old
  · exact ⟨hashed, rfl⟩
  · exact placed.place _ e' old

theorem link_perm {table : Array (List (Entry V))} (placed : Placed table) (e : Entry V) :
    (link table e).toList.flatten.Perm (e :: table.toList.flatten) := by
  obtain ⟨rest, before, after⟩ := modify_perm table (bucketOf_lt placed.pos e.hash)
  exact (after _).trans (before.symm.cons e)

theorem link_all {table : Array (List (Entry V))} (placed : Placed table) (l : List (Entry V))
    (hashed : ∀ e ∈ l, e.hash = keyHash e.key) :
    Placed (l.foldl link table) ∧
      (l.foldl link table).toList.flatten.Perm (l ++ table.toList.flatten) := by
  induction l generalizing table with
  | nil => exact ⟨placed, .refl _⟩
  | cons e l ih =>
    rw [List.forall_mem_cons] at hashed
    obtain ⟨placed', perm⟩ := ih (placed.link hashed.1) hashed.2
    refine ⟨placed', perm.trans ?_⟩
    exact ((link_perm placed e).append_left l).trans List.perm_middle

theorem grow_placed {d : Dict V} (placed : Placed d.table) :
    Placed d.grow.table ∧ d.grow.entries.Perm d.entries := by
  have pos : 0 < 2 * d.capacity := Nat.mul_pos Nat.two_pos placed.pos
  obtain ⟨placed', perm⟩ := link_all (placed_replicate pos) d.entries fun e he => placed.hashed he
  rw [flatten_replicate, List.append_nil] at perm
  exact ⟨placed', perm⟩

theorem replace?_eq_some {key : String} {value old : V} {chain chain' : List (Entry V)}
    (replaced : replace? key value chain = some (old, chain')) :
    ∃ before e after, chain = before ++ e :: after ∧ e.isFor key = true ∧ e.value = old ∧
      chain' = before ++ { e with value } :: after := by
  induction chain generalizing chain' with
  | nil => cases replaced
  | cons e rest ih =>
    rw [replace?] at replaced
    split at replaced
    next found =>
      cases replaced
      exact ⟨[], e, rest, rfl, found, rfl, rfl⟩
    next =>
      obtain ⟨⟨v, rest'⟩, deeper, eq⟩ := Option.map_eq_some_iff.mp replaced
      cases eq
      obtain ⟨before, e', after, rfl, found, hv, rfl⟩ := ih deeper
      exact ⟨e :: before, e', after, rfl, found, hv, rfl⟩

theorem replace?_eq_none {key : String} {value : V} {chain : List (Entry V)}
    (absent : replace? key value chain = none) : ∀ e ∈ chain, e.isFor key = false := by
  induction chain with
  | nil => intro e he; cases he
  | cons e rest ih =>
    rw [replace?] at absent
    split at absent
    next => cases absent
    next other =>
      have rest_absent := ih (Option.map_eq_none_iff.mp absent)
      exact List.forall_mem_cons.mpr ⟨Bool.eq_false_iff.mpr other, rest_absent⟩

/-- What setting a key does to the entries: the value in the entry of the key is replaced, or an
entry is added where there was none. -/
inductive Sets (d : Dict V) (key : String) (value : V) : Option V → Dict V → Prop
  | replaced {d' : Dict V} {e : Entry V} {rest : List (Entry V)} (same : e.key = key)
      (before : d.entries.Perm (e :: rest))
      (after : d'.entries.Perm ({ e with value } :: rest)) (count : d'.count = d.count) :
      Sets d key value (some e.value) d'
  | added {d' : Dict V} (absent : ∀ e ∈ d.entries, e.key ≠ key)
      (after : d'.entries.Perm (⟨key, keyHash key, value⟩ :: d.entries))
      (count : d'.count = d.count + 1) : Sets d key value none d'

theorem put_sets {d : Dict V} (placed : Placed d.table) (key : String) (value : V) :
    Placed (d.put key value).2.table ∧ Sets d key value (d.put key value).1 (d.put key value).2 := by
  have inside : bucketOf (keyHash key) d.capacity < d.table.size := bucketOf_lt placed.pos _
  have fits : ∀ e ∈ d.chain key, e.hash = keyHash e.key ∧
      bucketOf e.hash d.table.size = bucketOf (keyHash key) d.capacity := placed.place _
  unfold put
  split
  next old chain replaced =>
    obtain ⟨before, e, after, hc, found, rfl, rfl⟩ := replace?_eq_some replaced
    obtain ⟨rest, perm, perm'⟩ := modify_perm d.table inside
    change d.entries.Perm (d.chain key ++ rest) at perm
    rw [hc] at perm
    rw [hc, List.forall_mem_append, List.forall_mem_cons] at fits
    have same : e.key = key := (isFor_iff fits.2.1.1).mp found
    have placed' : Placed (d.table.modify (bucketOf (keyHash key) d.capacity)
        fun _ => before ++ { e with value } :: after) := by
      refine placed.modify _ _ ?_
      rw [List.forall_mem_append, List.forall_mem_cons]
      exact fits
    exact ⟨placed', .replaced same (perm.trans (List.perm_middle.append_right rest))
      ((perm' _).trans (List.perm_middle.append_right rest)) rfl⟩
  next untouched =>
    have absent : ∀ e ∈ d.entries, e.key ≠ key := by
      rintro e he rfl
      have member : e ∈ d.chain e.key := placed.mem_chain_iff.mpr he
      have other : e.isFor e.key = false := replace?_eq_none untouched e member
      rw [(isFor_iff (placed.hashed he)).mpr rfl] at other
      cases other
    have linked : Placed (link d.table ⟨key, keyHash key, value⟩) := placed.link rfl
    have perm := link_perm placed ⟨key, keyHash key, value⟩
    dsimp only
    split
    next =>
      obtain ⟨grown, same⟩ := grow_placed
        (d := ⟨link d.table ⟨key, keyHash key, value⟩, d.count + 1, d.threshold⟩) linked
      exact ⟨grown, .added absent (same.trans perm) rfl⟩
    next => exact ⟨linked, .added absent perm rfl⟩

theorem empty_entries : (empty : Dict V).entries = [] := flatten_replicate initialCapacity

theorem empty_valid : (empty : Dict V).Valid := by
  refine ⟨placed_replicate (by decide), ?_, ?_⟩
  · rw [empty_entries]
    exact List.nodup_nil
  · rw [empty_entries]
    rfl

theorem Valid.put {d : Dict V} (valid : d.Valid) (key : String) (value : V) :
    (d.put key value).2.Valid := by
  obtain ⟨placed, sets⟩ := put_sets valid.placed key value
  have nodup := valid.nodup
  have count := valid.count_eq
  generalize (d.put key value).1 = old at sets
  cases sets with
  | replaced same before after eq =>
    refine ⟨placed, ?_, ?_⟩
    · rw [(after.map _).nodup_iff]
      rwa [(before.map _).nodup_iff] at nodup
    · rw [eq, count, before.length_eq, after.length_eq]
      rfl
  | added absent after eq =>
    refine ⟨placed, ?_, ?_⟩
    · rw [(after.map _).nodup_iff, List.map_cons, List.nodup_cons]
      refine ⟨fun hm => ?_, nodup⟩
      obtain ⟨e, he, same⟩ := List.mem_map.mp hm
      exact absent e he same
    · rw [eq, count, after.length_eq]
      rfl

theorem Valid.get?_eq_none_iff {d : Dict V} (valid : d.Valid) {key : String} :
    d.get? key = none ↔ ∀ e ∈ d.entries, e.key ≠ key := by
  rw [Option.eq_none_iff_forall_ne_some]
  constructor
  · rintro none e he rfl
    exact none e.value (valid.get?_eq_some_iff.mpr (mem_toList_iff.mpr ⟨e, he, rfl, rfl⟩))
  · intro absent value found
    obtain ⟨e, he, same, -⟩ := mem_toList_iff.mp (valid.get?_eq_some_iff.mp found)
    exact absent e he same

theorem get?_empty (key : String) : (empty : Dict V).get? key = none := by
  rw [empty_valid.get?_eq_none_iff, empty_entries]
  exact fun _ he => absurd he List.not_mem_nil

theorem Valid.put_fst {d : Dict V} (valid : d.Valid) (key : String) (value : V) :
    (d.put key value).1 = d.get? key := by
  obtain ⟨-, sets⟩ := put_sets valid.placed key value
  generalize (d.put key value).2 = d' at sets
  generalize (d.put key value).1 = old at sets
  cases sets with
  | @replaced _ e _ same before =>
    have he : e ∈ d.entries := before.mem_iff.mpr List.mem_cons_self
    exact (valid.get?_eq_some_iff.mpr (mem_toList_iff.mpr ⟨e, he, same, rfl⟩)).symm
  | added absent => exact (valid.get?_eq_none_iff.mpr absent).symm

theorem Sets.others {d d' : Dict V} {key : String} {value : V} {old : Option V}
    (sets : Sets d key value old d') (nodup : (d.entries.map (·.key)).Nodup) :
    ∃ e rest, e.key = key ∧ e.value = value ∧ d'.entries.Perm (e :: rest) ∧
      (∀ e' ∈ rest, e'.key ≠ key) ∧
      ∀ e', e'.key ≠ key → (e' ∈ rest ↔ e' ∈ d.entries) := by
  cases sets with
  | @replaced _ e rest same before after =>
    have nodup' := (before.map _).nodup_iff.mp nodup
    rw [List.map_cons, List.nodup_cons] at nodup'
    refine ⟨{ e with value }, rest, same, rfl, after, ?_, ?_⟩
    · rintro e' he' eq
      have member : e.key ∈ rest.map (·.key) := (eq.trans same.symm) ▸ List.mem_map_of_mem he'
      exact nodup'.1 member
    · intro e' differ
      have notThis : e' ≠ e := by
        rintro rfl
        exact differ same
      rw [before.mem_iff, List.mem_cons, or_iff_right notThis]
  | added absent after => exact ⟨_, d.entries, rfl, rfl, after, absent, fun _ _ => Iff.rfl⟩

/-- A look-up after setting a key: the new value for this key, for another one what it was. -/
theorem Valid.get?_put {d : Dict V} (valid : d.Valid) (key : String) (value : V) (k : String) :
    (d.put key value).2.get? k = if k = key then some value else d.get? k := by
  have valid' := valid.put key value
  obtain ⟨-, sets⟩ := put_sets valid.placed key value
  obtain ⟨e, rest, same, rfl, perm, differ, others⟩ := sets.others valid.nodup
  split
  next this =>
    have he : e ∈ (d.put key e.value).2.entries := perm.mem_iff.mpr List.mem_cons_self
    exact valid'.get?_eq_some_iff.mpr (mem_toList_iff.mpr ⟨e, he, same.trans this.symm, rfl⟩)
  next other =>
    apply Option.ext
    intro v
    rw [valid'.get?_eq_some_iff, valid.get?_eq_some_iff, mem_toList_iff, mem_toList_iff]
    constructor
    · rintro ⟨e', he', rfl, rfl⟩
      have notThis : e' ≠ e := by
        rintro rfl
        exact other same
      have member : e' ∈ rest := List.mem_of_ne_of_mem notThis (perm.mem_iff.mp he')
      exact ⟨e', (others e' other).mp member, rfl, rfl⟩
    · rintro ⟨e', he', rfl, rfl⟩
      have member : e' ∈ rest := (others e' other).mpr he'
      exact ⟨e', perm.mem_iff.mpr (List.mem_cons_of_mem e member), rfl, rfl⟩

section

variable {σ : Type}

/-- What comes out is the result of one call for each element, in some state. -/
theorem mapM_forall₂ {α β : Type} (f : α → StateM σ β) (l : List α) (s : σ) :
    List.Forall₂ (fun a b => ∃ s', b = ((f a).run s').1) l ((l.mapM f).run s).1 := by
  induction l generalizing s with
  | nil => exact .nil
  | cons a l ih =>
    rw [List.mapM_cons]
    exact .cons ⟨s, rfl⟩ (ih _)

/-- One call of the function, for the value of an entry. -/
def update (f : V → StateM σ V) (e : Entry V) : StateM σ (Entry V) := do
  let value ← f e.value
  return { e with value }

/-- The new entry is the old one with the value that one call of the function gives. -/
def Updated (f : V → StateM σ V) (e e' : Entry V) : Prop :=
  ∃ s, e' = { e with value := ((f e.value).run s).1 }

theorem mapM_updated (f : V → StateM σ V) (d : Dict V) (s : σ) :
    List.Forall₂ (List.Forall₂ (Updated f)) d.table.toList ((d.mapM f).run s).1.table.toList := by
  have table : ((d.mapM f).run s).1.table.toList =
      ((d.table.toList.mapM (List.mapM (update f))).run s).1 := by
    rw [← Array.toList_mapM]
    rfl
  rw [table]
  refine (mapM_forall₂ _ _ s).imp ?_
  rintro chain _ ⟨s', rfl⟩
  exact mapM_forall₂ (update f) chain s'

theorem exists_right {α β : Type} {R : α → β → Prop} {l : List α} {l' : List β}
    (all : List.Forall₂ R l l') {a : α} (ha : a ∈ l) : ∃ b ∈ l', R a b := by
  induction all with
  | nil => cases ha
  | cons head _ ih =>
    rcases List.mem_cons.mp ha with rfl | rest
    · exact ⟨_, List.mem_cons_self, head⟩
    · obtain ⟨b, hb, related⟩ := ih rest
      exact ⟨b, List.mem_cons_of_mem _ hb, related⟩

theorem getD_forall₂ {α β : Type} {R : α → β → Prop} {l : List (List α)} {l' : List (List β)}
    (all : List.Forall₂ (List.Forall₂ R) l l') (i : Nat) :
    List.Forall₂ R (l.getD i []) (l'.getD i []) := by
  induction all generalizing i with
  | nil => exact .nil
  | cons head _ ih =>
    cases i with
    | zero => exact head
    | succ i => exact ih i

theorem keys_updated {f : V → StateM σ V} {l l' : List (Entry V)}
    (all : List.Forall₂ (Updated f) l l') : l'.map (·.key) = l.map (·.key) := by
  induction all with
  | nil => rfl
  | cons head _ ih =>
    obtain ⟨s, rfl⟩ := head
    rw [List.map_cons, List.map_cons, ih]

theorem entries_updated (f : V → StateM σ V) (d : Dict V) (s : σ) :
    List.Forall₂ (Updated f) d.entries ((d.mapM f).run s).1.entries :=
  List.rel_flatten (mapM_updated f d s)

theorem Valid.mapM {d : Dict V} (valid : d.Valid) (f : V → StateM σ V) (s : σ) :
    ((d.mapM f).run s).1.Valid := by
  have tables := mapM_updated f d s
  have entries := entries_updated f d s
  have size : ((d.mapM f).run s).1.table.size = d.table.size := by
    simpa using tables.length_eq.symm
  refine ⟨⟨size ▸ valid.placed.pos, fun i e' he' => ?_⟩, ?_, ?_⟩
  · have chains := getD_forall₂ tables i
    simp only [Array.getD_eq_getD_getElem?, List.getD_eq_getElem?_getD,
      Array.getElem?_toList] at chains he'
    obtain ⟨e, he, s', rfl⟩ := exists_right chains.flip he'
    rw [size]
    refine valid.placed.place i e ?_
    rw [Array.getD_eq_getD_getElem?]
    exact he
  · rw [keys_updated entries]
    exact valid.nodup
  · exact valid.count_eq.trans entries.length_eq

/-- Every key has what one call of the function gives for its value, and there are no new keys. -/
theorem Valid.get?_mapM {d : Dict V} (valid : d.Valid) (f : V → StateM σ V) (s : σ)
    (key : String) :
    Option.Rel (fun v w => ∃ s', w = ((f v).run s').1) (d.get? key)
      (((d.mapM f).run s).1.get? key) := by
  have entries := entries_updated f d s
  have valid' := valid.mapM f s
  cases found : d.get? key with
  | some value =>
    obtain ⟨e, he, same, rfl⟩ := mem_toList_iff.mp (valid.get?_eq_some_iff.mp found)
    obtain ⟨e', he', s', rfl⟩ := exists_right entries he
    rw [valid'.get?_eq_some_iff.mpr (mem_toList_iff.mpr ⟨_, he', same, rfl⟩)]
    exact .some ⟨s', rfl⟩
  | none =>
    have absent := valid.get?_eq_none_iff.mp found
    rw [valid'.get?_eq_none_iff.mpr]
    · exact .none
    · intro e' he'
      obtain ⟨e, he, s', rfl⟩ := exists_right entries.flip he'
      exact absent e he

theorem flatten_mapM {α β : Type} (f : α → StateM σ β) (ls : List (List α)) :
    List.flatten <$> ls.mapM (List.mapM f) = ls.flatten.mapM f := by
  induction ls with
  | nil => simp
  | cons l ls ih =>
    rw [List.flatten_cons, List.mapM_append, List.mapM_cons, ← ih]
    simp

theorem toList_mapM (f : V → StateM σ V) (d : Dict V) :
    toList <$> d.mapM f = d.toList.mapM fun p => do
      let value ← f p.2
      return (p.1, value) := by
  have entries : toList <$> d.mapM f =
      List.map (fun e => (e.key, e.value)) <$> d.entries.mapM (update f) := by
    rw [entries, ← flatten_mapM, ← Array.toList_mapM]
    simp only [mapM, Functor.map_map, bind_pure_comp]
    rfl
  rw [entries, toList]
  induction d.entries with
  | nil => simp
  | cons e rest ih =>
    simp only [List.mapM_cons, List.map_cons, ← ih]
    simp [update]

end

inductive Change (V : Type) : Type 1
  | put (key : String) (value : V)
  | applyToAll {σ : Type} (f : V → StateM σ V) (state : σ)

def change (d : Dict V) : Change V → Dict V
  | .put key value => (d.put key value).2
  | .applyToAll f s => ((d.mapM f).run s).1

def changeAll (d : Dict V) (changes : List (Change V)) : Dict V := changes.foldl change d

def keysPut (changes : List (Change V)) : List String :=
  changes.filterMap fun
    | .put key _ => some key
    | .applyToAll _ _ => none

/-- The second value is the first one after the functions of the changes, each of them called once. -/
inductive Passes : List (Change V) → V → V → Prop
  | done {v : V} : Passes [] v v
  | put {key : String} {value v w : V} {rest : List (Change V)} :
      Passes rest v w → Passes (.put key value :: rest) v w
  | applyToAll {σ : Type} {f : V → StateM σ V} {s : σ} {v w : V} {rest : List (Change V)} (s' : σ) :
      Passes rest ((f v).run s').1 w → Passes (.applyToAll f s :: rest) v w

theorem Valid.changeAll {d : Dict V} (valid : d.Valid) (changes : List (Change V)) :
    (d.changeAll changes).Valid := by
  induction changes generalizing d with
  | nil => exact valid
  | cons c rest ih =>
    cases c with
    | put key value => exact ih (valid.put key value)
    | applyToAll f s => exact ih (valid.mapM f s)

/-- While a key is not set, only the functions change its value. -/
theorem Valid.get?_changeAll {d : Dict V} (valid : d.Valid) {changes : List (Change V)}
    {key : String} (unset : key ∉ keysPut changes) :
    Option.Rel (Passes changes) (d.get? key) ((d.changeAll changes).get? key) := by
  induction changes generalizing d with
  | nil =>
    show Option.Rel _ (d.get? key) (d.get? key)
    generalize d.get? key = value
    cases value with
    | none => exact .none
    | some v => exact .some .done
  | cons c rest ih =>
    cases c with
    | put k value =>
      have split : key ≠ k ∧ key ∉ keysPut rest := by simpa [keysPut] using unset
      have later := ih (valid.put k value) split.2
      rw [valid.get?_put, if_neg split.1] at later
      show Option.Rel _ _ (((d.put k value).2.changeAll rest).get? key)
      generalize d.get? key = before at later ⊢
      generalize (Dict.changeAll _ rest).get? key = last at later ⊢
      cases later with
      | none => exact .none
      | some passes => exact .some passes.put
    | applyToAll f s =>
      have unset' : key ∉ keysPut rest := by simpa [keysPut] using unset
      have now := valid.get?_mapM f s key
      have later := ih (valid.mapM f s) unset'
      show Option.Rel _ _ ((((d.mapM f).run s).1.changeAll rest).get? key)
      generalize d.get? key = before at now ⊢
      generalize ((d.mapM f).run s).1.get? key = between at now later
      generalize (Dict.changeAll _ rest).get? key = last at later ⊢
      cases now with
      | none =>
        cases later with
        | none => exact .none
      | some called =>
        obtain ⟨s', rfl⟩ := called
        cases later with
        | some passes => exact .some (.applyToAll s' passes)

/-- The keys of a dictionary after changes are those before and those that were set. -/
theorem Valid.isSome_changeAll {d : Dict V} (valid : d.Valid) (changes : List (Change V))
    (key : String) :
    ((d.changeAll changes).get? key).isSome = true ↔
      (d.get? key).isSome = true ∨ key ∈ keysPut changes := by
  induction changes generalizing d with
  | nil => simp [Dict.changeAll, keysPut]
  | cons c rest ih =>
    cases c with
    | put k value =>
      have later := ih (valid.put k value)
      rw [valid.get?_put] at later
      refine later.trans ?_
      by_cases this : key = k
      · simp [keysPut, this]
      · simp [keysPut, this]
    | applyToAll f s =>
      have later := ih (valid.mapM f s)
      refine later.trans ?_
      have now := valid.get?_mapM f s key
      generalize d.get? key = before at now ⊢
      generalize ((d.mapM f).run s).1.get? key = between at now ⊢
      cases now <;> simp [keysPut]

theorem Valid.mem_keys_iff {d : Dict V} (valid : d.Valid) {key : String} :
    key ∈ d.toList.map Prod.fst ↔ (d.get? key).isSome = true := by
  rw [Option.isSome_iff_exists]
  simp only [valid.get?_eq_some_iff, List.mem_map, Prod.exists, exists_and_right, exists_eq_right]

/-- After any changes, a dictionary is the finite map that the changes describe. -/
theorem finite_map (changes : List (Change V)) :
    let d := (empty : Dict V).changeAll changes
    (∀ before key value after, changes = before ++ .put key value :: after →
      key ∉ keysPut after → ∃ w, Passes after value w ∧ d.get? key = some w) ∧
    (∀ key, key ∉ keysPut changes → d.get? key = none) ∧
    (∀ key value, (d.put key value).1 = d.get? key) ∧
    d.size = (keysPut changes).dedup.length ∧
    (∀ key, d.contains key = true ↔ ∃ value, d.get? key = some value) ∧
    (d.toList.map Prod.fst).Perm (keysPut changes).dedup ∧
    (∀ key value, (key, value) ∈ d.toList ↔ d.get? key = some value) ∧
    ∀ {σ : Type} (f : V → StateM σ V), toList <$> d.mapM f = d.toList.mapM fun p => do
      let value ← f p.2
      return (p.1, value) := by
  intro d
  have valid : d.Valid := empty_valid.changeAll changes
  have isSome (key : String) : (d.get? key).isSome = true ↔ key ∈ keysPut changes := by
    have new : (empty : Dict V).get? key = none := empty_valid.get?_eq_none_iff.mpr fun e he => by
      rw [empty_entries] at he
      cases he
    rw [empty_valid.isSome_changeAll, new]
    simp
  have keys : (d.toList.map Prod.fst).Perm (keysPut changes).dedup := by
    have nodup : (d.toList.map Prod.fst).Nodup := by
      rw [toList, List.map_map]
      exact valid.nodup
    refine (List.perm_ext_iff_of_nodup nodup (List.nodup_dedup _)).mpr fun key => ?_
    rw [List.mem_dedup, valid.mem_keys_iff, isSome]
  refine ⟨?_, ?_, valid.put_fst, ?_, fun key => Option.isSome_iff_exists, keys,
    fun key value => valid.get?_eq_some_iff.symm, fun f => toList_mapM f d⟩
  · rintro before key value after rfl unset
    have earlier := empty_valid.changeAll (V := V) before
    have later := (earlier.put key value).get?_changeAll unset
    rw [earlier.get?_put, if_pos rfl] at later
    have eq : d = ((((empty : Dict V).changeAll before).put key value).2.changeAll after) := by
      simp only [d, Dict.changeAll, List.foldl_append, List.foldl_cons, change]
    rw [eq]
    generalize (Dict.changeAll _ after).get? key = last at later ⊢
    cases later with
    | some passes => exact ⟨_, passes, rfl⟩
  · intro key unset
    rw [← isSome] at unset
    simpa using unset
  · have size : d.size = d.toList.length := by
      rw [toList, List.length_map]
      exact valid.count_eq
    rw [size, ← keys.length_eq, List.length_map]

example : (((empty.put "Aa" 1).2.put "BB" 2).2.get? "Aa") = some 1 ∧ keyHash "Aa" = keyHash "BB" := by
  decide

end Dict

end SlotVM
