import Mathlib.Algebra.Order.Ring.Nat
import SlotVM.Proofs.DictMap
import SlotVM.Proofs.SingleProduct

namespace SlotVM

namespace Dict

variable {V : Type}

/-- The share of the chains that the entries may fill, `0.75`. -/
def loadFactor : Single := ⟨0x3f400000⟩

/-- Three quarters of a power of two are exact. -/
theorem mul_loadFactor {k : Nat} (small : 32 * 2 ^ k < 2 ^ 64) :
    ((Single.ofNat (32 * 2 ^ k)).mul loadFactor).IsExactly (24 * 2 ^ k) := by
  have power : 32 * 2 ^ k = 2 ^ (k + 5) := by rw [Nat.pow_add, Nat.mul_comm]
  have bound : k + 5 < 64 := by
    rw [power] at small
    exact (Nat.pow_lt_pow_iff_right (by decide)).mp small
  have capacity : (Single.ofNat (32 * 2 ^ k)).datum = .finite false (2 ^ 23) (k - 18) := by
    have value : 32 * 2 ^ k * 2 ^ 23 = 2 ^ 23 * 2 ^ (k + 5) := by rw [power, Nat.mul_comm]
    have datum := Single.datum_round (u := k - 18) (by decide) (by decide) value (by omega) (by omega)
    have unit : (k - 18 + (23 : Nat) - (k + 5 : Nat) : Int) = 0 := by omega
    rw [unit] at datum
    exact datum
  have factor : loadFactor.datum = .finite false (3 * 2 ^ 22) (-24) := by decide
  have product : ((Single.ofNat (32 * 2 ^ k)).mul loadFactor).datum =
      .finite false (3 * 2 ^ 22) (k - 19) := by
    have sum : (k - 18 + -24 : Int) = k - 19 + (0 : Nat) - (23 : Nat) := by omega
    have value : 2 ^ 23 * (3 * 2 ^ 22) * 2 ^ 0 = 3 * 2 ^ 22 * 2 ^ 23 := by decide
    unfold Single.mul
    rw [capacity, factor]
    dsimp only
    rw [sum]
    exact Single.datum_round (by decide) (by decide) value (by omega) (by omega)
  refine ⟨3 * 2 ^ 22, k, 19, product, ?_⟩
  omega

/-- Three quarters of the number of chains, computed as a product of numbers of 32 bits. -/
def loadThreshold (capacity : Nat) : Nat := ((Single.ofNat capacity).mul loadFactor).toWord

/-- What setting a key does to the number of chains: a new key counts, and doubles it if the
dictionary was full before. -/
inductive Resized (d d' : Dict V) : Prop
  | kept (capacity : d'.capacity = d.capacity) (threshold : d'.threshold = d.threshold)
      (count : d'.count = d.count)
  | added (room : d.count < d.threshold) (capacity : d'.capacity = d.capacity)
      (threshold : d'.threshold = d.threshold) (count : d'.count = d.count + 1)
  | doubled (full : d.threshold ≤ d.count) (capacity : d'.capacity = 2 * d.capacity)
      (threshold : d'.threshold = thresholdOf (2 * d.capacity)) (count : d'.count = d.count + 1)

theorem size_link_all (l : List (Entry V)) (table : Array (List (Entry V))) :
    (l.foldl link table).size = table.size := by
  induction l generalizing table with
  | nil => rfl
  | cons e rest ih => rw [List.foldl_cons, ih, link, Array.size_modify]

theorem capacity_grow (d : Dict V) : d.grow.capacity = 2 * d.capacity := by
  unfold grow
  dsimp only [capacity]
  rw [size_link_all, Array.size_replicate]

theorem resized_put (d : Dict V) (key : String) (value : V) : Resized d (d.put key value).2 := by
  unfold put
  split
  next => exact .kept (Array.size_modify ..) rfl rfl
  next =>
    have linked : (link d.table ⟨key, keyHash key, value⟩).size = d.table.size := Array.size_modify ..
    dsimp only
    split
    next full =>
      have same : (⟨link d.table ⟨key, keyHash key, value⟩, d.count + 1, d.threshold⟩ :
        Dict V).capacity = d.capacity := linked
      refine .doubled full ?_ ?_ rfl
      · rw [capacity_grow, same]
      · rw [grow, same]
    next room => exact .added (Nat.lt_of_not_le room) linked rfl rfl

/-- The number of chains is the first one, doubled `k` times, and these are the least doublings with
room for the entries. -/
structure Scaled (d : Dict V) (k : Nat) : Prop where
  capacity_eq : d.capacity = 32 * 2 ^ k
  threshold_eq : d.threshold = 24 * 2 ^ k
  count_le : d.count ≤ 24 * 2 ^ k
  least : ∀ j, d.count ≤ 24 * 2 ^ j → k ≤ j

theorem empty_scaled : Scaled (empty : Dict V) 0 :=
  ⟨Array.size_replicate, rfl, Nat.zero_le _, fun j _ => Nat.zero_le j⟩

theorem Scaled.resized {d d' : Dict V} {k : Nat} (scaled : Scaled d k) (resized : Resized d d') :
    ∃ k', Scaled d' k' := by
  obtain ⟨capacity_eq, threshold_eq, count_le, least⟩ := scaled
  cases resized with
  | kept capacity threshold count =>
    refine ⟨k, capacity.trans capacity_eq, threshold.trans threshold_eq, by omega, fun j room => ?_⟩
    exact least j (by omega)
  | added room capacity threshold count =>
    refine ⟨k, capacity.trans capacity_eq, threshold.trans threshold_eq, by omega, fun j room => ?_⟩
    exact least j (by omega)
  | doubled full capacity threshold count =>
    have double : 2 ^ (k + 1) = 2 * 2 ^ k := by rw [Nat.pow_succ, Nat.mul_comm]
    have positive : 0 < 2 ^ k := Nat.two_pow_pos k
    refine ⟨k + 1, by omega, ?_, by omega, fun j room => ?_⟩
    · rw [threshold, capacity_eq, thresholdOf]
      omega
    · -- The dictionary was exactly full, so no smaller number has room for one more entry.
      refine Nat.lt_of_not_le fun less => ?_
      have powers : 2 ^ j ≤ 2 ^ k := Nat.pow_le_pow_right Nat.two_pos less
      omega

theorem Scaled.mapM {σ : Type} {d : Dict V} {k : Nat} (scaled : Scaled d k) (f : V → StateM σ V)
    (s : σ) : Scaled ((d.mapM f).run s).1 k := by
  have tables := mapM_updated f d s
  have size : ((d.mapM f).run s).1.capacity = d.capacity := by
    simpa [capacity] using tables.length_eq.symm
  exact ⟨size.trans scaled.capacity_eq, scaled.threshold_eq, scaled.count_le, scaled.least⟩

theorem Scaled.changeAll {d : Dict V} {k : Nat} (scaled : Scaled d k) (changes : List (Change V)) :
    ∃ k', Scaled (d.changeAll changes) k' := by
  induction changes generalizing d k with
  | nil => exact ⟨k, scaled⟩
  | cons c rest ih =>
    cases c with
    | put key value =>
      obtain ⟨k', scaled'⟩ := scaled.resized (resized_put d key value)
      exact ih scaled'
    | applyToAll f s => exact ih (scaled.mapM f s)

/-- After any changes, the number of chains is the least doubling of 32 that the entries fill to at
most three quarters, and every entry stands in its chain. -/
theorem table_invariant (changes : List (Change V)) :
    let d := (empty : Dict V).changeAll changes
    (∃ k, d.capacity = 32 * 2 ^ k ∧ d.size ≤ 24 * 2 ^ k ∧ ∀ j, d.size ≤ 24 * 2 ^ j → k ≤ j) ∧
    4 * d.threshold = 3 * d.capacity ∧
    (d.capacity < 2 ^ 64 → d.threshold = loadThreshold d.capacity ∧
      ((Single.ofNat d.capacity).mul loadFactor).IsExactly d.threshold) ∧
    (∀ i (inside : i < d.table.size), ∀ e ∈ d.table[i],
      e.hash = keyHash e.key ∧ e.hash.toNat &&& (d.capacity - 1) = i) ∧
    (d.entries.map (·.key)).Nodup ∧
    d.size = (d.table.toList.map List.length).sum := by
  intro d
  have valid : d.Valid := empty_valid.changeAll changes
  obtain ⟨k, scaled⟩ : ∃ k, Scaled d k := empty_scaled.changeAll changes
  obtain ⟨capacity_eq, threshold_eq, count_le, least⟩ := scaled
  refine ⟨⟨k, capacity_eq, count_le, least⟩, by omega, fun word => ?_, ?_, valid.nodup, ?_⟩
  · have exact := mul_loadFactor (capacity_eq ▸ word)
    rw [← capacity_eq] at exact
    have product := exact.toWord_eq (by omega)
    rw [threshold_eq]
    exact ⟨product.symm, exact⟩
  · intro i inside e he
    refine valid.placed.place i e ?_
    rwa [Array.getD_eq_getD_getElem?, Array.getElem?_eq_getElem inside, Option.getD_some]
  · rw [size, valid.count_eq, entries, List.length_flatten]

/-- One entry more than three quarters of 32 chains. -/
def justDoubled : List (Change Nat) :=
  (List.range 25).map fun i => .put (String.ofList (List.replicate i 'k')) i

theorem table_invariant_doubled :
    let d := (empty : Dict Nat).changeAll justDoubled
    d.capacity = 64 ∧ d.capacity < 2 ^ 64 ∧ d.threshold = loadThreshold d.capacity ∧
      ((Single.ofNat d.capacity).mul loadFactor).IsExactly d.threshold := by
  intro d
  have capacity : d.capacity = 64 := by decide +kernel
  have word : d.capacity < 2 ^ 64 := by omega
  obtain ⟨-, -, product, -⟩ := table_invariant justDoubled
  exact ⟨capacity, word, product word⟩

end Dict

end SlotVM
