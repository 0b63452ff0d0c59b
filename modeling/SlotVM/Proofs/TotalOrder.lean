import SlotVM.Proofs.CodePointOrder
import SlotVM.Proofs.MessageLimit
import SlotVM.Proofs.TextClasses

namespace SlotVM

theorem compareOfLessAndEq_eq_compare {α K : Type} [LT α] [DecidableLT α] [DecidableEq α]
    [LinearOrder K] {key : α → K} (lt_iff : ∀ x y, x < y ↔ key x < key y)
    (inj : Function.Injective key) (x y : α) :
    compareOfLessAndEq x y = compare (key x) (key y) := by
  unfold compareOfLessAndEq
  rcases lt_trichotomy (key x) (key y) with lt | eq | gt
  · rw [if_pos ((lt_iff x y).mpr lt), compare_lt_iff_lt.mpr lt]
  · cases inj eq
    rw [if_neg (fun lt => lt_irrefl _ ((lt_iff x x).mp lt)), if_pos rfl, compare_eq_iff_eq.mpr rfl]
  · have notLt : ¬ x < y := fun lt => lt_asymm gt ((lt_iff x y).mp lt)
    have notEq : x ≠ y := fun eq => ne_of_gt gt (congrArg key eq)
    rw [if_neg notLt, if_neg notEq, compare_gt_iff_gt.mpr gt]

namespace CompareOp

/-- Whether an operator accepts the outcome of a comparison. -/
def accepts : CompareOp → Ordering → Bool
  | lt, o => o.isLT
  | gt, o => o.isGT
  | le, o => o.isLE
  | ge, o => o.isGE

/-- Answers of zero and one to the ordering operators and to equality are those of a total order on
the values of a kind. -/
structure Linear (kind : Value → Prop) (ask : CompareOp → Value → Value → Value)
    (same : Value → Value → Value) : Prop where
  trichotomy {a b : Value} : kind a → kind b →
    (ask .lt a b = .int 1 ∧ same a b = .int 0 ∧ ask .gt a b = .int 0) ∨
    (ask .lt a b = .int 0 ∧ same a b = .int 1 ∧ ask .gt a b = .int 0) ∨
    (ask .lt a b = .int 0 ∧ same a b = .int 0 ∧ ask .gt a b = .int 1)
  le_not_gt {a b : Value} : kind a → kind b →
    (ask .le a b = .int 1 ∧ ask .gt a b = .int 0) ∨ (ask .le a b = .int 0 ∧ ask .gt a b = .int 1)
  ge_not_lt {a b : Value} : kind a → kind b →
    (ask .ge a b = .int 1 ∧ ask .lt a b = .int 0) ∨ (ask .ge a b = .int 0 ∧ ask .lt a b = .int 1)
  swap {a b : Value} : kind a → kind b → ask .lt a b = ask .gt b a
  trans {a b c : Value} : kind a → kind b → kind c →
    ask .lt a b = .int 1 → ask .lt b c = .int 1 → ask .lt a c = .int 1

theorem ofBool_eq_one_iff {truth : Bool} : Value.ofBool truth = .int 1 ↔ truth = true := by
  cases truth <;> simp [Value.ofBool]

theorem ofBool_isLT_iff {K : Type} [LinearOrder K] {k l : K} :
    Value.ofBool (compare k l).isLT = .int 1 ↔ k < l := by
  rw [ofBool_eq_one_iff, Ordering.isLT_iff_eq_lt, compare_lt_iff_lt]

theorem Linear.of_keys {K : Type} [LinearOrder K] {kind : Value → Prop} (key : Value → K)
    {ask : CompareOp → Value → Value → Value} {same : Value → Value → Value}
    (asks : ∀ op {a b}, kind a → kind b →
      ask op a b = .ofBool (op.accepts (compare (key a) (key b))))
    (sames : ∀ {a b}, kind a → kind b → same a b = .ofBool (compare (key a) (key b)).isEq) :
    Linear kind ask same where
  trichotomy {a b} ha hb := by
    rw [asks .lt ha hb, sames ha hb, asks .gt ha hb]
    cases compare (key a) (key b) with
    | lt => exact .inl ⟨rfl, rfl, rfl⟩
    | eq => exact .inr (.inl ⟨rfl, rfl, rfl⟩)
    | gt => exact .inr (.inr ⟨rfl, rfl, rfl⟩)
  le_not_gt {a b} ha hb := by
    rw [asks .le ha hb, asks .gt ha hb]
    cases compare (key a) (key b) with
    | lt | eq => exact .inl ⟨rfl, rfl⟩
    | gt => exact .inr ⟨rfl, rfl⟩
  ge_not_lt {a b} ha hb := by
    rw [asks .ge ha hb, asks .lt ha hb]
    cases compare (key a) (key b) with
    | lt => exact .inr ⟨rfl, rfl⟩
    | eq | gt => exact .inl ⟨rfl, rfl⟩
  swap {a b} ha hb := by
    have swapped : compare (key b) (key a) = (compare (key a) (key b)).swap :=
      Std.OrientedCmp.eq_swap
    rw [asks .lt ha hb, asks .gt hb ha, swapped]
    cases compare (key a) (key b) <;> rfl
  trans {a b c} ha hb hc ab bc := by
    rw [asks .lt ha hb] at ab
    rw [asks .lt hb hc] at bc
    rw [asks .lt ha hc]
    exact ofBool_isLT_iff.mpr (lt_trans (ofBool_isLT_iff.mp ab) (ofBool_isLT_iff.mp bc))

theorem exists_orderingValue (op : CompareOp) (o : Ordering) :
    ∃ n, orderingValue o = .int n ∧ op.test n = op.accepts o := by
  cases o <;> exact ⟨_, rfl, by cases op <;> rfl⟩

end CompareOp

theorem Effect.On.makes {h : Hierarchy} {s : Store} {c : Run Value} {cause : Condition}
    (on : Effect.On h s c (.throw cause)) :
    Exception.Makes (c.run h s) cause.cls true cause.message := by
  refine ⟨_, _, on.1, rfl, ?_, Exception.cut_clamp cause.message⟩
  rw [on.2]
  exact s.heap.exception?_alloc_self cause.cls _ true

namespace Operation

variable (host : Host) {h : Hierarchy} {a b v : Value} {x y : String} {cls : ClassId}
  {f : Native .binary}

/-- An ordering operator goes by the outcome that the slot of the left class gives. -/
theorem of_compare (hc : a.cls? = some cls) (slot : h.lookup cls .cmp = some f) {o : Ordering}
    (answers : Effect.Of h (f.fn host a b) (.give (orderingValue o))) (op : CompareOp) :
    Effect.Of h (compare host op a b) (.give (.ofBool (op.accepts o))) := by
  intro heap
  unfold compare withClass
  rw [hc]
  refine Run.Yields.bind_resolve ?_
  rw [slot]
  refine (answers heap).bind ?_
  obtain ⟨n, outcome, test⟩ := op.exists_orderingValue o
  rw [← test]
  dsimp only [Effect.perform]
  rw [outcome]
  exact .of_pure _ heap

theorem of_compare_declined (hc : a.cls? = some cls) (slot : h.lookup cls .cmp = some f)
    (declines : Effect.Of h (f.fn host a b) (.give .unsupported)) (op : CompareOp) :
    Effect.Of h (compare host op a b)
      (.throw (.unsupportedOperands op.token (h.nameOf cls) (h.classNameOf b))) := by
  intro heap
  unfold compare withClass
  rw [hc]
  refine Run.Yields.bind_resolve ?_
  rw [slot]
  refine (declines heap).bind ?_
  exact fun _ sound => ⟨rfl, rfl, sound⟩

theorem of_compare_int (standard : h.Standard) (op : CompareOp) (m n : Int64) :
    Effect.Of h (compare host op (.int m) (.int n))
      (.give (.ofBool (op.accepts (Ord.compare m.toInt n.toInt)))) := by
  have slot : h.lookup .int .cmp = some (.builtin .intCompare) :=
    standard.lookup_eq Hierarchy.isBuiltin_int .cmp
  have outcome : Ord.compare m n = Ord.compare m.toInt n.toInt :=
    compareOfLessAndEq_eq_compare (fun _ _ => Int64.lt_iff_toInt_lt) (fun _ _ => Int64.toInt.inj) m n
  rw [← outcome]
  exact of_compare host (a := .int m) rfl slot (Effect.of_give _) op

theorem compareText_run (this other : Value) (s : Store) : Builtin.compareText this other h s =
    (if h.isA other .text then pure (orderingValue (compareOfLessAndEq this.textOf other.textOf))
      else pure .unsupported : Run Value) h s := rfl

theorem of_compareText (standard : h.Standard) (ha : h.IsText a x) (hb : h.IsText b y) :
    Effect.Of h (Builtin.compareText a b) (.give (orderingValue (Ord.compare x y))) := by
  have outcome : Ord.compare x y = compareOfLessAndEq x y := rfl
  intro heap cache sound
  rw [compareText_run, hb.isA standard, ha.textOf, hb.textOf, outcome]
  exact ⟨rfl, rfl, sound⟩

theorem of_compareText_declined (other : h.isA v .text = false) :
    Effect.Of h (Builtin.compareText a v) (.give .unsupported) := by
  intro heap cache sound
  rw [compareText_run, other]
  exact ⟨rfl, rfl, sound⟩

theorem of_compare_text (standard : h.Standard) (op : CompareOp) (ha : h.IsText a x)
    (hb : h.IsText b y) : Effect.Of h (compare host op a b)
      (.give (.ofBool (op.accepts (Ord.compare x y)))) := by
  obtain ⟨cls, hc, slots⟩ := ha.exists_lookup standard
  exact of_compare host hc (slots .cmp) (of_compareText standard ha hb) op

theorem of_compare_other (standard : h.Standard) (op : CompareOp) (ha : h.IsText a x)
    (other : h.isA v .text = false) : Effect.Of h (compare host op a v)
      (.throw (.unsupportedOperands op.token (h.classNameOf a) (h.classNameOf v))) := by
  obtain ⟨cls, hc, slots⟩ := ha.exists_lookup standard
  have named : h.classNameOf a = h.nameOf cls := by
    unfold Hierarchy.classNameOf
    rw [hc]
  rw [named]
  exact of_compare_declined host hc (slots .cmp) (of_compareText_declined other) op

theorem isEq_compare {K : Type} [LinearOrder K] (k l : K) :
    (Ord.compare k l).isEq = decide (k = l) := by
  rw [Bool.eq_iff_iff, Ordering.isEq_iff_eq_eq, compare_eq_iff_eq, decide_eq_true_eq]

theorem of_eq_int (standard : h.Standard) (m n : Int64) :
    Effect.Of h (eq host (.int m) (.int n)) (.give (.ofBool (Ord.compare m.toInt n.toInt).isEq)) := by
  have outcome : (Ord.compare m.toInt n.toInt).isEq = (m == n) := by
    rw [isEq_compare, Bool.eq_iff_iff, decide_eq_true_eq, Int64.toInt_inj, beq_iff_eq]
  rw [outcome]
  exact (Hashed.int m).eq_yields standard host (.int n)

theorem of_eq_text (standard : h.Standard) (ha : h.IsText a x) (hb : h.IsText b y) :
    Effect.Of h (eq host a b) (.give (.ofBool (Ord.compare x y).isEq)) := by
  cases ha with
  | @intro o plain =>
    cases hb with
    | @intro p plain' =>
      have outcome : (Ord.compare (Value.object o).textOf (Value.object p).textOf).isEq =
          ((Value.object o).textOf == (Value.object p).textOf) := by
        rw [isEq_compare, Bool.eq_iff_iff, decide_eq_true_eq, beq_iff_eq]
      rw [outcome]
      exact (Hashed.text plain.inherits).eq_yields standard host (.text plain'.inherits)

/-- The ordering operators are those of one total order on the integers and of one on the texts. -/
theorem compare_linear (config : Config) (requests : List Request) (heap : Heap) (host : Host) :
    let vm := (Vm.new config).serveAll requests
    let h := vm.hierarchy
    let s : Store := { vm.store with heap }
    let ask (op : CompareOp) (a b : Value) : Value := ((compare host op a b).run h s).1
    let same (a b : Value) : Value := ((eq host a b).run h s).1
    CompareOp.Linear (fun v => ∃ n, v = .int n) ask same ∧
    (∀ m n : Int64, ask .lt (.int m) (.int n) = .int 1 ↔ m.toInt < n.toInt) ∧
    CompareOp.Linear (fun v => ∃ x, h.IsText v x) ask same ∧
    (∀ a b x y, h.IsText a x → h.IsText b y →
      (ask .lt a b = .int 1 ↔
        List.Lex (fun c d : Char => c.toNat < d.toNat) x.toList y.toList) ∧
      (ask .lt a b = .int 1 ↔
        List.Lex (fun c d : UInt8 => c.toNat < d.toNat) (encodeText x) (encodeText y)) ∧
      (same a b = .int 1 ↔ x = y)) ∧
    ∀ op a x v, h.IsText a x → h.isA v .text = false →
      Exception.Makes ((compare host op a v).run h s) .typeException true
        ("unsupported operand types for " ++ op.token ++ ": '" ++ h.classNameOf a ++ "' and '" ++
          h.classNameOf v ++ "'") := by
  intro vm h s ask same
  have consistent : vm.Consistent := (Vm.new_consistent config).serveAll requests
  have standard : h.Standard := consistent.standard
  have sound : s.resolver.Sound h := consistent.sound
  have texts {a b : Value} {x y : String} (ha : h.IsText a x) (hb : h.IsText b y)
      (op : CompareOp) : ask op a b = .ofBool (op.accepts (Ord.compare x y)) :=
    ((of_compare_text host standard op ha hb).on sound).1
  have equal {a b : Value} {x y : String} (ha : h.IsText a x) (hb : h.IsText b y) :
      same a b = .ofBool (Ord.compare x y).isEq := ((of_eq_text host standard ha hb).on sound).1
  have numbers (op : CompareOp) (m n : Int64) :
      ask op (.int m) (.int n) = .ofBool (op.accepts (Ord.compare m.toInt n.toInt)) :=
    ((of_compare_int host standard op m n).on sound).1
  refine ⟨?_, ?_, ?_, ?_, ?_⟩
  · refine .of_keys (fun v => v.intOf.toInt) ?_ ?_
    · rintro op _ _ ⟨m, rfl⟩ ⟨n, rfl⟩
      exact numbers op m n
    · rintro _ _ ⟨m, rfl⟩ ⟨n, rfl⟩
      exact ((of_eq_int host standard m n).on sound).1
  · intro m n
    rw [numbers]
    exact CompareOp.ofBool_isLT_iff
  · refine .of_keys Value.textOf ?_ ?_
    · rintro op a b ⟨x, ha⟩ ⟨y, hb⟩
      rw [texts ha hb, ha.textOf, hb.textOf]
    · rintro a b ⟨x, ha⟩ ⟨y, hb⟩
      rw [equal ha hb, ha.textOf, hb.textOf]
  · intro a b x y ha hb
    have lt : ask .lt a b = .int 1 ↔ x < y := by
      rw [texts ha hb]
      exact CompareOp.ofBool_isLT_iff
    refine ⟨lt, ?_, ?_⟩
    · rw [lt, ← encodeText_lt_iff]
      rfl
    · rw [equal ha hb, isEq_compare, CompareOp.ofBool_eq_one_iff, decide_eq_true_eq]
  · intro op a x v ha other
    exact ((of_compare_other host standard op ha other).on sound).makes

/-- A text of a class below that of texts comes after one that begins with a lower code point, and it
is not compared with an integer. -/
theorem compare_linear_below :
    let vm := (Vm.new {}).serveAll [.register { name := "Word", base := some .text }]
    let h := vm.hierarchy
    let s : Store := ⟨vm.store.resolver, .empty⟩
    let word : Value := .object ⟨0, 12, .text "é"⟩
    let letters : Value := .object ⟨1, .text, .text "zz"⟩
    h.IsText letters "zz" ∧ h.IsText word "é" ∧ h.isA (.int 5) .text = false ∧
    ((compare .none .lt letters word).run h s).1 = .int 1 ∧
    ((compare .none .gt word letters).run h s).1 = .int 1 ∧
    Exception.Makes ((compare .none .lt word (.int 5)).run h s) .typeException true
      "unsupported operand types for <: 'Word' and 'Int'" := by
  intro vm h s word letters
  have word_text : h.IsText word "é" :=
    .intro (o := ⟨0, 12, .text "é"⟩) (.sub (c := h.classes[12]) rfl rfl (fun _ => rfl) .text)
  have letters_text : h.IsText letters "zz" := Hierarchy.isText_new 1 "zz"
  have other : h.isA (.int 5) .text = false := by decide +kernel
  obtain ⟨-, -, linear, texts, others⟩ :=
    compare_linear {} [.register { name := "Word", base := some .text }] .empty .none
  have lt := (texts letters word _ _ letters_text word_text).1.mpr (.rel (by decide))
  have gt := (linear.swap ⟨_, letters_text⟩ ⟨_, word_text⟩).symm.trans lt
  exact ⟨letters_text, word_text, other, lt, gt, others .lt word _ (.int 5) word_text other⟩

end Operation

end SlotVM
