import SlotVM.Listing
import SlotVM.Proofs.ExactReading

namespace SlotVM

theorem forM_eq_ok_iff {α ε : Type} {f : α → Except ε Unit} {items : List α} :
    items.forM f = .ok () ↔ ∀ a ∈ items, f a = .ok () := by
  induction items with
  | nil => simp [pure, Except.pure]
  | cons a rest ih =>
    have step : (a :: rest).forM f = f a >>= fun _ => rest.forM f := rfl
    rw [step, List.forall_mem_cons, ← ih]
    cases f a with
    | ok => simp [bind, Except.bind]
    | error e => simp [bind, Except.bind]

namespace Listing

theorem exists_intercalate {α : Type} (gap : List α) {lines : List α} {blocks : List (List α)}
    (member : lines ∈ blocks) :
    ∃ before after, gap.intercalate blocks = before ++ lines ++ after := by
  induction blocks with
  | nil => cases member
  | cons first rest ih =>
    cases rest with
    | nil =>
      obtain rfl := List.mem_singleton.mp member
      exact ⟨[], [], by rw [List.intercalate_singleton, List.nil_append, List.append_nil]⟩
    | cons second rest =>
      rw [List.intercalate_cons_cons]
      rcases List.mem_cons.mp member with rfl | later
      · exact ⟨[], _, List.append_assoc _ _ _⟩
      · obtain ⟨before, after, parted⟩ := ih later
        exact ⟨first ++ gap ++ before, after, by simp only [parted, List.append_assoc]⟩

theorem text_append (lines others : List String) :
    text (lines ++ others) = text lines ++ text others := by
  rw [text, text, text, List.map_append, String.join_append]

theorem text_intercalate (first : List String) (rest : List (List String)) :
    text ([""].intercalate (first :: rest)) =
      text first ++ String.join (rest.map ("\n" ++ text ·)) := by
  induction rest generalizing first with
  | nil => exact (congrArg text List.intercalate_singleton).trans String.append_empty.symm
  | cons second rest ih =>
    have parted : [""].intercalate (first :: second :: rest) =
        first ++ [""] ++ [""].intercalate (second :: rest) := List.intercalate_cons_cons
    have gap : text [""] = "\n" := rfl
    rw [parted, text_append, text_append, ih, gap, List.map_cons, String.join_cons]
    simp only [String.append_assoc]

end Listing

namespace CodeObject

mutual

/-- The units of code within a unit, itself first, each before those within it, with their depths. -/
def units (depth : Nat) : CodeObject → List (Nat × CodeObject)
  | ⟨name, argcount, names, attrs, consts, bytecode⟩ =>
    (depth, ⟨name, argcount, names, attrs, consts, bytecode⟩) :: unitsOf (depth + 1) consts

def unitsOf (depth : Nat) : List Value → List (Nat × CodeObject)
  | [] => []
  | .object ⟨_, _, .code c⟩ :: rest => c.units depth ++ unitsOf depth rest
  | _ :: rest => unitsOf depth rest

end

variable {c d : CodeObject} {v : Value} {values rest : List Value} {unit : Nat × CodeObject}

theorem units_eq (depth : Nat) (c : CodeObject) :
    c.units depth = (depth, c) :: unitsOf (depth + 1) c.consts := by
  cases c
  rfl

theorem unitsOf_cons (depth : Nat) (v : Value) (rest : List Value) :
    unitsOf depth (v :: rest) = v.code?.elim [] (units depth) ++ unitsOf depth rest := by
  cases v with
  | object o =>
    obtain ⟨id, cls, data⟩ := o
    cases data <;> simp [unitsOf, Value.code?]
  | _ => simp [unitsOf, Value.code?]

/-- Induction on code together with lists of constants, where only code among them matters. -/
theorem induction_consts (Q : List Value → Prop) {P : CodeObject → Prop}
    (unit : ∀ c : CodeObject, Q c.consts → P c) (nil : Q [])
    (cons : ∀ v rest, (∀ d, v.code? = some d → P d) → Q rest → Q (v :: rest)) (c : CodeObject) :
    P c := by
  refine units.induct (fun _ c => P c) (fun _ values => Q values) ?_ ?_ ?_ ?_ 0 c
  · exact fun _ _ _ _ _ _ _ within => unit _ within
  · exact fun _ => nil
  · intro _ id cls d rest inner later
    refine cons _ rest (fun e same => ?_) later
    cases same
    exact inner
  · intro _ v rest codeless later
    refine cons v rest (fun d same => ?_) later
    unfold Value.code? at same
    split at same
    next id cls e => exact absurd rfl (codeless id cls e)
    next => cases same

theorem mem_unitsOf (member : v ∈ values) (code : v.code? = some d) {depth : Nat}
    (inside : unit ∈ d.units depth) : unit ∈ unitsOf depth values := by
  induction values with
  | nil => cases member
  | cons w rest ih =>
    rw [unitsOf_cons]
    rcases List.mem_cons.mp member with rfl | later
    · rw [code]
      exact List.mem_append_left _ inside
    · exact List.mem_append_right _ (ih later)

theorem Within.mem_units {n : Nat} (within : d.Within n c) (depth : Nat) :
    (depth + n, d) ∈ c.units depth := by
  induction within generalizing depth with
  | here => cases d; exact List.mem_cons_self
  | @inside n c e v member code _ ih =>
    have inner := mem_unitsOf member code (ih (depth + 1))
    rw [Nat.add_assoc, Nat.add_comm 1] at inner
    cases c
    exact List.mem_cons_of_mem _ inner

theorem within_of_mem_units {depth : Nat} (member : unit ∈ c.units depth) :
    ∃ n, unit.2.Within n c := by
  revert depth
  induction c using induction_consts (fun values => ∀ depth, unit ∈ unitsOf depth values →
    ∃ v ∈ values, ∃ d n, v.code? = some d ∧ unit.2.Within n d) with
  | unit c within =>
    intro depth member
    rw [units_eq] at member
    rcases List.mem_cons.mp member with rfl | member
    · exact ⟨0, .here⟩
    · obtain ⟨v, inside, d, n, code, within⟩ := within _ member
      exact ⟨n + 1, .inside inside code within⟩
  | nil _ member => cases member
  | cons v rest inner later depth member =>
    rw [unitsOf_cons] at member
    rcases List.mem_append.mp member with first | member
    · cases code : v.code? with
      | none =>
        rw [code] at first
        cases first
      | some d =>
        rw [code] at first
        obtain ⟨n, within⟩ := inner d code first
        exact ⟨v, List.mem_cons_self, d, n, code, within⟩
    · obtain ⟨w, inside, found⟩ := later depth member
      exact ⟨w, List.mem_cons_of_mem v inside, found⟩

theorem checkConsts_cons (v : Value) (rest : List Value) : checkConsts (v :: rest) = (do
    v.code?.elim (pure ()) checkReadable
    checkConsts rest) := by
  cases v with
  | object o =>
    obtain ⟨id, cls, data⟩ := o
    cases data <;> simp [checkConsts, Value.code?]
  | _ => simp [checkConsts, Value.code?]

theorem checkReadable_eq (c : CodeObject) (depth : Nat) : c.checkReadable =
    (c.units depth).forM fun unit => unit.2.instructions.map fun _ => () := by
  let read (unit : Nat × CodeObject) : Except Fault Unit := unit.2.instructions.map fun _ => ()
  show c.checkReadable = forM (c.units depth) read
  revert depth
  induction c using induction_consts (fun values => ∀ depth,
    checkConsts values = forM (unitsOf depth values) read) with
  | unit c within =>
    intro depth
    rw [units_eq, List.forM_cons, ← within]
    obtain ⟨name, argcount, names, attrs, consts, bytecode⟩ := c
    dsimp only [read]
    rw [checkReadable]
    cases instructions ⟨name, argcount, names, attrs, consts, bytecode⟩ <;> rfl
  | nil depth => rw [checkConsts, unitsOf, List.forM_nil]
  | cons v rest inner later depth =>
    rw [checkConsts_cons, unitsOf_cons, List.forM_append, later depth]
    cases code : v.code? with
    | none => rfl
    | some d => exact congrArg (· >>= fun _ => _) (inner d code depth)

theorem checkReadable_eq_ok_iff : c.checkReadable = .ok () ↔
    ∀ unit ∈ c.units 0, ∃ listing, unit.2.instructions = .ok listing := by
  rw [checkReadable_eq c 0, forM_eq_ok_iff]
  refine forall₂_congr fun unit _ => ?_
  cases unit.2.instructions with
  | ok listing => exact iff_of_true rfl ⟨listing, rfl⟩
  | error cause => exact iff_of_false nofun nofun

theorem constListings_cons (heap : Heap) (depth : Nat) (v : Value) (rest : List Value) :
    constListings heap depth (v :: rest) =
      (v.code?.elim "" fun d => "\n" ++ d.listingAt heap depth) ++ constListings heap depth rest := by
  cases v with
  | object o =>
    obtain ⟨id, cls, data⟩ := o
    cases data <;> simp [constListings, Value.code?]
  | _ => simp [constListings, Value.code?]

theorem newline_listingAt (heap : Heap) (depth : Nat) (c : CodeObject) :
    "\n" ++ c.listingAt heap depth = String.join ((c.units depth).map fun unit =>
      "\n" ++ Listing.text (Listing.indented heap unit.1 unit.2)) := by
  revert depth
  induction c using induction_consts (fun values => ∀ depth, constListings heap depth values =
    String.join ((unitsOf depth values).map fun unit =>
      "\n" ++ Listing.text (Listing.indented heap unit.1 unit.2))) with
  | unit c within =>
    intro depth
    rw [units_eq, List.map_cons, String.join_cons, ← within, String.append_assoc]
    cases c
    rw [listingAt]
  | nil depth => rw [constListings, unitsOf, List.map_nil, String.join_nil]
  | cons v rest inner later depth =>
    rw [constListings_cons, unitsOf_cons, List.map_append, String.join_append, later depth]
    cases code : v.code? with
    | none => rfl
    | some d => exact congrArg (· ++ _) (inner d code depth)

/-- The listing has the lines of the units in their order, with an empty line between two units. -/
theorem listingAt_eq (heap : Heap) (depth : Nat) (c : CodeObject) : c.listingAt heap depth =
    Listing.text ([""].intercalate
      ((c.units depth).map fun unit => Listing.indented heap unit.1 unit.2)) := by
  have parted := newline_listingAt heap depth c
  rw [units_eq, List.map_cons, String.join_cons, String.append_assoc,
    String.append_right_inj] at parted
  rw [parted, units_eq, List.map_cons, Listing.text_intercalate, List.map_map]
  rfl

theorem listing_eq_ok_iff {heap : Heap} {t : String} : c.listing heap = .ok t ↔
    c.checkReadable = .ok () ∧ t = c.listingAt heap 0 := by
  unfold listing
  cases c.checkReadable with
  | ok => simp [bind, Except.bind, pure, Except.pure, eq_comm]
  | error cause => simp [bind, Except.bind]

theorem exists_listing (readable : ∀ unit ∈ c.units 0, ∃ listing, unit.2.instructions = .ok listing)
    (heap : Heap) : ∃ t, c.listing heap = .ok t ∧ ∀ unit ∈ c.units 0, ∃ before after,
      t = Listing.text (before ++ Listing.indented heap unit.1 unit.2 ++ after) := by
  have made : c.listing heap = .ok (c.listingAt heap 0) :=
    listing_eq_ok_iff.mpr ⟨checkReadable_eq_ok_iff.mpr readable, rfl⟩
  refine ⟨c.listingAt heap 0, made, fun unit member => ?_⟩
  have lines := List.mem_map_of_mem (f := fun unit => Listing.indented heap unit.1 unit.2) member
  obtain ⟨before, after, parted⟩ := Listing.exists_intercalate [""] lines
  exact ⟨before, after, by rw [listingAt_eq, parted]⟩

end CodeObject

end SlotVM
