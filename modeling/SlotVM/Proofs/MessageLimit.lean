import SlotVM.Proofs.ClassOrder
import SlotVM.Proofs.ExceptionState
import SlotVM.Proofs.LongestPrefix

namespace SlotVM

/-- The message is the longest front part of the text whose bytes are within the limit. -/
structure Exception.Cut (text message : String) : Prop where
  bytes : message.utf8ByteSize ≤ maxMessage
  front : ∃ n ≤ maxMessage, decodeText ((encodeText text).take n) = .ok message
  longest : ∀ t : String, t.toList <+: text.toList → t.utf8ByteSize ≤ maxMessage →
    t.toList <+: message.toList

namespace Exception

theorem cut_clamp (text : String) : Cut text (clamp text maxMessage) := by
  have kept := longestPrefix_clamp text maxMessage
  exact ⟨kept.fits, ⟨_, kept.fits, decodeText_take kept.front⟩, fun t => kept.isPrefix⟩

/-- The value is a new exception of the class, with a message that was cut from the text. -/
def Makes (r : Value × Store) (cls : ClassId) (active : Bool) (text : String) : Prop :=
  ∃ o message, r.1 = .object o ∧ o.cls = cls ∧
    r.2.heap.exception? o = some ⟨some message, active⟩ ∧ Cut text message

theorem make_makes (cls : ClassId) (active : Bool) (text : String) (h : Hierarchy) (s : Store) :
    Makes (make cls active text h s) cls active text :=
  ⟨_, _, rfl, rfl, s.heap.exception?_alloc_self cls _ active, cut_clamp text⟩

theorem ofError?_makes (e : Error) (h : Hierarchy) (s : Store) :
    (e.kind.isFatal = true → ofError? e h s = (none, s)) ∧
      (e.kind.isFatal = false → ∃ cls v t, classOf? e.kind = some cls ∧
        ofError? e h s = (some v, t) ∧ Makes (v, t) cls true e.message) := by
  have made (cls : ClassId) : ∃ k v t, some cls = some k ∧
      (some <$> make cls true e.message : Run (Option Value)) h s = (some v, t) ∧
        Makes (v, t) k true e.message :=
    ⟨cls, _, _, rfl, rfl, make_makes cls true e.message h s⟩
  unfold ofError?
  cases e.kind with
  | fatal | function => exact ⟨fun _ => rfl, nofun⟩
  | _ => exact ⟨nofun, fun _ => made _⟩

def builtinClasses : List ClassId :=
  [.exception, .indexException, .typeException, .attrException, .nameException,
    .divisionByZeroException]

/-- The constructor of a built-in class takes its argument for the message, or it refuses its
arguments. -/
theorem instantiate_builtin (host : Host) {h : Hierarchy} (standard : h.Standard) {cls : ClassId}
    (mem : cls ∈ builtinClasses) (args : List Value) (s : Store) :
    (∃ message t, Takes h args message ∧
      Operation.instantiate host cls args h s =
        (.object ⟨s.heap.cells.size, cls, .exception⟩, t) ∧
      t.heap.exception? ⟨s.heap.cells.size, cls, .exception⟩ = some ⟨message, false⟩) ∨
    (∀ message, ¬ Takes h args message) ∧
      ∃ (e : Error) (t : Store), e.kind = .type ∧
        Operation.instantiate host cls args h s = (.error e, t) := by
  obtain ⟨c, found, layout, hinit⟩ : ∃ c, Hierarchy.builtin.get? cls = some c ∧
      c.layout = .exception ∧ c.init = some (.builtin .exceptionInit) := by
    simp only [builtinClasses, List.mem_cons, List.not_mem_nil, or_false] at mem
    rcases mem with rfl | rfl | rfl | rfl | rfl | rfl <;> exact ⟨_, rfl, rfl, rfl⟩
  have found := standard.extends_builtin _ _ found
  let o : Object := ⟨s.heap.cells.size, cls, .exception⟩
  let fresh : Store := { s with heap := (s.heap.alloc cls .exception (.exception none false)).2 }
  have new : Operation.instantiate host cls args h s =
      Builtin.initException (.object o) args h fresh :=
    Operation.instantiate_eq found hinit (c.blank?_exception layout) args s
  have stands : fresh.heap.exception? o = some ⟨none, false⟩ :=
    s.heap.exception?_alloc_self cls none false
  have inside : o.id < fresh.heap.cells.size := s.heap.lt_size_alloc cls .exception _
  rcases Builtin.initException_cases h o args fresh with
    ⟨message, state, takes, stands', eq⟩ | ⟨f, eq, refused⟩
  · cases stands.symm.trans stands'
    exact .inl ⟨message, _, takes, new.trans eq,
      Heap.exception?_setException_self rfl inside ⟨message, false⟩⟩
  · obtain ⟨kind, no⟩ := refused rfl
    exact .inr ⟨no, f.error, fresh, kind, new.trans eq⟩

/-- What the library writes into an exception is cut to the limit, but for the argument of a
constructor. -/
theorem messages_limited (config : Config) (requests : List Request) (host : Host) (s : Store) :
    let h := ((Vm.new config).serveAll requests).hierarchy
    (∀ cls active text, Makes (make cls active text h s) cls active text) ∧
    (∀ c : Condition, Makes (throwing c h s) c.cls true c.message) ∧
    (∀ e : Error, (e.kind.isFatal = true → ofError? e h s = (none, s)) ∧
      (e.kind.isFatal = false → ∃ cls v t, classOf? e.kind = some cls ∧
        ofError? e h s = (some v, t) ∧ Makes (v, t) cls true e.message)) ∧
    ∀ cls ∈ builtinClasses, ∀ args, let made := Operation.instantiate host cls args h s
      ((∃ message o, Takes h args message ∧ made.1 = .object o ∧ o.cls = cls ∧
          made.2.heap.exception? o = some ⟨message, false⟩) ∨
        (∀ message, ¬ Takes h args message) ∧ ∃ e : Error, e.kind = .type ∧ made.1 = .error e) ∧
      ((∀ arg ∈ args, ∀ text, arg.text? = some text → text.utf8ByteSize ≤ maxMessage) →
        ∀ message, made.2.heap.messageOf? made.1 = some message →
          message.utf8ByteSize ≤ maxMessage) := by
  intro h
  have standard : h.Standard := ((Vm.new_consistent config).serveAll requests).standard
  refine ⟨fun cls active text => make_makes cls active text h s,
    fun c => make_makes c.cls true c.message h s, fun e => ofError?_makes e h s,
    fun cls mem args => ?_⟩
  rcases instantiate_builtin host standard mem args s with
    ⟨message, t, takes, eq, state⟩ | ⟨no, e, t, kind, eq⟩
  · refine ⟨.inl ⟨message, _, takes, by rw [eq], rfl, by rw [eq]; exact state⟩, ?_⟩
    intro within given held
    rw [eq, Heap.messageOf?_object, state, Option.bind_some] at held
    cases takes with
    | nothing => cases held
    | @text arg _ => exact within arg List.mem_cons_self given held
  · refine ⟨.inr ⟨no, e, kind, by rw [eq]⟩, ?_⟩
    intro _ given held
    rw [eq] at held
    cases held

/-- An error record of a long name, and an exception with a short message. -/
theorem messages_limited_name_error :
    let h := ((Vm.new {}).serveAll []).hierarchy
    let e : Error := (Fault.unboundName (String.ofList (List.replicate 300 'n'))).error
    let args : List Value := [.object ⟨0, .text, .text "boom"⟩]
    let made := Operation.instantiate .none .nameException args h .empty
    e.kind.isFatal = false ∧
    (∃ cls v t, classOf? e.kind = some cls ∧ ofError? e h .empty = (some v, t) ∧
      Makes (v, t) cls true e.message) ∧
    ClassId.nameException ∈ builtinClasses ∧
    (∀ arg ∈ args, ∀ text, arg.text? = some text → text.utf8ByteSize ≤ maxMessage) ∧
    ∀ message, made.2.heap.messageOf? made.1 = some message →
      message.utf8ByteSize ≤ maxMessage := by
  intro h e args made
  obtain ⟨-, -, records, instances⟩ := messages_limited {} [] .none .empty
  have mem : ClassId.nameException ∈ builtinClasses := by decide
  have short : ∀ arg ∈ args, ∀ text, arg.text? = some text → text.utf8ByteSize ≤ maxMessage := by
    intro arg given text content
    cases List.mem_singleton.mp given
    cases content
    decide
  exact ⟨rfl, (records e).2 rfl, mem, short, (instances _ mem args).2 short⟩

/-- A message of two hundred bytes that a program gives to an exception stays as long. -/
theorem messages_limited_argument : ¬ ∀ (requests : List Request) (host : Host) (s : Store),
    let h := ((Vm.new {}).serveAll requests).hierarchy
    ∀ cls ∈ builtinClasses, ∀ args, let made := Operation.instantiate host cls args h s
      ∀ message, made.2.heap.messageOf? made.1 = some message →
        message.utf8ByteSize ≤ maxMessage := by
  intro limited
  let h := ((Vm.new {}).serveAll []).hierarchy
  have standard : h.Standard := ((Vm.new_consistent {}).serveAll []).standard
  let long := String.ofList (List.replicate 200 'x')
  let arg : Value := .object ⟨0, .text, .text long⟩
  let s : Store := ⟨.empty, ⟨#[.fixed]⟩⟩
  have bytes : long.utf8ByteSize = 200 := by
    rw [utf8ByteSize_ofList, List.length_flatMap, List.map_replicate, List.sum_replicate_nat]
    rfl
  have text : h.isA arg .text = true :=
    (Hierarchy.isSubclass_iff standard.rooted).mpr Relation.ReflTransGen.refl
  have mem : ClassId.exception ∈ builtinClasses := by decide
  rcases instantiate_builtin .none standard mem [arg] s with
    ⟨message, t, takes, eq, state⟩ | ⟨no, -⟩
  · cases takes
    let made := Operation.instantiate .none .exception [arg] h s
    have held : made.2.heap.messageOf? made.1 = some long := by
      change (Operation.instantiate .none .exception [arg] h s).2.heap.messageOf?
        (Operation.instantiate .none .exception [arg] h s).1 = some long
      rw [eq, Heap.messageOf?_object, state]
      rfl
    have bound := limited [] .none s .exception mem [arg] long held
    rw [bytes] at bound
    exact absurd bound (by decide)
  · exact no _ (.text text)

end Exception

end SlotVM
