import SlotVM.Builtin.Function

namespace SlotVM

namespace Operation

variable (host : Host)

/-- Goes on with the class of an operand. -/
def withClass (v : Value) (go : ClassId → Run Value) : Run Value :=
  match v.cls? with
  | some cls => go cls
  | none => Run.internal "operand has no class"

def nameOf (cls : ClassId) : Run String := return (← read).nameOf cls

/-- A new object of a class, initialised by its constructor. -/
def instantiate (cls : ClassId) (args : List Value) : Run Value := do
  match (← read).get? cls with
  | none => Run.internal "instantiate on unregistered class"
  | some c =>
    match c.init with
    | none => Exception.throwing (.notInstantiable c.name)
    | some init =>
      match c.layout with
      | .plain => init.fn host (← Run.newPlain cls) args
      | .fields => init.fn host (← Run.newFields cls c.zeroedFields) args
      | .exception => init.fn host (← Run.newException cls none false) args
      | .text => init.fn host (← Run.newTextOf cls "") args
      | .method | .code => Exception.throwing (.notInstantiable c.name)

def hash (v : Value) : Run Value :=
  withClass v fun cls => do
    match ← Run.resolve cls .hash with
    | some f => return .int (← f.fn host v)
    | none => Exception.throwing (.unsupportedOperand "hash" (← nameOf cls))

/-- The lines that printing a value writes. -/
def print (v : Value) : Run (Except Fault (List String)) := do
  match v with
  | .int n => return .ok [toString n.toInt]
  | .float x => return .ok [x.toFixed]
  | .object o =>
    if (← Run.heap).isActive v then return .ok [← toText host v]
    match ← Run.resolve o.cls .print with
    | some f => return .ok (← f.fn host v)
    | none => return .ok [← toText host v]
  | _ => return .error (.internal "print on a sentinel value")

/-- The answer of the left slot or else of the reflected slot; both may decline. -/
def binaryRaw (op : BinaryOp) (a b : Value) : Run Value :=
  withClass a fun left => withClass b fun right => do
    let result ← match ← Run.resolve left (.binary op) with
      | some f => f.fn host a b
      | none => pure .unsupported
    if result.isUnsupported then
      match ← Run.resolve right (.reflected op) with
      | some f => f.fn host b a
      | none => return result
    else return result

/-- Turns the signals of an operator into exceptions that name it by its token. -/
def settle (token : String) (a b : Value) : Value → Run Value
  | .unsupported => do
    Exception.throwing (.unsupportedOperands token (← Run.className a) (← Run.className b))
  | .divByZero => Exception.throwing .divisionByZero
  | result => return result

def binary (op : BinaryOp) (a b : Value) : Run Value := do
  settle op.token a b (← binaryRaw host op a b)

/-- A compound assignment; where its own slot declines, the plain operator follows. -/
def inplace (op : BinaryOp) (a b : Value) : Run Value :=
  withClass a fun cls => do
    let result ← match ← Run.resolve cls (.inplace op) with
      | some f => f.fn host a b
      | none => pure .unsupported
    let result ← if result.isUnsupported then binaryRaw host op a b else pure result
    settle op.inplaceToken a b result

def unary (op : UnaryOp) (v : Value) : Run Value :=
  withClass v fun cls => do
    let result ← match ← Run.resolve cls (.unary op) with
      | some f => f.fn host v
      | none => pure .unsupported
    if result.isUnsupported then
      Exception.throwing (.unsupportedOperand op.token (← nameOf cls))
    else return result

/-- Whether a condition with this value holds. -/
def truthy (v : Value) : Run Bool := do
  match v.cls? with
  | none => return false
  | some cls =>
    match ← Run.resolve cls .nonzero with
    | some f => f.fn host v
    | none => return true

/-- The right operand is not looked at where the left one decides. -/
def both (a b : Value) : Run Value := do
  if ← truthy host a then return .ofBool (← truthy host b) else return .ofBool false

/-- The right operand is not looked at where the left one decides. -/
def either (a b : Value) : Run Value := do
  if ← truthy host a then return .ofBool true else return .ofBool (← truthy host b)

def negation (v : Value) : Run Value := return .ofBool (!(← truthy host v))

/-- Equality by the slot of the left class. -/
def eq (a b : Value) : Run Value :=
  withClass a fun cls => do
    match ← Run.resolve cls .eq with
    | some f => return .ofBool (← f.fn host a b)
    | none => return .ofBool false

def neq (a b : Value) : Run Value := do
  match ← eq host a b with
  | .int n => return .ofBool (n == 0)
  | result => return result

/-- An ordering by the slot of the left class, which must give an integer. -/
def compare (op : CompareOp) (a b : Value) : Run Value :=
  withClass a fun cls => do
    let declined : Run Value := do
      Exception.throwing (.unsupportedOperands op.token (← nameOf cls) (← Run.className b))
    match ← Run.resolve cls .cmp with
    | none => declined
    | some f =>
      match ← f.fn host a b with
      | .int n => return .ofBool (op.test n)
      | .unsupported => declined
      | result =>
        if ← Run.isFailure result then return result
        else Run.fault (.badComparison (← nameOf cls))

def get (v index : Value) : Run Value :=
  withClass v fun cls => do
    match ← Run.resolve cls .get with
    | some f => f.fn host v index
    | none => Exception.throwing (.notIndexable (← nameOf cls))

def set (v index element : Value) : Run Value :=
  withClass v fun cls => do
    match ← Run.resolve cls .set with
    | some f => f.fn host v index element
    | none => Exception.throwing (.notIndexable (← nameOf cls))

def len (v : Value) : Run Value :=
  withClass v fun cls => do
    match ← Run.resolve cls .len with
    | some f => return .int (← f.fn host v).toInt64
    | none => Exception.throwing (.noLength (← nameOf cls))

def isCallable (v : Value) : Run Bool := do
  match v.cls? with
  | some cls => return (← Run.resolve cls .call).isSome
  | none => return false

def call (f : Value) (args : List Value) : Run Value :=
  withClass f fun cls => do
    match ← Run.resolve cls .call with
    | some call => call.fn host f args
    | none => Exception.throwing (.notCallable (← nameOf cls))

/-- Applies a function to what a value contains, for a new value. -/
def apply (v f : Value) : Run Value :=
  withClass v fun cls => do
    match ← Run.resolve cls .apply with
    | none => Exception.throwing (.notApplicable (← nameOf cls))
    | some apply =>
      if ← isCallable f then apply.fn host v f
      else Exception.throwing (.notCallable (← Run.className f))

/-- Applies a function to what a value contains, in place where the class can do that. -/
def iapply (v f : Value) : Run Value :=
  withClass v fun cls => do
    if ← isCallable f then
      match ← Run.resolve cls .iapply with
      | some iapply => iapply.fn host v f
      | none =>
        match ← Run.resolve cls .apply with
        | some apply => apply.fn host v f
        | none => Exception.throwing (.notApplicable (← nameOf cls))
    else Exception.throwing (.notCallable (← Run.className f))

def iter (v : Value) : Run Value :=
  withClass v fun cls => do
    match ← Run.resolve cls .iter with
    | some f => f.fn host v
    | none => Exception.throwing (.notIterable (← nameOf cls))

/-- The next element, the signal for the end, or a failure. -/
def iterNext (v : Value) : Run Value :=
  withClass v fun cls => do
    match ← Run.resolve cls .iterNext with
    | some f => f.fn host v
    | none => Exception.throwing (.notIterator (← nameOf cls))

def toInt (v : Value) : Run Value :=
  withClass v fun cls => do
    match ← Run.resolve cls .toInt with
    | some f => f.fn host v
    | none => Exception.throwing (.unsupportedOperand "Int()" (← nameOf cls))

def toFloat (v : Value) : Run Value :=
  withClass v fun cls => do
    match ← Run.resolve cls .toFloat with
    | some f => f.fn host v
    | none => Exception.throwing (.unsupportedOperand "Float()" (← nameOf cls))

/-- How far the search for an element has come. -/
inductive Search where
  | decided (answer : Value)
  | ongoing (next : Native .unary) (iterator : Value)

/-- Decides membership by the slot for it, or else opens a search with an iterator. -/
def beginSearch (element collection : Value) : Run Search := do
  let lacking (v : Value) (c : String → Condition) : Run Search := do
    return .decided (← Exception.throwing (c (← Run.className v)))
  match collection.cls? with
  | none => return .decided (← Run.internal "operand has no class")
  | some cls =>
    match ← Run.resolve cls .contains with
    | some f => return .decided (.ofBool (← f.fn host collection element))
    | none =>
      match ← Run.resolve cls .iter with
      | none => lacking collection .notIterable
      | some f =>
        let iterator ← f.fn host collection
        if ← Run.isFailure iterator then return .decided iterator
        match iterator.cls? with
        | none => return .decided (← Run.internal "operand has no class")
        | some cls =>
          match ← Run.resolve cls .iterNext with
          | none => lacking iterator .notIterator
          | some next => return .ongoing next iterator

/-- Compares the next element of an iterator; no answer means that the search goes on. -/
def searchNext (next : Native .unary) (iterator element : Value) : Run (Option Value) := do
  let found ← next.fn host iterator
  if found.isIterStop then return some (.ofBool false)
  if ← Run.isFailure found then return some found
  match ← eq host found element with
  | .int n => return if n == 0 then none else some (.ofBool true)
  | failure => return some failure

def searchWithin (next : Native .unary) (iterator element : Value) : Nat → Run (Option Value)
  | 0 => return none
  | limit + 1 => do
    match ← searchNext host next iterator element with
    | some answer => return some answer
    | none => searchWithin next iterator element limit

/-- Membership; there is no answer if an iterator is not decided after `limit` elements. -/
def contains (limit : Nat) (element collection : Value) : Run (Option Value) := do
  match ← beginSearch host element collection with
  | .decided answer => return some answer
  | .ongoing next iterator => searchWithin host next iterator element limit

end Operation

end SlotVM
