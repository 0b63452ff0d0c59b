import SlotVM.Text.Utf8

namespace SlotVM

/-- A hash of the encoded text, each byte added to 31 times the hash so far. -/
def textHash (text : String) : UInt32 :=
  (encodeText text).foldl (fun h b => h * 31 + b.toUInt32) 0

/-- Mixes the high bits into the low ones, since only low bits choose a chain. -/
def mixHash (h : UInt32) : UInt32 :=
  let g := h ^^^ ((h >>> 20) ^^^ (h >>> 12))
  g ^^^ (g >>> 7) ^^^ (g >>> 4)

namespace Dict

/-- The hash that an entry of the key carries. -/
def keyHash (key : String) : UInt32 := mixHash (textHash key)

structure Entry (V : Type) where
  key : String
  hash : UInt32
  value : V

/-- Three quarters of a number of chains. -/
def thresholdOf (capacity : Nat) : Nat := capacity * 3 / 4

/-- The number of chains of a new dictionary. -/
def initialCapacity : Nat := 32

/-- The place of a hash among `capacity` chains, a power of two. -/
def bucketOf (hash : UInt32) (capacity : Nat) : Nat := hash.toNat &&& (capacity - 1)

end Dict

structure Dict (V : Type) where
  table : Array (List (Dict.Entry V))
  count : Nat
  threshold : Nat

namespace Dict

variable {V : Type}

def empty : Dict V := ⟨Array.replicate initialCapacity [], 0, thresholdOf initialCapacity⟩

instance : EmptyCollection (Dict V) := ⟨empty⟩

instance : Inhabited (Dict V) := ⟨empty⟩

def size (d : Dict V) : Nat := d.count

def isEmpty (d : Dict V) : Bool := d.count == 0

def capacity (d : Dict V) : Nat := d.table.size

def Entry.isFor (e : Entry V) (key : String) : Bool := e.hash == keyHash key && e.key == key

def chain (d : Dict V) (key : String) : List (Entry V) :=
  d.table.getD (bucketOf (keyHash key) d.capacity) []

def get? (d : Dict V) (key : String) : Option V :=
  ((d.chain key).find? (·.isFor key)).map (·.value)

def contains (d : Dict V) (key : String) : Bool := (d.get? key).isSome

/-- The chain with a new value for the key, and the value it had; nothing if the key is not in it. -/
def replace? (key : String) (value : V) : List (Entry V) → Option (V × List (Entry V))
  | [] => none
  | e :: rest =>
    if e.isFor key then some (e.value, { e with value } :: rest)
    else (replace? key value rest).map fun (old, rest) => (old, e :: rest)

/-- Puts an entry at the head of its chain. -/
def link (table : Array (List (Entry V))) (e : Entry V) : Array (List (Entry V)) :=
  table.modify (bucketOf e.hash table.size) (e :: ·)

/-- All entries, in the order of the chains. -/
def entries (d : Dict V) : List (Entry V) := d.table.toList.flatten

/-- The same entries in twice as many chains. -/
def grow (d : Dict V) : Dict V :=
  let capacity := 2 * d.capacity
  ⟨d.entries.foldl link (Array.replicate capacity []), d.count, thresholdOf capacity⟩

/-- Sets the value of a key. The value that the key had comes back; a new key counts, and makes a
dictionary grow that was at its threshold before. -/
def put (d : Dict V) (key : String) (value : V) : Option V × Dict V :=
  match replace? key value (d.chain key) with
  | some (old, chain) =>
    (some old, { d with table := d.table.modify (bucketOf (keyHash key) d.capacity) fun _ => chain })
  | none =>
    let full := d.threshold ≤ d.count
    let d := { d with table := link d.table ⟨key, keyHash key, value⟩, count := d.count + 1 }
    (none, if full then d.grow else d)

/-- Applies a function with effects to every value, chain by chain: what one call leaves behind is
there for the next one. -/
def mapM {m : Type → Type} [Monad m] (f : V → m V) (d : Dict V) : m (Dict V) := do
  let table ← d.table.mapM fun chain => chain.mapM fun e => do
    let value ← f e.value
    return { e with value }
  return { d with table }

def toList (d : Dict V) : List (String × V) := d.entries.map fun e => (e.key, e.value)

end Dict

end SlotVM
